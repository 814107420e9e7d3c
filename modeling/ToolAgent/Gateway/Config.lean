import ToolAgent.Gateway.Routing
import ToolAgent.Text.Blank

/-!
# Gateway configuration

Where completions are asked for, and what is sent with every request.
-/

namespace ToolAgent

structure GatewayConfig where
  host : String
  workspaceId : String
  environmentId : String
  resourceId : String
  apiKey : Option String := none
  model : String
  temperature : Option Float32 := none
  maxTokens : Option Int32 := none
  extension : Option RoutingExtension := none
deriving DecidableEq

namespace GatewayConfig

def defaultHost : String := "http://localhost:3000"

def defaultWorkspaceId : String := "8eab8372-a0ae-4856-9d6e-ad8589499c80"

def defaultEnvironmentId : String := "c24ff5a5-40f1-417c-919d-b627f06060b0"

def defaultResourceId : String := "openai"

/-- The model name that leaves the choice to the resource's own configuration. -/
def routerModel : String := "router"

/-- A configuration for a resource, with nothing else set. -/
def forResource (host workspaceId environmentId resourceId : String) : GatewayConfig :=
  { host, workspaceId, environmentId, resourceId, model := routerModel }

def withApiKey (config : GatewayConfig) (key : String) : GatewayConfig :=
  { config with apiKey := some key }

/-- Puts an extension in place of the present one; an empty one is not kept. -/
def withExtension (config : GatewayConfig) (extension : RoutingExtension) : GatewayConfig :=
  { config with extension := if extension.isEmpty then none else some extension }

/-- The host without slashes at its end. -/
def trimmedHost (host : String) : String :=
  String.ofList (Text.dropEndWhile (· == '/') host.toList)

def baseUrl (config : GatewayConfig) : String :=
  trimmedHost config.host ++ "/v1/completion/" ++ config.workspaceId ++ "/" ++
    config.environmentId ++ "/" ++ config.resourceId

def completionsUrl (config : GatewayConfig) : String :=
  config.baseUrl ++ "/chat/completions"

end GatewayConfig

end ToolAgent
