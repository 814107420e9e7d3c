import ToolAgent.Gateway.Config
import ToolAgent.Text.Quoted

/-!
# Settings from the environment

A variable is a name and bytes that need not be text. Each setting has its variable; blank ones
count as unset. A variable is found in an entry `name=value`, so what is asked for may reach into
the value: if the value of `A` is `B=x`, that of `A=B` is `x`.
-/

namespace ToolAgent

/-- The value of every variable that is set. -/
abbrev Environment := String → Option Bytes

inductive EnvironmentError where
  | missing (name : String)
  | notText (value : Bytes)
deriving DecidableEq

def EnvironmentError.message : EnvironmentError → String
  | .missing name => "Environment variable '" ++ name ++ "' is required but not set."
  | .notText value => "environment variable was not valid unicode: " ++ Text.quotedBytes value

namespace Environment

/-- The environment with these variables set, the first of each name. -/
def ofList (bindings : List (String × Bytes)) : Environment :=
  fun name => bindings.lookup name

/-- What follows `start` in bytes that begin with it. -/
def after? (start bytes : Bytes) : Option Bytes :=
  if start.isPrefixOf bytes then some (bytes.drop start.length) else none

/-- The variable in whose entry a name is looked for. -/
def ownName (name : String) : String :=
  String.ofList (name.toList.takeWhile (· ≠ '='))

/-- The value of the entry that begins with `name=`. -/
def value? (env : Environment) (name : String) : Option Bytes :=
  if ownName name = "" then none
  else
    match name.toList.dropWhile (· ≠ '=') with
    | [] => env name
    | _ :: within => (env (ownName name)).bind (after? (Utf8.encode (within ++ ['='])))

/-- The value of a variable that is set to text. -/
def text? (env : Environment) (name : String) : Option String :=
  (env.value? name).bind Bytes.toString?

/-- The text of a variable. One that is not required gives way to the default when it is unset or
blank. -/
def lookup (env : Environment) (name : String) (required : Bool) (default : Option String) :
    Except EnvironmentError (Option String) :=
  match env.value? name with
  | none => if required then .error (.missing name) else .ok default
  | some value =>
    match value.toString? with
    | none => .error (.notText value)
    | some text => if Text.allBlank text && !required then .ok default else .ok (some text)

/-- An optional setting, with its default. -/
def setting (env : Environment) (name default : String) : Except EnvironmentError String :=
  (env.lookup name false (some default)).map (·.getD default)

end Environment

/-- The variables that make up a configuration. -/
def Environment.settingNames : List String :=
  ["VMX_AI_HOST", "VMX_AI_WORKSPACE_ID", "VMX_AI_ENVIRONMENT_ID", "VMX_AI_RESOURCE_ID",
    "VMX_AI_API_KEY", "VMX_AI_MODEL"]

open GatewayConfig in
/-- The configuration that the environment asks for. The first variable that is not text fails
it. -/
def GatewayConfig.ofEnvironment (env : Environment) : Except EnvironmentError GatewayConfig := do
  let host ← env.setting "VMX_AI_HOST" defaultHost
  let workspaceId ← env.setting "VMX_AI_WORKSPACE_ID" defaultWorkspaceId
  let environmentId ← env.setting "VMX_AI_ENVIRONMENT_ID" defaultEnvironmentId
  let resourceId ← env.setting "VMX_AI_RESOURCE_ID" defaultResourceId
  let apiKey ← env.lookup "VMX_AI_API_KEY" false none
  let model ← env.setting "VMX_AI_MODEL" routerModel
  return { host, workspaceId, environmentId, resourceId, apiKey, model }

end ToolAgent
