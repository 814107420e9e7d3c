import ToolAgent.CommandLine.Flag
import ToolAgent.CommandLine.Style
import ToolAgent.Gateway.Environment
import ToolAgent.Conversation.Message

/-!
# Options

Arguments are read from left to right. A value that stands apart from its flag is settled only when
the next flag turns up or the arguments end, so that an argument out of place is reported first.
-/

namespace ToolAgent.CommandLine

structure Options where
  host : Option String := none
  workspaceId : Option String := none
  environmentId : Option String := none
  resourceId : Option String := none
  apiKey : Option String := none
  model : Option String := none
  temperature : Option Float32 := none
  maxTokens : Option Int32 := none
  overrideProvider : Option String := none
  overrideModel : Option String := none
  overrideConnectionId : Option String := none
  correlationId : Option String := none
  secondaryModelIndex : Option UInt32 := none
  system : Option String := none
  message : Option String := none
deriving DecidableEq

/-- Why arguments are refused. -/
inductive UsageError where
  | unexpected (argument : String)
  | missingValue (flag : Flag)
  | invalidValue (flag : Flag) (value : String) (fault : NumberFault)
  | repeated (flag : Flag)
  | unneededValue (query : Query) (value : String)
deriving DecidableEq, Repr

/-- What is wrong with the arguments, perhaps with styles. -/
def UsageError.message (isStyled : Bool) (e : UsageError) : String :=
  let invalid := Style.paint isStyled .invalid
  let literal := Style.paint isStyled .literal
  match e with
  | unexpected argument => s!"unexpected argument '{invalid argument}' found"
  | missingValue flag => s!"a value is required for '{invalid flag.usage}' but none was supplied"
  | invalidValue flag value fault =>
    s!"invalid value '{invalid value}' for '{literal flag.usage}': {fault.message}"
  | repeated flag => s!"the argument '{invalid flag.usage}' cannot be used multiple times"
  | unneededValue query value =>
    s!"unexpected value '{invalid value}' for '{literal query.usage}' found; no more were expected"

/-- What the arguments ask for. -/
inductive Invocation where
  | run (options : Options)
  | query (query : Query)
deriving DecidableEq

/-- The value of a flag that has none yet. -/
def fill {α : Type} (flag : Flag) (slot : Option α) (read : String → Except NumberFault α)
    (value : String) : Except UsageError (Option α) :=
  if slot.isSome then .error (.repeated flag)
  else ((read value).map some).mapError (.invalidValue flag value)

def Options.set (o : Options) (flag : Flag) (value : String) : Except UsageError Options :=
  match flag with
  | .host => do return { o with host := ← fill flag o.host .ok value }
  | .workspaceId => do return { o with workspaceId := ← fill flag o.workspaceId .ok value }
  | .environmentId => do return { o with environmentId := ← fill flag o.environmentId .ok value }
  | .resourceId => do return { o with resourceId := ← fill flag o.resourceId .ok value }
  | .apiKey => do return { o with apiKey := ← fill flag o.apiKey .ok value }
  | .model => do return { o with model := ← fill flag o.model .ok value }
  | .temperature => do return { o with temperature := ← fill flag o.temperature single value }
  | .maxTokens => do return { o with maxTokens := ← fill flag o.maxTokens int32 value }
  | .overrideProvider =>
    do return { o with overrideProvider := ← fill flag o.overrideProvider .ok value }
  | .overrideModel => do return { o with overrideModel := ← fill flag o.overrideModel .ok value }
  | .overrideConnectionId =>
    do return { o with overrideConnectionId := ← fill flag o.overrideConnectionId .ok value }
  | .correlationId => do return { o with correlationId := ← fill flag o.correlationId .ok value }
  | .secondaryModelIndex =>
    do return { o with secondaryModelIndex := ← fill flag o.secondaryModelIndex uint32 value }
  | .system => do return { o with system := ← fill flag o.system .ok value }
  | .message => do return { o with message := ← fill flag o.message .ok value }

/-- The flag read last, when no value is attached to it, and the value that has followed. -/
structure Pending where
  flag : Flag
  value : Option String := none

/-- The options once a pending flag has got its value. -/
def Options.settle (o : Options) : Option Pending → Except UsageError Options
  | none => .ok o
  | some ⟨flag, none⟩ => .error (.missingValue flag)
  | some ⟨flag, some value⟩ => o.set flag value

namespace Invocation

def readFrom (o : Options) (pending : Option Pending) : List String → Except UsageError Invocation
  | [] => (o.settle pending).map run
  | arg :: rest =>
    match Argument.ofText arg, pending with
    | .flag flag none, _ => do readFrom (← o.settle pending) (some { flag }) rest
    | .flag flag (some value), _ => do readFrom (← (← o.settle pending).set flag value) none rest
    | .query q none, _ => (o.settle pending).map fun _ => query q
    | .query q (some value), _ => .error (.unneededValue q value)
    | .unknown shown, _ => .error (.unexpected shown)
    | .separator, _ =>
      match rest with
      | [] => (o.settle pending).map run
      | stray :: _ => .error (.unexpected stray)
    | .plain text, some ⟨flag, none⟩ => readFrom o (some ⟨flag, some text⟩) rest
    | .plain text, _ => .error (.unexpected text)

def ofArgs (args : List String) : Except UsageError Invocation :=
  readFrom {} none args

end Invocation

namespace Options

def defaultSystem : String :=
  "You are a helpful assistant, always provide a fun fact about the asked location"

def defaultMessage : String :=
  "what is the weather in sf"

/-- The value of a flag that is not given. -/
def default? : Flag → Option String
  | .system => some defaultSystem
  | .message => some defaultMessage
  | _ => none

def systemText (o : Options) : String :=
  o.system.getD defaultSystem

def messageText (o : Options) : String :=
  o.message.getD defaultMessage

/-- The conversation to be answered. -/
def conversation (o : Options) : List Message :=
  [.system o.systemText, .user o.messageText]

def extension (o : Options) : RoutingExtension :=
  RoutingExtension.withModelOverride
    { correlationId := o.correlationId, secondaryModelIndex := o.secondaryModelIndex }
    { provider := o.overrideProvider
      model := o.overrideModel
      connectionId := o.overrideConnectionId }

/-- A configuration in which every option that is given takes the place of what was there. -/
def overriding (o : Options) (config : GatewayConfig) : GatewayConfig :=
  { config with
    host := o.host.getD config.host
    workspaceId := o.workspaceId.getD config.workspaceId
    environmentId := o.environmentId.getD config.environmentId
    resourceId := o.resourceId.getD config.resourceId
    apiKey := o.apiKey.or config.apiKey
    model := o.model.getD config.model
    temperature := o.temperature.or config.temperature
    maxTokens := o.maxTokens.or config.maxTokens }

/-- The configuration that the options and the environment ask for. -/
def config (o : Options) (env : Environment) : Except EnvironmentError GatewayConfig :=
  (GatewayConfig.ofEnvironment env).map fun config =>
    (o.overriding config).withExtension o.extension

end Options

end ToolAgent.CommandLine
