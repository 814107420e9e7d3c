import ToolAgent.CommandLine.Number

/-!
# Flags

The flags that take a value, the ones that ask about the program, and how a single argument is told
to be one or the other. Flags have to be spelled out.
-/

namespace ToolAgent.CommandLine

/-- The flags that take a value. -/
inductive Flag where
  | host | workspaceId | environmentId | resourceId | apiKey | model | temperature | maxTokens
  | overrideProvider | overrideModel | overrideConnectionId | correlationId | secondaryModelIndex
  | system | message
deriving DecidableEq, Repr

namespace Flag

def all : List Flag :=
  [host, workspaceId, environmentId, resourceId, apiKey, model, temperature, maxTokens,
    overrideProvider, overrideModel, overrideConnectionId, correlationId, secondaryModelIndex,
    system, message]

theorem mem_all (flag : Flag) : flag ∈ all := by
  cases flag <;> decide

def name : Flag → String
  | host => "host"
  | workspaceId => "workspace-id"
  | environmentId => "environment-id"
  | resourceId => "resource-id"
  | apiKey => "api-key"
  | model => "model"
  | temperature => "temperature"
  | maxTokens => "max-tokens"
  | overrideProvider => "override-provider"
  | overrideModel => "override-model"
  | overrideConnectionId => "override-connection-id"
  | correlationId => "correlation-id"
  | secondaryModelIndex => "secondary-model-index"
  | system => "system"
  | message => "message"

def letter? : Flag → Option Char
  | model => some 'm'
  | _ => none

/-- What the flag sets; of two flags that is not said. -/
def description : Flag → String
  | host => "Gateway host (can also be set via VMX_AI_HOST)"
  | workspaceId => "Workspace id (can also be set via VMX_AI_WORKSPACE_ID)"
  | environmentId => "Environment id (can also be set via VMX_AI_ENVIRONMENT_ID)"
  | resourceId => "AI resource id (can also be set via VMX_AI_RESOURCE_ID)"
  | apiKey => "API key (can also be set via VMX_AI_API_KEY environment variable)"
  | model => "Model to request; \"router\" uses the resource's model/routing configuration"
  | temperature | maxTokens => ""
  | overrideProvider => "Provider to force for this request, instead of the resource configuration"
  | overrideModel => "Model to force for this request"
  | overrideConnectionId => "Connection to force for this request"
  | correlationId => "Correlation id for tracing the request through the gateway"
  | secondaryModelIndex => "Route to one of the resource's secondary models"
  | system => "System instruction sent ahead of the user message"
  | message => "User message"

/-- The flag as it is shown, with a placeholder for its value. -/
def usage (flag : Flag) : String :=
  let placeholder := flag.name.map fun c => if c = '-' then '_' else c.toUpper
  "--" ++ flag.name ++ " <" ++ placeholder ++ ">"

def ofName? (name : String) : Option Flag :=
  all.find? (·.name = name)

def ofLetter? (letter : Char) : Option Flag :=
  all.find? (·.letter? = some letter)

@[simp] theorem ofName?_name (flag : Flag) : ofName? flag.name = some flag := by
  cases flag <;> decide

end Flag

/-- The flags that ask about the program itself. -/
inductive Query where
  | help
  | version
deriving DecidableEq, Repr

namespace Query

def all : List Query :=
  [help, version]

def name : Query → String
  | help => "help"
  | version => "version"

/-- The flag as it is shown. -/
def usage (query : Query) : String :=
  "--" ++ query.name

def letter : Query → Char
  | help => 'h'
  | version => 'V'

def description : Query → String
  | help => "Print help"
  | version => "Print version"

def ofName? (name : String) : Option Query :=
  all.find? (·.name = name)

def ofLetter? (letter : Char) : Option Query :=
  all.find? (·.letter = letter)

end Query

/-- What an argument is by its looks. -/
inductive Argument where
  /-- A flag, with the value that is attached to it. -/
  | flag (flag : Flag) (attached : Option String)
  | query (query : Query) (attached : Option String)
  /-- Looks like a flag, and is none; shown without an attached value. -/
  | unknown (shown : String)
  | separator
  | plain (text : String)
deriving DecidableEq, Repr

namespace Argument

/-- An argument that begins with two hyphens; a value may follow an equals sign. -/
def ofLong (cs : List Char) : Argument :=
  let name := String.ofList (cs.takeWhile (· ≠ '='))
  let attached := match cs.dropWhile (· ≠ '=') with
    | [] => none
    | _ :: value => some (String.ofList value)
  match Flag.ofName? name, Query.ofName? name with
  | some f, _ => .flag f attached
  | none, some q => .query q attached
  | none, none => .unknown ("--" ++ name)

/-- What follows a letter is its value, with or without an equals sign. A letter that asks about the
program takes none, and nothing after it is looked at. -/
def ofShort (letter : Char) (rest : List Char) : Argument :=
  match Flag.ofLetter? letter, Query.ofLetter? letter with
  | some f, _ => .flag f <|
    match rest with
    | [] => none
    | '=' :: value | value => some (String.ofList value)
  | none, some q => .query q none
  | none, none => .unknown (String.ofList ['-', letter])

/-- A lone hyphen is plain. -/
def ofText (text : String) : Argument :=
  match text.toList with
  | ['-', '-'] => .separator
  | '-' :: '-' :: cs => ofLong cs
  | '-' :: c :: cs => ofShort c cs
  | _ => .plain text

end Argument

end ToolAgent.CommandLine
