import ToolAgent.AgentError

/-!
# Tools

What a model is told of a tool, and what the tool does. Running a tool may use and change a state
that all tools share.
-/

namespace ToolAgent

/-- The name by which a tool goes on the wire: letters, digits, `_` and `-` only. -/
def wireName (name : String) : String :=
  String.ofList (name.toList.map fun c => if c.isAlphanum || c = '_' || c = '-' then c else '_')

structure ToolSpec where
  name : String
  description : String
  /-- A JSON schema of the arguments. -/
  parameters : Json
deriving DecidableEq

/-- Why a tool gave no result. -/
inductive ToolFailure where
  | agent (e : AgentError)
  | plain (text : String)
  | inContext (text : String) (cause : ToolFailure)
deriving DecidableEq

namespace ToolFailure

/-- The text of the outermost layer. -/
def message : ToolFailure → String
  | agent e => e.message
  | plain text | inContext text _ => text

/-- The agent error at the bottom, if there is one. -/
def agentError? : ToolFailure → Option AgentError
  | agent e => some e
  | plain _ => none
  | inContext _ cause => cause.agentError?

/-- What is reported to the model: an agent error as it is, anything else as a failed execution. -/
def toAgentError (failure : ToolFailure) : AgentError :=
  failure.agentError?.getD (.executionError failure.message)

end ToolFailure

structure Tool (σ : Type) extends ToolSpec where
  run : Json → StateM σ (Except ToolFailure Json)

namespace Tool

/-- A tool whose result depends on its arguments alone. -/
def pure {σ : Type} (spec : ToolSpec) (f : Json → Except ToolFailure Json) : Tool σ where
  toToolSpec := spec
  run args := Pure.pure (f args)

end Tool

end ToolAgent
