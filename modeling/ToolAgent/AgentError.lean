import ToolAgent.Json.Tagged

/-!
# Errors of an agent

What can go wrong between a model's request and a tool's answer, the wording, and the wire form.
-/

namespace ToolAgent

inductive AgentError where
  | toolNotFound (name : String)
  | invalidParameters (text : String)
  | executionError (text : String)
  | turnLimitExceeded (limit : UInt64)
  | internal (text : String)
deriving DecidableEq

namespace AgentError

def message : AgentError → String
  | toolNotFound name => "Tool not found: " ++ name
  | invalidParameters text => "Invalid parameters: " ++ text
  | executionError text => "Tool execution failed: " ++ text
  | turnLimitExceeded limit => s!"Turn limit of {limit.toNat} model calls exceeded"
  | internal text => "Internal error: " ++ text

def toJson : AgentError → Json
  | toolNotFound name => .obj [("ToolNotFound", .str name)]
  | invalidParameters text => .obj [("InvalidParameters", .str text)]
  | executionError text => .obj [("ExecutionError", .str text)]
  | turnLimitExceeded limit => .obj [("TurnLimitExceeded", .ofUInt64 limit)]
  | internal text => .obj [("Internal", .str text)]

def decoder : Json.Decoder AgentError :=
  .tagged [
    ("ToolNotFound", Json.Decoder.string.map toolNotFound),
    ("InvalidParameters", Json.Decoder.string.map invalidParameters),
    ("ExecutionError", Json.Decoder.string.map executionError),
    ("TurnLimitExceeded", Json.Decoder.uint64.map turnLimitExceeded),
    ("Internal", Json.Decoder.string.map internal)]

end AgentError

end ToolAgent
