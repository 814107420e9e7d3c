import ToolAgent.Json.Decoder

/-!
# Tool calls

A request of the assistant to run a tool. The id ties the call to its result.
-/

namespace ToolAgent

structure ToolCall where
  name : String
  args : Json
  id : Option String := none
deriving DecidableEq

namespace ToolCall

/-- The id is written only when there is one. -/
def toJson (call : ToolCall) : Json :=
  .obj ([("name", .str call.name), ("args", call.args)] ++ Json.memberOf? "id" .str call.id)

open Json (Decoder RecordField) in
/-- The arguments may also be called `arguments`. -/
def decoder : Decoder ToolCall :=
  (Decoder.record "ToolCall" <|
    .cons (.required "name" .string) <|
    .cons { RecordField.withDefault "args" .any .null with alias? := some "arguments" } <|
    .cons (.withDefault "id" (.option .string) none) .nil).map
  fun (name, args, id, ()) => { name, args, id }

end ToolCall

end ToolAgent
