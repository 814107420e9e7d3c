import ToolAgent.Conversation.Message
import ToolAgent.Gateway.Failure
import ToolAgent.Json.Parser
import ToolAgent.Text.Blank

/-!
# Messages from completions

A completion holds the assistant's message in its first choice. Missing or mistyped parts of it read
as empty.
-/

namespace ToolAgent

/-- What a tool is given for the arguments text of a call: no arguments for a blank text, and the
text itself when it is not JSON. -/
def interpretArguments (text : String) : Json :=
  if Text.allBlank text then .obj []
  else (Json.parse text).toOption.getD (.str text)

/-- A call as the completion lists it; an empty id is no id. -/
def ToolCall.ofEntry (entry : Json) : ToolCall :=
  let function := entry.getD "function"
  { name := (function.getString? "name").getD ""
    args := interpretArguments ((function.getString? "arguments").getD "")
    id := (entry.getString? "id").filter (· ≠ "") }

def Message.ofEntry (entry : Json) : Message :=
  let calls := ((entry.get? "tool_calls").bind Json.asArray?).getD []
  .assistant ((entry.getString? "content").getD "") (calls.map ToolCall.ofEntry)

def Message.ofResponse (response : Json) : Except GatewayFailure Message :=
  match (response.get? "choices").bind (Json.at? 0) |>.bind (Json.get? "message") with
  | some entry => .ok (.ofEntry entry)
  | none => .error (.noMessage response)

/-- The text of an error object that says the input is too long. -/
def tooLongText? (error : Json) : Option String := do
  let code ← error.getString? "code"
  if code = "context_length_exceeded" || code = "string_above_max_length" then
    some ((error.getString? "message").getD "Unknown error")
  else none

end ToolAgent
