import ToolAgent.Conversation.Message
import ToolAgent.Gateway.Failure
import ToolAgent.Json.Printer
import ToolAgent.Tool.Basic

/-!
# Conversations and tools on the wire

The entries by which a completion request tells the model what has been said and what tools there
are. Tool names are sent in their wire form, and all content is sent as text.
-/

namespace ToolAgent

/-- Text is sent as it is, any other value as its JSON text. -/
def Json.asContent : Json → String
  | .str text => text
  | v => v.toText

/-- Arguments that are a string were never readable; they go back as they came. -/
def ToolCall.toEntry (call : ToolCall) : Json :=
  .object [
    ("id", .str (call.id.getD "")),
    ("type", .str "function"),
    ("function", .object [
      ("name", .str (wireName call.name)),
      ("arguments", .str call.args.asContent)])]

/-- The entry of a message, none for one that is of no known kind. An assistant's entry leaves out
what is empty, but has one or the other. -/
def Message.toEntry? : Message → Option Json
  | .user content => some (.object [("role", .str "user"), ("content", .str content)])
  | .system content => some (.object [("role", .str "system"), ("content", .str content)])
  | .assistant content calls =>
    let content? := if content = "" && !calls.isEmpty then [] else [("content", Json.str content)]
    let calls? :=
      if calls.isEmpty then [] else [("tool_calls", Json.arr (calls.map ToolCall.toEntry))]
    some (.object ([("role", .str "assistant")] ++ content? ++ calls?))
  | .tool result =>
    some (.object [
      ("role", .str "tool"),
      ("content", .str result.content.asContent),
      ("tool_call_id", .str result.callId)])
  | .function name content =>
    some (.object [
      ("role", .str "function"),
      ("name", .str (wireName name)),
      ("content", .str content.asContent)])
  | .unknown _ => none

/-- The entries of a conversation, in order. -/
def conversationEntries (messages : List Message) : List Json :=
  messages.filterMap Message.toEntry?

def ToolSpec.toEntry (tool : ToolSpec) : Json :=
  .object [
    ("type", .str "function"),
    ("function", .object [
      ("name", .str (wireName tool.name)),
      ("description", .str tool.description),
      ("parameters", tool.parameters)])]

/-- The entries of tools whose wire names must differ from each other and from those in `taken`. -/
def toolEntries (taken : List String) : List ToolSpec → Except GatewayFailure (List Json)
  | [] => .ok []
  | tool :: tools =>
    if wireName tool.name ∈ taken then .error (.duplicateTool tool.name)
    else (toolEntries (wireName tool.name :: taken) tools).map (tool.toEntry :: ·)

end ToolAgent
