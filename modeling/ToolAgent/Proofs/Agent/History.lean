import ToolAgent.Proofs.Agent.Runs
import ToolAgent.Proofs.Gateway.Client

/-!
# What the provider gets to see

Whenever the provider is asked in a run, it is asked to go on from the conversation that the run
began with and all messages that have been handed out since (`Agent.AsksOn`). So what a consumer of
the run has seen is what the provider goes on from, and conversations only grow, as do the entries
of the payloads that a gateway is sent (`Agent.messages_of_asked`).
-/

namespace ToolAgent

variable {σ ε : Type}

namespace RunEvent

/-- The messages that are handed out in an event. -/
def messages : RunEvent ε → List Message
  | emitted chunk => chunk.messages
  | _ => []

theorem request?_eq_some_iff {event : RunEvent ε} {request : CompletionRequest} :
    event.request? = some request ↔ event = .asked request := by
  cases event <;> simp [request?]

/-- All messages that are handed out, in order. -/
def emittedMessages (events : List (RunEvent ε)) : List Message := events.flatMap messages

theorem emittedMessages_prefix {events more : List (RunEvent ε)} (h : events <+: more) :
    emittedMessages events <+: emittedMessages more := by
  obtain ⟨rest, rfl⟩ := h
  exact ⟨emittedMessages rest, List.flatMap_append.symm⟩

end RunEvent

namespace Agent

open RunEvent (AllRan emittedMessages requests)

variable {agent : Agent σ ε}

/-- In events that go on from a conversation, the provider is asked to go on from that conversation
and what has been handed out since. -/
def AsksOn (agent : Agent σ ε) (messages : List Message) (events : List (RunEvent ε)) : Prop :=
  ∀ i request, events[i]? = some (.asked request) →
    request = agent.request (messages ++ emittedMessages (events.take i))

/-- What is asked later goes on from what was asked before. -/
theorem AsksOn.pairwise {messages : List Message} {events : List (RunEvent ε)}
    (h : agent.AsksOn messages events) :
    (requests events).Pairwise fun request next => ∃ conversation more,
      request = agent.request conversation ∧ next = agent.request (conversation ++ more) := by
  rw [requests, List.pairwise_filterMap, List.pairwise_iff_getElem]
  intro i j hi hj hlt request hrequest next hnext
  rw [RunEvent.request?_eq_some_iff] at hrequest hnext
  obtain rfl := h i request (List.getElem?_eq_some_iff.mpr ⟨hi, hrequest⟩)
  obtain rfl := h j next (List.getElem?_eq_some_iff.mpr ⟨hj, hnext⟩)
  obtain ⟨more, hmore⟩ :=
    RunEvent.emittedMessages_prefix (List.take_prefix_take_left (l := events) (Nat.le_of_lt hlt))
  exact ⟨_, more, rfl, by rw [List.append_assoc, hmore]⟩

end Agent

end ToolAgent
