import Mathlib.Data.List.Forall2
import ToolAgent.Agent

/-!
# What happens in a run

A run is a list of rounds: the provider is asked, its message is handed out, and when the message
calls for tools their results are handed out too. `Agent.Runs` says this as a relation, with one
constructor for each way in which a round can go, and `Agent.runs_turns` says that every run is of
that form. What holds of every run is shown by induction on the relation.
-/

namespace ToolAgent

variable {σ ε : Type}

/-! ## Steps -/

/-- A step whose outcome is known. -/
theorem run_bind_of_run_eq {α β : Type} {x : StateM σ α} {f : α → StateM σ β} {a : α} {s s' : σ}
    (h : x.run s = (a, s')) : (x >>= f).run s = (f a).run s' := by
  rw [StateT.run_bind, h]
  rfl

theorem run_pure_eq_iff {α : Type} {a b : α} {s s' : σ} :
    (pure a : StateM σ α).run s = (b, s') ↔ a = b ∧ s = s' :=
  iff_of_eq (Prod.mk.injEq a s b s')

/-! ## Events of a round -/

namespace RunEvent

variable {events : List (RunEvent ε)}

/-- In the events nothing happens but that tools are run. -/
def AllRan (events : List (RunEvent ε)) : Prop :=
  ∀ event ∈ events, ∃ tool args, event = .ran tool args

/-- To run a tool is not to hand anything out. -/
theorem items_of_allRan (h : AllRan events) : items events = [] := by
  refine List.filterMap_eq_nil_iff.mpr fun event hevent => ?_
  obtain ⟨tool, args, rfl⟩ := h event hevent
  rfl

/-- In a round with calls two chunks are handed out. -/
theorem items_round (h : AllRan events) (request : CompletionRequest) (chunk chunk' : Chunk)
    (rest : List (RunEvent ε)) :
    items ([.asked request, .emitted chunk] ++ events ++ .emitted chunk' :: rest) =
      .ok chunk :: .ok chunk' :: items rest := by
  rw [items, List.filterMap_append, List.filterMap_append, ← items, ← items, items_of_allRan h]
  rfl

end RunEvent

namespace Agent

open RunEvent (AllRan)

variable {agent : Agent σ ε}

/-! ## Calls -/

/-- The message answers the call, whatever has come of it. -/
def IsResult (call : ToolCall) (message : Message) : Prop :=
  ∃ outcome, message = resultMessage call outcome

/-- A call is answered, and nothing happens but that a tool may be run. -/
theorem runCall_spec {call : ToolCall} {s s' : σ} {events : List (RunEvent ε)} {message : Message}
    (h : (agent.runCall call).run s = ((events, message), s')) :
    IsResult call message ∧ AllRan events := by
  rw [runCall] at h
  cases hfind : agent.findTool? call.name with
  | none =>
    rw [hfind, run_pure_eq_iff, Prod.mk.injEq] at h
    obtain ⟨⟨rfl, rfl⟩, -⟩ := h
    exact ⟨⟨_, rfl⟩, by simp [AllRan]⟩
  | some tool =>
    rcases hrun : (tool.run call.args).run s with ⟨outcome, s₁⟩
    simp only [hfind, run_bind_of_run_eq hrun, run_pure_eq_iff, Prod.mk.injEq] at h
    obtain ⟨⟨rfl, rfl⟩, -⟩ := h
    exact ⟨⟨_, rfl⟩, by simp [AllRan]⟩

/-- Calls are answered one by one, in order. -/
theorem runCalls_spec {calls : List ToolCall} {s s' : σ} {events : List (RunEvent ε)}
    {messages : List Message} (h : (agent.runCalls calls).run s = ((events, messages), s')) :
    List.Forall₂ IsResult calls messages ∧ AllRan events := by
  induction calls generalizing s s' events messages with
  | nil =>
    rw [runCalls, run_pure_eq_iff, Prod.mk.injEq] at h
    obtain ⟨⟨rfl, rfl⟩, -⟩ := h
    exact ⟨.nil, by simp [AllRan]⟩
  | cons call calls ih =>
    rw [runCalls] at h
    rcases hcall : (agent.runCall call).run s with ⟨⟨first, message⟩, s₁⟩
    rcases hcalls : (agent.runCalls calls).run s₁ with ⟨⟨more, rest⟩, s₂⟩
    simp only [run_bind_of_run_eq hcall, run_bind_of_run_eq hcalls, run_pure_eq_iff,
      Prod.mk.injEq] at h
    obtain ⟨⟨rfl, rfl⟩, -⟩ := h
    obtain ⟨hmessage, hfirst⟩ := runCall_spec hcall
    obtain ⟨hrest, hmore⟩ := ih hcalls
    exact ⟨.cons hmessage hrest, List.forall_mem_append.mpr ⟨hfirst, hmore⟩⟩

/-- Every call has an id that is not empty. -/
def AllNamed (calls : List ToolCall) : Prop := ∀ call ∈ calls, ∃ id, call.id = some id ∧ id ≠ ""

/-- What the provider is asked to go on from. -/
def request (agent : Agent σ ε) (messages : List Message) : CompletionRequest :=
  ⟨agent.systemPrompt, messages, agent.tools.map Tool.toToolSpec⟩

/-- The agent can go on from the conversation and the state with these events, and has so many
provider calls left for it. -/
inductive Runs (agent : Agent σ ε) : Nat → List Message → σ → List (RunEvent ε) → Prop where
  | limit (messages : List Message) (s : σ) :
      Runs agent 0 messages s [.failed (.turnLimit agent.maxTurns)]
  | failed {left : Nat} {messages : List Message} {s s' : σ} {e : ε}
      (hasked : (agent.provider (agent.request messages)).run s = (.error e, s')) :
      Runs agent (left + 1) messages s
        [.asked (agent.request messages), .failed (.provider e)]
  | answered {left : Nat} {messages : List Message} {s s₁ s₂ : σ} {given reply : Message}
      {usage : Usage}
      (hasked : (agent.provider (agent.request messages)).run s = (.ok (given, usage), s₁))
      (hassigned : (agent.assignMessageIds given).run s₁ = (reply, s₂))
      (hcalls : reply.toolCalls = []) :
      Runs agent (left + 1) messages s
        [.asked (agent.request messages), .emitted (.model [reply])]
  | called {left : Nat} {messages results : List Message} {s s₁ s₂ s₃ : σ} {given reply : Message}
      {usage : Usage} {events rest : List (RunEvent ε)}
      (hasked : (agent.provider (agent.request messages)).run s = (.ok (given, usage), s₁))
      (hassigned : (agent.assignMessageIds given).run s₁ = (reply, s₂))
      (hcalls : reply.toolCalls ≠ [])
      (hran : (agent.runCalls reply.toolCalls).run s₂ = ((events, results), s₃))
      (hrest : Runs agent left (messages ++ reply :: results) s₃ rest) :
      Runs agent (left + 1) messages s
        ([.asked (agent.request messages), .emitted (.model [reply])] ++ events ++
          .emitted (.tools results) :: rest)

/-- With a provider call left, the provider is asked first. -/
theorem Runs.exists_asked {left : Nat} {messages : List Message} {s : σ}
    {events : List (RunEvent ε)} (h : Runs agent left messages s events) (hleft : left ≠ 0) :
    ∃ rest, events = .asked (agent.request messages) :: rest := by
  cases h with
  | limit => exact absurd rfl hleft
  | failed | answered | called => exact ⟨_, rfl⟩

/-- Every run consists of such rounds. -/
theorem runs_turns (agent : Agent σ ε) (left : Nat) (messages : List Message) (s : σ) :
    agent.Runs left messages s ((agent.turns left messages).run s).1 := by
  induction left generalizing messages s with
  | zero => exact .limit messages s
  | succ left ih =>
    rw [turns]
    rcases hasked : (agent.provider (agent.request messages)).run s with ⟨result, s₁⟩
    rw [← request, run_bind_of_run_eq hasked]
    cases result with
    | error e => exact .failed hasked
    | ok answer =>
      obtain ⟨given, usage⟩ := answer
      rcases hassigned : (agent.assignMessageIds given).run s₁ with ⟨reply, s₂⟩
      simp only [run_bind_of_run_eq hassigned]
      by_cases hcalls : reply.toolCalls = []
      · simp only [hcalls, List.isEmpty_nil, if_true]
        exact .answered hasked hassigned hcalls
      · rcases hran : (agent.runCalls reply.toolCalls).run s₂ with ⟨⟨events, results⟩, s₃⟩
        rw [if_neg (by simpa using hcalls), run_bind_of_run_eq hran]
        exact .called hasked hassigned hcalls hran (ih _ s₃)

end Agent

end ToolAgent
