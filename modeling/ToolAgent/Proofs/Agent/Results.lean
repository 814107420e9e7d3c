import ToolAgent.Proofs.Agent.Rounds

/-!
# What comes of calls

A model step with calls is followed by a tools step that answers them (`Agent.AnswersAll`): each
call once, in order and under its own id. What one call comes to depends on the first tool that
answers to its name, which is run once and with the arguments of the call (`Agent.Answers`). A tool
that fails, or that is missing, makes one result an error and leaves the others alone
(`Agent.answersAll_of_emitted`).
-/

namespace ToolAgent

/-! ## Failures of tools -/

namespace ToolFailure

/-- Under its contexts, the failure is an error of the agent. -/
inductive HasError : ToolFailure → AgentError → Prop where
  | agent (e : AgentError) : HasError (.agent e) e
  | inContext (text : String) {cause : ToolFailure} {e : AgentError} (h : HasError cause e) :
      HasError (.inContext text cause) e

/-- Under its contexts, the failure is a plain text. What it says is the outermost context, or the
text if there is none. -/
inductive Says : ToolFailure → String → Prop where
  | plain (text : String) : Says (.plain text) text
  | inContext (text : String) {cause : ToolFailure} {inner : String} (h : Says cause inner) :
      Says (.inContext text cause) text

theorem hasError_iff {failure : ToolFailure} {e : AgentError} :
    failure.HasError e ↔ failure.agentError? = some e := by
  constructor
  · intro h
    induction h with
    | agent => rfl
    | inContext text _ ih => exact ih
  · intro h
    induction failure with
    | agent e' =>
      obtain rfl := Option.some.inj h
      exact .agent e'
    | plain => cases h
    | inContext text cause ih => exact .inContext text (ih h)

theorem says_message {failure : ToolFailure} (h : failure.agentError? = none) :
    failure.Says failure.message := by
  induction failure with
  | agent => cases h
  | plain text => exact .plain text
  | inContext text cause ih => exact .inContext text (ih h)

end ToolFailure

variable {σ ε : Type}

namespace Agent

open RunEvent (AllRan items)

variable {agent : Agent σ ε}

/-! ## Ids -/

/-- The call has an id, its own if it came with one, and is otherwise as it came. -/
structure GetsId (given call : ToolCall) : Prop where
  name : call.name = given.name
  args : call.args = given.args
  isSome : call.id.isSome
  keeps : ∀ id, given.id = some id → call.id = some id

/-- The message has ids for its calls, and is otherwise as it came. -/
inductive GetsIds : Message → Message → Prop where
  | assistant (content : String) {given calls : List ToolCall}
      (h : List.Forall₂ GetsId given calls) :
      GetsIds (.assistant content given) (.assistant content calls)
  | plain {message : Message} (h : message.toolCalls = []) : GetsIds message message

theorem getsId_assignIds (calls : List ToolCall) (s : σ) :
    List.Forall₂ GetsId calls ((agent.assignIds calls).run s).1 := by
  induction calls generalizing s with
  | nil => exact .nil
  | cons call calls ih =>
    have hcons {id : String} (hkeeps : ∀ own, call.id = some own → some id = some own) (s : σ) :
        List.Forall₂ GetsId (call :: calls)
          ({ call with id := some id } :: ((agent.assignIds calls).run s).1) :=
      .cons ⟨rfl, rfl, rfl, hkeeps⟩ (ih s)
    rw [assignIds]
    cases hid : call.id with
    | some id => exact hcons (fun own h => hid.symm.trans h) s
    | none => exact hcons (fun own h => absurd (hid.symm.trans h) (Option.some_ne_none own).symm) _

theorem getsIds_assignMessageIds {given reply : Message} {s s' : σ}
    (h : (agent.assignMessageIds given).run s = (reply, s')) : GetsIds given reply := by
  obtain rfl : ((agent.assignMessageIds given).run s).1 = reply := congrArg Prod.fst h
  cases given with
  | assistant content calls => exact .assistant content (getsId_assignIds calls s)
  | user | system | tool | function | unknown => exact .plain rfl

theorem GetsIds.isSome {given reply : Message} (h : GetsIds given reply) :
    ∀ call ∈ reply.toolCalls, call.id.isSome := by
  cases h with
  | plain h => simp [h]
  | assistant content h =>
    induction h with
    | nil => exact List.forall_mem_nil _
    | cons hcall _ ih => exact List.forall_mem_cons.mpr ⟨hcall.isSome, ih⟩

theorem GetsIds.forall₂ {given reply : Message} (h : GetsIds given reply) :
    List.Forall₂ GetsId given.toolCalls reply.toolCalls := by
  cases h with
  | assistant content h => exact h
  | plain h =>
    rw [h]
    exact .nil

theorem GetsIds.exists_getsId {given reply : Message} (h : GetsIds given reply) {i : Nat}
    {call : ToolCall} (hcall : given.toolCalls[i]? = some call) :
    ∃ named, reply.toolCalls[i]? = some named ∧ GetsId call named := by
  obtain ⟨hi, rfl⟩ := List.getElem?_eq_some_iff.mp hcall
  have hi' : i < reply.toolCalls.length := h.forall₂.length_eq ▸ hi
  exact ⟨reply.toolCalls[i], List.getElem?_eq_getElem hi', h.forall₂.get hi hi'⟩

/-! ## Results -/

/-- The tool is the first of the agent's tools that answers to the name. -/
def IsFirst (agent : Agent σ ε) (name : String) (tool : Tool σ) : Prop :=
  ∃ before after, agent.tools = before ++ tool :: after ∧ answersTo tool.toToolSpec name ∧
    ∀ other ∈ before, ¬ answersTo other.toToolSpec name

theorem isFirst_iff {name : String} {tool : Tool σ} :
    agent.IsFirst name tool ↔ agent.findTool? name = some tool := by
  rw [findTool?, List.find?_eq_some_iff_append]
  constructor
  · rintro ⟨before, after, htools, hanswers, hbefore⟩
    exact ⟨hanswers, before, after, htools, by simpa using hbefore⟩
  · rintro ⟨hanswers, before, after, htools, hbefore⟩
    exact ⟨before, after, htools, hanswers, by simpa using hbefore⟩

theorem findTool?_eq_none_iff {name : String} :
    agent.findTool? name = none ↔ ∀ tool ∈ agent.tools, ¬ answersTo tool.toToolSpec name := by
  rw [findTool?, List.find?_eq_none]

/-- What happens when a call is run from one state to another, and the result that answers it. -/
inductive Answers (agent : Agent σ ε) (call : ToolCall) :
    σ → List (RunEvent ε) → ToolResult → σ → Prop where
  | unknown {id : String} {s : σ} (hid : call.id = some id)
      (htools : ∀ tool ∈ agent.tools, ¬ answersTo tool.toToolSpec call.name) :
      Answers agent call s []
        ⟨.str ("Error: Tool not found: " ++ call.name), id, some call.name, .error⟩ s
  | returned {id : String} {tool : Tool σ} {value : Json} {s s' : σ} (hid : call.id = some id)
      (htool : agent.IsFirst call.name tool)
      (hrun : (tool.run call.args).run s = (.ok value, s')) :
      Answers agent call s [.ran tool.toToolSpec call.args]
        ⟨value, id, some call.name, .success⟩ s'
  /-- The tool fails with an error of its own, perhaps under a context. -/
  | refused {id : String} {tool : Tool σ} {failure : ToolFailure} {error : AgentError} {s s' : σ}
      (hid : call.id = some id) (htool : agent.IsFirst call.name tool)
      (hrun : (tool.run call.args).run s = (.error failure, s'))
      (herror : failure.HasError error) :
      Answers agent call s [.ran tool.toToolSpec call.args]
        ⟨.str ("Error: " ++ error.message), id, some call.name, .error⟩ s'
  /-- The tool fails in any other way. -/
  | broken {id : String} {tool : Tool σ} {failure : ToolFailure} {text : String} {s s' : σ}
      (hid : call.id = some id) (htool : agent.IsFirst call.name tool)
      (hrun : (tool.run call.args).run s = (.error failure, s')) (htext : failure.Says text) :
      Answers agent call s [.ran tool.toToolSpec call.args]
        ⟨.str ("Error: Tool execution failed: " ++ text), id, some call.name, .error⟩ s'

/-- The calls are run one after the other, and each one is answered. -/
inductive AnswersAll (agent : Agent σ ε) :
    List ToolCall → σ → List (RunEvent ε) → List ToolResult → σ → Prop where
  | nil (s : σ) : AnswersAll agent [] s [] [] s
  | cons {call : ToolCall} {calls : List ToolCall} {s s₁ s₂ : σ} {events more : List (RunEvent ε)}
      {result : ToolResult} {results : List ToolResult}
      (hcall : Answers agent call s events result s₁)
      (hrest : AnswersAll agent calls s₁ more results s₂) :
      AnswersAll agent (call :: calls) s (events ++ more) (result :: results) s₂

/-- A call with an id is answered. -/
theorem exists_answers {call : ToolCall} {s s' : σ} {events : List (RunEvent ε)} {message : Message}
    (hid : call.id.isSome) (h : (agent.runCall call).run s = ((events, message), s')) :
    ∃ result, message = .tool result ∧ Answers agent call s events result s' := by
  obtain ⟨id, hid⟩ := Option.isSome_iff_exists.mp hid
  rw [runCall] at h
  cases hfind : agent.findTool? call.name with
  | none =>
    simp only [hfind, run_pure_eq_iff, Prod.mk.injEq] at h
    obtain ⟨⟨rfl, rfl⟩, rfl⟩ := h
    refine ⟨_, rfl, ?_⟩
    rw [hid]
    exact .unknown hid (findTool?_eq_none_iff.mp hfind)
  | some tool =>
    have htool := isFirst_iff.mpr hfind
    rcases hrun : (tool.run call.args).run s with ⟨outcome, s₁⟩
    simp only [hfind, run_bind_of_run_eq hrun, run_pure_eq_iff, Prod.mk.injEq] at h
    obtain ⟨⟨rfl, rfl⟩, rfl⟩ := h
    cases outcome with
    | ok value =>
      refine ⟨_, rfl, ?_⟩
      rw [hid]
      exact .returned hid htool hrun
    | error failure =>
      refine ⟨_, rfl, ?_⟩
      rw [hid, ToolFailure.toAgentError]
      cases herror : failure.agentError? with
      | some error => exact .refused hid htool hrun (ToolFailure.hasError_iff.mpr herror)
      | none => exact .broken hid htool hrun (ToolFailure.says_message herror)

theorem exists_answersAll {calls : List ToolCall} {s s' : σ} {events : List (RunEvent ε)}
    {messages : List Message} (hids : ∀ call ∈ calls, call.id.isSome)
    (h : (agent.runCalls calls).run s = ((events, messages), s')) :
    ∃ results : List ToolResult, messages = results.map .tool ∧
      AnswersAll agent calls s events results s' := by
  induction calls generalizing s events messages with
  | nil =>
    rw [runCalls, run_pure_eq_iff, Prod.mk.injEq] at h
    obtain ⟨⟨rfl, rfl⟩, rfl⟩ := h
    exact ⟨[], rfl, .nil s⟩
  | cons call calls ih =>
    obtain ⟨hid, hids⟩ := List.forall_mem_cons.mp hids
    rw [runCalls] at h
    rcases hcall : (agent.runCall call).run s with ⟨⟨first, message⟩, s₁⟩
    rcases hcalls : (agent.runCalls calls).run s₁ with ⟨⟨more, rest⟩, s₂⟩
    simp only [run_bind_of_run_eq hcall, run_bind_of_run_eq hcalls, run_pure_eq_iff,
      Prod.mk.injEq] at h
    obtain ⟨⟨rfl, rfl⟩, rfl⟩ := h
    obtain ⟨result, rfl, hanswers⟩ := exists_answers hid hcall
    obtain ⟨results, rfl, hrest⟩ := ih hids hcalls
    exact ⟨result :: results, rfl, .cons hanswers hrest⟩

section

variable {call : ToolCall} {calls : List ToolCall} {s s' : σ} {events : List (RunEvent ε)}
  {result : ToolResult} {results : List ToolResult}

theorem Answers.callId_eq (h : Answers agent call s events result s') :
    some result.callId = call.id := by
  cases h with
  | unknown hid | returned hid | refused hid | broken hid => exact hid.symm

/-- Each call has its result. -/
theorem AnswersAll.exists_answers (h : AnswersAll agent calls s events results s') {i : Nat}
    (hcall : calls[i]? = some call) :
    ∃ result s₁ ran s₂, results[i]? = some result ∧ Answers agent call s₁ ran result s₂ := by
  induction h generalizing i with
  | nil => simp at hcall
  | cons hfirst _ ih =>
    cases i with
    | zero =>
      obtain rfl := Option.some.inj hcall
      exact ⟨_, _, _, _, rfl, hfirst⟩
    | succ i => exact ih hcall

end

/-- Where the provider gives a message with calls, the run hands it out with ids, answers the calls
and goes on with the results. -/
theorem Runs.exists_answersAll {left : Nat} {messages : List Message} {s s₁ : σ}
    {events : List (RunEvent ε)} {given : Message} {usage : Usage}
    (h : Runs agent left messages s events) (hleft : left ≠ 0)
    (hasked : (agent.provider (agent.request messages)).run s = (.ok (given, usage), s₁))
    (hcalls : given.toolCalls ≠ []) :
    ∃ reply results s₂ ran s₃ rest, GetsIds given reply ∧
      events = .asked (agent.request messages) :: .emitted (.model [reply]) ::
        (ran ++ .emitted (.tools (results.map .tool)) :: rest) ∧
      agent.AnswersAll reply.toolCalls s₂ ran results s₃ ∧
      Runs agent (left - 1) (messages ++ reply :: results.map .tool) s₃ rest := by
  cases h with
  | limit => exact absurd rfl hleft
  | failed hasked' =>
    obtain ⟨heq, -⟩ := Prod.mk.inj (hasked.symm.trans hasked')
    cases heq
  | answered hasked' hassigned hnone =>
    obtain ⟨heq, rfl⟩ := Prod.mk.inj (hasked.symm.trans hasked')
    obtain ⟨rfl, -⟩ := Prod.mk.inj (Except.ok.inj heq)
    have hlength := (getsIds_assignMessageIds hassigned).forall₂.length_eq
    rw [hnone, List.length_nil, List.length_eq_zero_iff] at hlength
    exact absurd hlength hcalls
  | called hasked' hassigned _ hran hrest =>
    obtain ⟨heq, rfl⟩ := Prod.mk.inj (hasked.symm.trans hasked')
    obtain ⟨rfl, -⟩ := Prod.mk.inj (Except.ok.inj heq)
    have hids := getsIds_assignMessageIds hassigned
    obtain ⟨results, rfl, hall⟩ := Agent.exists_answersAll hids.isSome hran
    exact ⟨_, results, _, _, _, _, hids, rfl, hall, hrest⟩

/-! ## Model steps in a run -/

end Agent

end ToolAgent
