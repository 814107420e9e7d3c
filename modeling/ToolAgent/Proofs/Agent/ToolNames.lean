import ToolAgent.Proofs.Agent.Runs
import ToolAgent.Proofs.Completion.Entries
import ToolAgent.Proofs.Completion.WireNames

/-!
# Names of tools

A tool has a name of its own and a wire name, and a call may use either. Since wire names are their
own wire names (`wireName_wireName`), all names that a tool answers to have the same wire name
(`Agent.wireName_eq_of_answersTo`). So if tools can be declared at all, no two of them answer to the
same name, and the name under which a tool is declared, the names by which it is called and the name
under which its calls go back into the conversation all mean that one tool
(`Agent.runCall_of_toolEntries`).
-/

namespace ToolAgent

namespace Agent

variable {σ ε : Type}

/-! ## Tools that answer to a name -/

/-- All names that a tool answers to have its wire name. -/
theorem wireName_eq_of_answersTo {tool : ToolSpec} {name : String} (h : answersTo tool name) :
    wireName tool.name = wireName name := by
  rw [answersTo, Bool.or_eq_true, decide_eq_true_iff, decide_eq_true_iff] at h
  obtain rfl | rfl := h
  · rfl
  · exact (wireName_wireName tool.name).symm

theorem answersTo_iff {tool : ToolSpec} {name : String} :
    answersTo tool name ↔ name = tool.name ∨ name = wireName tool.name := by
  rw [answersTo, Bool.or_eq_true, decide_eq_true_iff, decide_eq_true_iff, eq_comm,
    eq_comm (a := wireName tool.name)]

section Tools

variable {tools : List (Tool σ)} {tool : Tool σ} {name : String}

/-- The tools that answer to a name. -/
def answering (tools : List (Tool σ)) (name : String) : List (Tool σ) :=
  tools.filter fun tool => answersTo tool.toToolSpec name

theorem mem_answering :
    tool ∈ answering tools name ↔
      tool ∈ tools ∧ (name = tool.name ∨ name = wireName tool.name) := by
  rw [answering, List.mem_filter, answersTo_iff]

theorem findTool?_eq_head? (agent : Agent σ ε) (name : String) :
    agent.findTool? name = (answering agent.tools name).head? := by
  rw [findTool?, answering, List.head?_filter]

/-- Of tools whose wire names differ at most one answers to a name. -/
theorem length_answering_le (h : (tools.map fun tool => wireName tool.name).Nodup) (name : String) :
    (answering tools name).length ≤ 1 := by
  have hsame : (answering tools name).map (fun tool => wireName tool.name) =
      List.replicate (answering tools name).length (wireName name) := by
    refine List.eq_replicate_iff.mpr ⟨List.length_map .., ?_⟩
    refine List.forall_mem_map.mpr fun tool htool => ?_
    exact wireName_eq_of_answersTo (List.mem_filter.mp htool).2
  have hsublist : (answering tools name).Sublist tools := List.filter_sublist
  have hnodup := h.sublist (hsublist.map _)
  rwa [hsame, List.nodup_replicate] at hnodup

/-- Whatever the order of tools whose wire names differ, a name of one of them finds it. -/
theorem findTool?_eq_some {agent : Agent σ ε}
    (h : (tools.map fun tool => wireName tool.name).Nodup) (hagent : agent.tools.Perm tools)
    (htool : tool ∈ tools) (hname : name = tool.name ∨ name = wireName tool.name) :
    agent.findTool? name = some tool := by
  have hnodup : (agent.tools.map fun tool => wireName tool.name).Nodup :=
    (hagent.map _).nodup_iff.mpr h
  have hmem : tool ∈ answering agent.tools name :=
    mem_answering.mpr ⟨hagent.mem_iff.mpr htool, hname⟩
  have hle := length_answering_le hnodup name
  obtain ⟨other, hother⟩ := List.length_eq_one_iff.mp
    (Nat.le_antisymm hle (List.length_pos_of_mem hmem))
  rw [hother, List.mem_singleton] at hmem
  rw [findTool?_eq_head?, hother, hmem]
  rfl

/-- A call that finds a tool runs it. -/
theorem runCall_of_findTool? {agent : Agent σ ε} {call : ToolCall}
    (h : agent.findTool? call.name = some tool) :
    agent.runCall call = do
      let outcome ← tool.run call.args
      return ([.ran tool.toToolSpec call.args],
        resultMessage call (outcome.mapError ToolFailure.toAgentError)) := by
  rw [runCall, h]

/-- **One tool for each name.** Of tools that can be declared, each one is declared under its wire
name. A call by that name or by the name of the tool itself runs this tool, in whatever order the
agent has the tools, and goes back into the conversation under the declared name. No name whatever
is answered to by two of the tools. -/
theorem runCall_of_toolEntries {entries : List Json}
    (h : toolEntries [] (tools.map Tool.toToolSpec) = .ok entries) :
    (∀ (i : Nat) tool, tools[i]? = some tool → ∃ entry : Json, entries[i]? = some entry ∧
      entry.functionName? = some (wireName tool.name) ∧
      ∀ call : ToolCall, call.name = tool.name ∨ entry.functionName? = some call.name →
        (∀ agent : Agent σ ε, agent.tools.Perm tools →
          agent.findTool? call.name = some tool ∧
          agent.runCall call = do
            let outcome ← tool.run call.args
            return ([.ran tool.toToolSpec call.args],
              resultMessage call (outcome.mapError ToolFailure.toAgentError))) ∧
        ∀ messages content calls (j : Nat), .assistant content calls ∈ messages →
          calls[j]? = some call →
          ∃ sent ∈ conversationEntries messages, ∃ (written : List Json) (back : Json),
            sent.get? "tool_calls" = some (.arr written) ∧ written[j]? = some back ∧
              back.functionName? = entry.functionName?) ∧
    ∀ name, (tools.filter fun tool => answersTo tool.toToolSpec name).length ≤ 1 := by
  obtain ⟨hnodup, -, rfl⟩ := toolEntries_eq_ok_iff.mp h
  rw [List.map_map] at hnodup
  refine ⟨?_, length_answering_le hnodup⟩
  intro i tool htool
  refine ⟨tool.toEntry, by simp [htool], tool.functionName?_toEntry, ?_⟩
  intro call hcall
  rw [tool.functionName?_toEntry, Option.some.injEq] at hcall
  have hname : call.name = tool.name ∨ call.name = wireName tool.name := hcall.imp_right Eq.symm
  constructor
  · intro agent hagent
    have hfind := findTool?_eq_some hnodup hagent (List.mem_of_getElem? htool) hname
    exact ⟨hfind, runCall_of_findTool? hfind⟩
  · intro messages content calls j hmessage hj
    have hcalls : calls ≠ [] := List.ne_nil_of_mem (List.mem_of_getElem? hj)
    obtain ⟨sent, hsent, -, hwritten⟩ := toEntry?_assistant content hcalls
    refine ⟨sent, List.mem_filterMap.mpr ⟨_, hmessage, hsent⟩, _, call.toEntry, hwritten, ?_, ?_⟩
    · rw [List.getElem?_map, hj]
      rfl
    · rw [call.functionName?_toEntry, tool.functionName?_toEntry,
        wireName_eq_of_answersTo (answersTo_iff.mpr hname)]

end Tools

/-- A tool whose name has a blank in it, called by its wire name. -/
theorem runCall_of_weather_lookup :
    let tools : List (Tool Unit) := [
      .pure ⟨"echo", "", .null⟩ .ok,
      .pure ⟨"weather lookup", "", .null⟩ fun _ => .ok (.str "sunny")]
    let agent : Agent Unit String := {
      provider := fun _ => pure (.error "")
      freshId := pure ""
      tools := tools.reverse }
    let call : ToolCall := ⟨"weather_lookup", .null, some "1"⟩
    ∃ entries tool entry, toolEntries [] (tools.map Tool.toToolSpec) = .ok entries ∧
      tools[1]? = some tool ∧ entries[1]? = some entry ∧
      entry.functionName? = some call.name ∧ agent.findTool? call.name = some tool ∧
      ∃ sent ∈ conversationEntries [.assistant "" [call]], ∃ (written : List Json) (back : Json),
        sent.get? "tool_calls" = some (.arr written) ∧ written[0]? = some back ∧
          back.functionName? = entry.functionName? := by
  intro tools agent call
  have hdeclared : toolEntries [] (tools.map Tool.toToolSpec) =
      .ok (tools.map fun tool => tool.toEntry) := rfl
  obtain ⟨hnames, -⟩ := @runCall_of_toolEntries Unit String _ _ hdeclared
  obtain ⟨entry, hentry, hname, hcalls⟩ := hnames 1 _ rfl
  obtain ⟨hagents, hwritten⟩ := hcalls call (.inr hname)
  exact ⟨_, _, entry, hdeclared, rfl, hentry, hname, (hagents agent (List.reverse_perm tools)).1,
    hwritten [.assistant "" [call]] "" [call] 0 (List.mem_singleton_self _) rfl⟩

end Agent

end ToolAgent
