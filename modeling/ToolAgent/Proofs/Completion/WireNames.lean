import Mathlib.Data.List.Nodup
import ToolAgent.Completion.Request

/-!
# Names on the wire

A wire name has letters, digits, `_` and `-` only (`isWireName_wireName`), one character for each of
the name that it stands for (`length_wireName`). Names that are like that already stay as they are
(`wireName_eq_self`). Tools can be declared exactly if their wire names differ
(`toolEntries_eq_ok_iff`).
-/

namespace ToolAgent

/-! ## One name -/

/-- The name has letters, digits, `_` and `-` only. -/
def IsWireName (name : String) : Prop :=
  ∀ c ∈ name.toList, c.isAlphanum = true ∨ c = '_' ∨ c = '-'

instance : DecidablePred IsWireName := fun name => List.decidableBAll _ name.toList

theorem isWireName_wireName (name : String) : IsWireName (wireName name) := by
  intro c hc
  rw [wireName, String.toList_ofList] at hc
  obtain ⟨d, -, rfl⟩ := List.mem_map.mp hc
  split
  · rename_i hd
    simpa [or_assoc] using hd
  · exact .inr (.inl rfl)

@[simp] theorem length_wireName (name : String) : (wireName name).length = name.length := by
  rw [wireName, String.length_ofList, List.length_map, String.length_toList]

theorem wireName_eq_self {name : String} (h : IsWireName name) : wireName name = name := by
  have hself : ∀ c ∈ name.toList,
      (if c.isAlphanum || c = '_' || c = '-' then c else '_') = c := by
    intro c hc
    exact if_pos (by simpa [or_assoc] using h c hc)
  rw [wireName, List.map_congr_left hself, List.map_id', String.ofList_toList]

/-- A wire name is its own wire name. -/
@[simp] theorem wireName_wireName (name : String) : wireName (wireName name) = wireName name :=
  wireName_eq_self (isWireName_wireName name)

/-! ## Entries of tools and calls -/

/-- The name of the function in the entry of a tool or of a call. -/
def Json.functionName? (entry : Json) : Option String :=
  (entry.getD "function").getString? "name"

@[simp] theorem ToolSpec.functionName?_toEntry (tool : ToolSpec) :
    tool.toEntry.functionName? = some (wireName tool.name) := by
  simp [toEntry, Json.functionName?, Json.getD, Json.getString?, Json.asString?]

@[simp] theorem ToolCall.functionName?_toEntry (call : ToolCall) :
    call.toEntry.functionName? = some (wireName call.name) := by
  simp [toEntry, Json.functionName?, Json.getD, Json.getString?, Json.asString?]

/-- Tools can be declared exactly if their wire names differ. -/
theorem toolEntries_eq_ok_iff {taken : List String} {tools : List ToolSpec} {entries : List Json} :
    toolEntries taken tools = .ok entries ↔
      (tools.map fun tool => wireName tool.name).Nodup ∧
        (∀ tool ∈ tools, wireName tool.name ∉ taken) ∧ tools.map ToolSpec.toEntry = entries := by
  induction tools generalizing taken entries with
  | nil => simp [toolEntries]
  | cons tool tools ih =>
    rw [toolEntries, List.map_cons, List.nodup_cons, List.forall_mem_cons]
    by_cases htaken : wireName tool.name ∈ taken
    · simp [htaken]
    · have hrest : (toolEntries (wireName tool.name :: taken) tools).map (tool.toEntry :: ·) =
          .ok entries ↔ ∃ more, toolEntries (wireName tool.name :: taken) tools = .ok more ∧
            tool.toEntry :: more = entries := by
        cases toolEntries (wireName tool.name :: taken) tools <;> simp [Except.map]
      rw [if_neg htaken, hrest]
      simp only [ih, List.mem_cons, not_or, List.mem_map, not_exists, not_and]
      constructor
      · rintro ⟨more, ⟨hnodup, hdiffer, rfl⟩, rfl⟩
        exact ⟨⟨fun other hother => (hdiffer other hother).1, hnodup⟩,
          ⟨htaken, fun other hother => (hdiffer other hother).2⟩, rfl⟩
      · rintro ⟨⟨hfirst, hnodup⟩, ⟨-, hdiffer⟩, rfl⟩
        exact ⟨_, ⟨hnodup, fun other hother => ⟨hfirst other hother, hdiffer other hother⟩, rfl⟩,
          rfl⟩

end ToolAgent
