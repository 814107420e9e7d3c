import ToolAgent.Json.Printer
import ToolAgent.Proofs.Json.Numerals

/-!
# Printed values are one line

Whatever strings a value holds, its text has no control characters in it and so no line feed
(`Json.lineFeed_notMem_toText`). Numbers and brackets have none to begin with, and those of a string
are escaped.
-/

namespace ToolAgent.Json

/-- The character is no control character. -/
def IsVisible (c : Char) : Prop := 0x20 ≤ c.toNat

instance : DecidablePred IsVisible := fun c => inferInstanceAs (Decidable (0x20 ≤ c.toNat))

theorem isVisible_of_all {cs : List Char} (h : cs.all fun c => IsVisible c) :
    ∀ c ∈ cs, IsVisible c := fun c hc =>
  of_decide_eq_true (List.all_eq_true.mp h c hc)

theorem isVisible_of_isNumeric {c : Char} (h : IsNumeric c) : IsVisible c := by
  rcases h with hdigit | hsign
  · have hrange := toNat_of_isDigit hdigit
    rw [IsVisible]
    omega
  · exact isVisible_of_all (by decide) c hsign

theorem isVisible_hexDigit {n : Nat} (h : n < 16) : IsVisible (hexDigit n) := by
  revert n
  decide

/-- A control character is printed as its escape, which has none. -/
theorem isVisible_of_mem_escapeChar (c : Char) : ∀ e ∈ escapeChar c, IsVisible e := by
  have hescape (letter : Char) (h : IsVisible letter) : ∀ e ∈ ['\\', letter], IsVisible e := by
    rw [List.forall_mem_cons, List.forall_mem_singleton]
    exact ⟨by decide, h⟩
  unfold escapeChar
  split
  · exact hescape '"' (by decide)
  · exact hescape '\\' (by decide)
  · exact hescape 'b' (by decide)
  · exact hescape 'f' (by decide)
  · exact hescape 'n' (by decide)
  · exact hescape 'r' (by decide)
  · exact hescape 't' (by decide)
  · split
    · rename_i hcontrol
      have hfirst : IsVisible (hexDigit (c.toNat / 16)) := isVisible_hexDigit (by omega)
      have hsecond : IsVisible (hexDigit (c.toNat % 16)) := isVisible_hexDigit (by omega)
      simp only [List.forall_mem_cons]
      exact ⟨by decide, by decide, by decide, by decide, hfirst, hsecond, nofun⟩
    · rename_i hvisible
      exact List.forall_mem_singleton.mpr (Nat.not_lt.mp hvisible)

theorem isVisible_of_mem_printString (s : String) : ∀ c ∈ printString s, IsVisible c := by
  have hquote : IsVisible '"' := by decide
  rw [printString, List.cons_append, List.forall_mem_cons, List.forall_mem_append,
    List.forall_mem_singleton]
  refine ⟨hquote, ?_, hquote⟩
  intro e he
  obtain ⟨c, -, he⟩ := List.mem_flatMap.mp he
  exact isVisible_of_mem_escapeChar c e he

mutual

theorem isVisible_of_mem_print : ∀ v : Json, ∀ c ∈ v.print, IsVisible c
  | null | bool true | bool false => isVisible_of_all (by decide)
  | num n => fun c hc => isVisible_of_isNumeric (isNumeric_of_mem_print n c hc)
  | str s => isVisible_of_mem_printString s
  | arr [] => isVisible_of_all (by decide)
  | arr (v :: items) => by
    rw [print, List.cons_append, List.forall_mem_cons, List.forall_mem_append]
    exact ⟨by decide, isVisible_of_mem_print v, isVisible_of_mem_printItems items⟩
  | obj [] => isVisible_of_all (by decide)
  | obj ((k, v) :: members) => by
    rw [print, List.cons_append, List.cons_append, List.forall_mem_cons, List.forall_mem_append,
      List.forall_mem_append, List.forall_mem_cons]
    exact ⟨by decide, ⟨isVisible_of_mem_printString k, by decide, isVisible_of_mem_print v⟩,
      isVisible_of_mem_printMembers members⟩

theorem isVisible_of_mem_printItems : ∀ items : List Json, ∀ c ∈ printItems items, IsVisible c
  | [] => isVisible_of_all (by decide)
  | v :: items => by
    rw [printItems, List.cons_append, List.forall_mem_cons, List.forall_mem_append]
    exact ⟨by decide, isVisible_of_mem_print v, isVisible_of_mem_printItems items⟩

theorem isVisible_of_mem_printMembers : ∀ members : List (String × Json),
    ∀ c ∈ printMembers members, IsVisible c
  | [] => isVisible_of_all (by decide)
  | (k, v) :: members => by
    rw [printMembers, List.cons_append, List.cons_append, List.forall_mem_cons,
      List.forall_mem_append, List.forall_mem_append, List.forall_mem_cons]
    exact ⟨by decide, ⟨isVisible_of_mem_printString k, by decide, isVisible_of_mem_print v⟩,
      isVisible_of_mem_printMembers members⟩

end

/-- **A printed value is one line.** -/
theorem lineFeed_notMem_toText (v : Json) : '\n' ∉ v.toText.toList := by
  rw [toText, String.toList_ofList]
  intro hmem
  exact absurd (isVisible_of_mem_print v '\n' hmem) (by decide)

end ToolAgent.Json
