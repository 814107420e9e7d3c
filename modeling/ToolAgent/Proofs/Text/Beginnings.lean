import Mathlib.Data.List.DropRight
import ToolAgent.Proofs.Text.Utf8
import ToolAgent.Text.Blank

/-!
# Beginnings of texts

The beginning of some bytes reads as the beginning of their text, and if the cut goes through a
character, then what is left of that one reads as U+FFFD (`Utf8.begins_decodeLossy`). A beginning
that does not end so may be trimmed before it is cut or afterwards (`Text.trimChars_of_begins`).
-/

namespace ToolAgent

/-- The text begins the other one, but for a character at its end that has been cut. -/
def Begins (start text : List Char) : Prop :=
  start <+: text ∨ ∃ before, start = before ++ ['\uFFFD'] ∧ before <+: text

namespace Utf8

/-- The scanner finds in the beginning of some bytes what it finds there in all of them, but for a
character in progress at the end. -/
theorem scan_prefix (p? : Option Partial) (bs more : Bytes) :
    scan p? bs <+: scan p? (bs ++ more) ∨ ∃ before held,
      scan p? bs = before ++ [.illFormed held] ∧ before <+: scan p? (bs ++ more) := by
  -- one more piece in front
  have hcons {piece : Piece} {start all : List Piece}
      (h : start <+: all ∨ ∃ before held, start = before ++ [.illFormed held] ∧ before <+: all) :
      piece :: start <+: piece :: all ∨
        ∃ before held, piece :: start = before ++ [.illFormed held] ∧ before <+: piece :: all := by
    obtain h | ⟨before, held, rfl, h⟩ := h
    · exact .inl (List.cons_prefix_cons.mpr ⟨rfl, h⟩)
    · exact .inr ⟨piece :: before, held, rfl, List.cons_prefix_cons.mpr ⟨rfl, h⟩⟩
  fun_induction scan p? bs with
  | case1 => exact .inl List.nil_prefix
  | case2 p => exact .inr ⟨[], p.held, rfl, List.nil_prefix⟩
  | case3 b bs c hlead ih =>
    simp only [List.cons_append, scan, hlead]
    exact hcons ih
  | case4 b bs p hlead ih =>
    simp only [List.cons_append, scan, hlead]
    exact ih
  | case5 b bs hlead ih =>
    simp only [List.cons_append, scan, hlead]
    exact hcons ih
  | case6 p b bs haccepts hafter ih =>
    simp only [List.cons_append, scan, haccepts, hafter, if_true]
    exact hcons ih
  | case7 p b bs haccepts n hafter ih =>
    simp only [List.cons_append, scan, haccepts, hafter, if_true]
    exact ih
  | case8 p b bs haccepts c hlead ih =>
    simp only [List.cons_append, scan, haccepts, hlead]
    exact hcons (hcons ih)
  | case9 p b bs haccepts q hlead ih =>
    simp only [List.cons_append, scan, haccepts, hlead]
    exact hcons ih
  | case10 p b bs haccepts hlead ih =>
    simp only [List.cons_append, scan, haccepts, hlead]
    exact hcons (hcons ih)

theorem begins_decodeLossy {start bytes : Bytes} (h : start <+: bytes) :
    Begins (decodeLossy start) (decodeLossy bytes) := by
  obtain ⟨more, rfl⟩ := h
  obtain h | ⟨before, held, hstart, h⟩ := scan_prefix none start more
  · exact .inl (h.map _)
  · refine .inr ⟨before.map fun piece => piece.char?.getD '\uFFFD', ?_, h.map _⟩
    rw [decodeLossy, hstart, List.map_append]
    rfl

end Utf8

namespace Text

variable {p : Char → Bool} {start text : List Char}

theorem isPrefix_dropEndWhile (p : Char → Bool) (cs : List Char) : dropEndWhile p cs <+: cs :=
  List.rdropWhile_prefix p cs

theorem dropEndWhile_mono (h : start <+: text) : dropEndWhile p start <+: dropEndWhile p text := by
  obtain ⟨more, rfl⟩ := h
  induction more using List.reverseRecOn with
  | nil => simp
  | append_singleton more c ih =>
    rw [← List.append_assoc]
    cases hc : p c with
    | true =>
      have hdrop : dropEndWhile p (start ++ more ++ [c]) = dropEndWhile p (start ++ more) := by
        simp [dropEndWhile, hc]
      rwa [hdrop]
    | false =>
      have hdrop : dropEndWhile p (start ++ more ++ [c]) = start ++ more ++ [c] := by
        simp [dropEndWhile, hc]
      rw [hdrop, List.append_assoc]
      exact (isPrefix_dropEndWhile p start).trans (List.prefix_append ..)

theorem dropWhile_mono (h : start <+: text) : start.dropWhile p <+: text.dropWhile p := by
  obtain ⟨more, rfl⟩ := h
  induction start with
  | nil => exact List.nil_prefix
  | cons c start ih =>
    rw [List.cons_append, List.dropWhile_cons, List.dropWhile_cons]
    split
    · exact ih
    · exact List.cons_prefix_cons.mpr ⟨rfl, List.prefix_append ..⟩

theorem trimChars_mono (h : start <+: text) : trimChars start <+: trimChars text :=
  dropEndWhile_mono (dropWhile_mono h)

theorem trimChars_append_singleton {c : Char} (hc : isBlank c = false) (before : List Char) :
    trimChars (before ++ [c]) = before.dropWhile isBlank ++ [c] := by
  have hdrop : (before ++ [c]).dropWhile isBlank = before.dropWhile isBlank ++ [c] := by
    rw [List.dropWhile_append]
    split
    · rename_i hnil
      rw [List.isEmpty_iff.mp hnil, List.dropWhile_cons_of_neg (by simp [hc]), List.nil_append]
    · rfl
  rw [trimChars, hdrop, dropEndWhile, List.reverse_append, List.reverse_singleton,
    List.singleton_append, List.dropWhile_cons_of_neg (by simp [hc]), List.reverse_cons,
    List.reverse_reverse]

/-- The beginning of a text can be trimmed first, unless it ends in the cut of a character. -/
theorem trimChars_of_begins (h : Begins start text) :
    trimChars start <+: trimChars text ∨ ∃ before, trimChars start = before ++ ['\uFFFD'] := by
  obtain h | ⟨before, rfl, -⟩ := h
  · exact .inl (trimChars_mono h)
  · exact .inr ⟨_, trimChars_append_singleton (by decide) before⟩

end Text

end ToolAgent
