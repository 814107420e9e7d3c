import ToolAgent.Json.Lexeme
import ToolAgent.Json.Printer
import ToolAgent.Proofs.Text.WellFormed

/-!
# Strings

Between its quotes a string is a row of characters and escapes (`Escaped`), and that is what is read
as a string (`stringTail_eq_ok_iff`), whatever follows the closing quote. A printed string is such a
row: one that is escaped by the escape, any other character by its bytes, none of which is a quote,
a backslash or a control character. So it is read as it was (`stringTail_printed`).
-/

namespace ToolAgent.Json

open Utf8 (encode encode_nil encode_cons encode_append)

/-! ## Characters -/

/-- The byte stands for itself in a string. -/
def IsPlain (b : UInt8) : Prop :=
  b ≠ ascii '"' ∧ b ≠ ascii '\\' ∧ ¬ b < 0x20

section Characters

open stringBytes (prepend)

theorem prepend_eq_ok_iff {lead bytes left : Bytes} {read : Except Stop (Bytes × Bytes)} :
    prepend lead read = .ok (bytes, left) ↔
      ∃ more, read = .ok (more, left) ∧ lead ++ more = bytes := by
  rw [prepend, map_eq_ok_iff]
  constructor
  · rintro ⟨⟨more, rest⟩, hread, h⟩
    cases h
    exact ⟨more, hread, rfl⟩
  · rintro ⟨more, hread, rfl⟩
    exact ⟨(more, left), hread, rfl⟩

theorem stringBytes_quote (rest : Bytes) :
    stringBytes (ascii '"' :: rest) = .ok ([], ascii '"' :: rest) := by
  rw [stringBytes.eq_def]
  rfl

theorem stringBytes_plain {b : UInt8} (hb : IsPlain b) (more : Bytes) :
    stringBytes (b :: more) = prepend [b] (stringBytes more) := by
  obtain ⟨hquote, hslash, hcontrol⟩ := hb
  rw [stringBytes.eq_def]
  dsimp only
  rw [if_neg hquote, if_neg hslash, if_neg hcontrol]

theorem stringBytes_letter {e c : UInt8} (he : letterEscape e = some c) (more : Bytes) :
    stringBytes (ascii '\\' :: e :: more) = prepend [c] (stringBytes more) := by
  rw [stringBytes.eq_def]
  simp only [he]
  rfl

theorem stringBytes_quad {a b c d : UInt8} {n : Nat} (hn : hexQuad a b c d = some n)
    (hlow : isLowSurrogate n = false) (hhigh : isHighSurrogate n = false) (more : Bytes) :
    stringBytes (ascii '\\' :: ascii 'u' :: a :: b :: c :: d :: more) =
      prepend (encodeNat n) (stringBytes more) := by
  have hletter : letterEscape (ascii 'u') = none := by decide
  rw [stringBytes.eq_def]
  simp only [hletter, hn, hlow, hhigh]
  rfl

theorem stringBytes_pair {a b c d a' b' c' d' : UInt8} {high low : Nat}
    (hn : hexQuad a b c d = some high) (hhigh : isHighSurrogate high = true)
    (hm : hexQuad a' b' c' d' = some low) (hlow : isLowSurrogate low = true) (more : Bytes) :
    stringBytes (ascii '\\' :: ascii 'u' :: a :: b :: c :: d ::
        ascii '\\' :: ascii 'u' :: a' :: b' :: c' :: d' :: more) =
      prepend (encodeNat (joinSurrogates high low)) (stringBytes more) := by
  have hletter : letterEscape (ascii 'u') = none := by decide
  have hnot : isLowSurrogate high = false := by
    simp only [isHighSurrogate, isLowSurrogate, Bool.and_eq_true, Bool.and_eq_false_iff,
      decide_eq_true_eq, decide_eq_false_iff_not] at hhigh ⊢
    omega
  rw [stringBytes.eq_def]
  simp only [hletter, hn, hnot, hhigh, hm, hlow]
  rfl

end Characters

/-! ## Rows of characters -/

/-- Inside of a string the first bytes stand for the second ones. An escaped surrogate stands for
nothing without its partner. -/
inductive Escaped : Bytes → Bytes → Prop where
  | nil : Escaped [] []
  | plain {b : UInt8} {bs bytes : Bytes} (hb : IsPlain b) (h : Escaped bs bytes) :
      Escaped (b :: bs) (b :: bytes)
  | letter {e c : UInt8} {bs bytes : Bytes} (he : letterEscape e = some c) (h : Escaped bs bytes) :
      Escaped (ascii '\\' :: e :: bs) (c :: bytes)
  | quad {a b c d : UInt8} {n : Nat} {bs bytes : Bytes} (hn : hexQuad a b c d = some n)
      (hlow : isLowSurrogate n = false) (hhigh : isHighSurrogate n = false)
      (h : Escaped bs bytes) :
      Escaped (ascii '\\' :: ascii 'u' :: a :: b :: c :: d :: bs) (encodeNat n ++ bytes)
  | pair {a b c d a' b' c' d' : UInt8} {high low : Nat} {bs bytes : Bytes}
      (hn : hexQuad a b c d = some high) (hhigh : isHighSurrogate high = true)
      (hm : hexQuad a' b' c' d' = some low) (hlow : isLowSurrogate low = true)
      (h : Escaped bs bytes) :
      Escaped (ascii '\\' :: ascii 'u' :: a :: b :: c :: d ::
        ascii '\\' :: ascii 'u' :: a' :: b' :: c' :: d' :: bs)
        (encodeNat (joinSurrogates high low) ++ bytes)

namespace Escaped

variable {bs bytes more rest : Bytes}

theorem stringBytes_eq (h : Escaped bs bytes) (rest : Bytes) :
    stringBytes (bs ++ ascii '"' :: rest) = .ok (bytes, ascii '"' :: rest) := by
  induction h with
  | nil => exact stringBytes_quote rest
  | plain hb _ ih =>
    rw [List.cons_append, stringBytes_plain hb]
    exact prepend_eq_ok_iff.mpr ⟨_, ih, rfl⟩
  | letter he _ ih =>
    rw [List.cons_append, List.cons_append, stringBytes_letter he]
    exact prepend_eq_ok_iff.mpr ⟨_, ih, rfl⟩
  | quad hn hlow hhigh _ ih =>
    simp only [List.cons_append, stringBytes_quad hn hlow hhigh]
    exact prepend_eq_ok_iff.mpr ⟨_, ih, rfl⟩
  | pair hn hhigh hm hlow _ ih =>
    simp only [List.cons_append, stringBytes_pair hn hhigh hm hlow]
    exact prepend_eq_ok_iff.mpr ⟨_, ih, rfl⟩

theorem append_plain {plain : Bytes} (hplain : ∀ b ∈ plain, IsPlain b) (h : Escaped bs bytes) :
    Escaped (plain ++ bs) (plain ++ bytes) := by
  induction plain with
  | nil => exact h
  | cons b plain ih =>
    obtain ⟨hb, hplain⟩ := List.forall_mem_cons.mp hplain
    exact .plain hb (ih hplain)

end Escaped

/-- What is read as the bytes of a string. -/
theorem exists_escaped_of_stringBytes {bs bytes left : Bytes}
    (h : stringBytes bs = .ok (bytes, left)) :
    ∃ inner rest, bs = inner ++ ascii '"' :: rest ∧ left = ascii '"' :: rest ∧
      Escaped inner bytes := by
  fun_induction stringBytes bs generalizing bytes left <;> try contradiction
  -- the closing quote
  case case2 rest =>
    cases h
    exact ⟨[], rest, rfl, rfl, .nil⟩
  -- a letter escape
  case case4 he _ ih =>
    obtain ⟨more, hmore, rfl⟩ := prepend_eq_ok_iff.mp h
    obtain ⟨inner, rest, rfl, rfl, hinner⟩ := ih hmore
    exact ⟨_, rest, rfl, rfl, .letter he hinner⟩
  -- two surrogates
  case case10 hn _ hhigh _ _ _ _ _ _ hm hlow _ _ ih =>
    obtain ⟨more, hmore, rfl⟩ := prepend_eq_ok_iff.mp h
    obtain ⟨inner, rest, rfl, rfl, hinner⟩ := ih hmore
    exact ⟨_, rest, rfl, rfl, .pair hn hhigh hm hlow hinner⟩
  -- four hex digits
  case case15 hn hlow hhigh _ _ ih =>
    obtain ⟨more, hmore, rfl⟩ := prepend_eq_ok_iff.mp h
    obtain ⟨inner, rest, rfl, rfl, hinner⟩ := ih hmore
    exact ⟨_, rest, rfl, rfl,
      .quad hn (Bool.eq_false_iff.mpr hlow) (Bool.eq_false_iff.mpr hhigh) hinner⟩
  -- a byte that stands for itself
  case case19 hquote hslash hcontrol ih =>
    obtain ⟨more, hmore, rfl⟩ := prepend_eq_ok_iff.mp h
    obtain ⟨inner, rest, rfl, rfl, hinner⟩ := ih hmore
    exact ⟨_, rest, rfl, rfl, .plain ⟨hquote, hslash, hcontrol⟩ hinner⟩

/-- What is read as a string whose opening quote has been read. -/
theorem stringTail_eq_ok_iff {bs left : Bytes} {s : String} :
    stringTail bs = .ok (s, left) ↔
      ∃ inner, bs = inner ++ ascii '"' :: left ∧ Escaped inner (Bytes.ofString s) := by
  rw [stringTail, bind_eq_ok_iff]
  constructor
  · rintro ⟨⟨bytes, behind⟩, hbytes, h⟩
    obtain ⟨inner, rest, rfl, rfl, hinner⟩ := exists_escaped_of_stringBytes hbytes
    cases htext : Bytes.toString? bytes with
    | none =>
      simp only [htext] at h
      cases h
    | some found =>
      simp only [htext] at h
      cases h
      rw [Bytes.toString?_eq_some_iff.mp htext] at hinner
      exact ⟨inner, rfl, hinner⟩
  · rintro ⟨inner, rfl, hinner⟩
    refine ⟨_, hinner.stringBytes_eq left, ?_⟩
    simp only [Bytes.toString?_eq_some_iff.mpr rfl]
    rfl

/-! ## Printed strings -/

/-- A control character as its escape. -/
theorem encode_escape {n : Nat} (h : n < 0x20) :
    ∃ a b, encode ['\\', 'u', '0', '0', hexDigit (n / 16), hexDigit (n % 16)] =
        [ascii '\\', ascii 'u', ascii '0', ascii '0', a, b] ∧
      hexQuad (ascii '0') (ascii '0') a b = some n := by
  refine ⟨ascii (hexDigit (n / 16)), ascii (hexDigit (n % 16)), ?_⟩
  revert n
  decide

theorem isPlain_of_le {b : UInt8} (h : 0x20 ≤ b.toNat) (hquote : b.toNat ≠ 0x22)
    (hslash : b.toNat ≠ 0x5C) : IsPlain b := by
  refine ⟨?_, ?_, ?_⟩
  · rintro rfl
    exact hquote rfl
  · rintro rfl
    exact hslash rfl
  · rw [UInt8.lt_iff_toNat_lt]
    exact Nat.not_lt.mpr h

theorem isPlain_of_mem_utf8EncodeChar {c : Char} {b : UInt8} (hquote : c ≠ '"') (hslash : c ≠ '\\')
    (hcontrol : ¬ c.toNat < 0x20) (hb : b ∈ String.utf8EncodeChar c) : IsPlain b := by
  by_cases hlt : b.toNat < 0x80
  · have hc : Char.ofNat b.toNat = c := (Utf8.eq_ofNat_of_mem_utf8EncodeChar hlt hb).symm
    have hval : c.toNat = b.toNat := hc ▸ Utf8.val_ofNat (.inl (by omega))
    refine isPlain_of_le (by omega) ?_ ?_
    · intro h
      rw [h] at hc
      exact hquote hc.symm
    · intro h
      rw [h] at hc
      exact hslash hc.symm
  · exact isPlain_of_le (by omega) (by omega) (by omega)

/-- One printed character. -/
theorem Escaped.escapeChar {bs bytes : Bytes} (c : Char) (h : Escaped bs bytes) :
    Escaped (encode (escapeChar c) ++ bs) (String.utf8EncodeChar c ++ bytes) := by
  unfold Json.escapeChar
  split
  · exact .letter rfl h
  · exact .letter rfl h
  · exact .letter rfl h
  · exact .letter rfl h
  · exact .letter rfl h
  · exact .letter rfl h
  · exact .letter rfl h
  · rename_i hquote hslash _ _ _ _ _
    split
    · rename_i hcontrol
      obtain ⟨a, b, hbytes, hquad⟩ := encode_escape hcontrol
      have hlow : isLowSurrogate c.toNat = false := by
        simp only [isLowSurrogate, Bool.and_eq_false_iff, decide_eq_false_iff_not]
        omega
      have hhigh : isHighSurrogate c.toNat = false := by
        simp only [isHighSurrogate, Bool.and_eq_false_iff, decide_eq_false_iff_not]
        omega
      have hescaped := Escaped.quad hquad hlow hhigh h
      rw [encodeNat, Char.ofNat_toNat] at hescaped
      rw [hbytes]
      exact hescaped
    · rename_i hcontrol
      rw [encode_cons, encode_nil, List.append_nil]
      exact h.append_plain fun b hb => isPlain_of_mem_utf8EncodeChar hquote hslash hcontrol hb

/-- **Strings read back.** A string whose opening quote has been read. -/
theorem stringTail_printed (s : String) (rest : Bytes) :
    stringTail (encode (s.toList.flatMap escapeChar) ++ ascii '"' :: rest) = .ok (s, rest) := by
  have hbytes (cs : List Char) : Escaped (encode (cs.flatMap escapeChar)) (encode cs) := by
    induction cs with
    | nil => exact .nil
    | cons c cs ih =>
      rw [List.flatMap_cons, encode_append]
      exact ih.escapeChar c
  exact stringTail_eq_ok_iff.mpr ⟨_, rfl, hbytes s.toList⟩

theorem encode_printString_append (s : String) (rest : Bytes) :
    encode (printString s) ++ rest =
      ascii '"' :: (encode (s.toList.flatMap escapeChar) ++ ascii '"' :: rest) := by
  rw [printString, List.cons_append, encode_cons, encode_append, List.append_assoc, List.append_assoc]
  rfl

end ToolAgent.Json
