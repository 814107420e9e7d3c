import Mathlib.Data.List.Basic
import ToolAgent.Json.Printer
import ToolAgent.Proofs.Json.Numbers
import ToolAgent.Proofs.Json.Reading

/-!
# Numbers read back

A number reads back if its text, taken alone, is read as that number (`Number.ReadsBack`). Integers
do (`readsBack_int`); of a double that depends on its digits. As there are no blanks in the text and
the reader is not concerned with what follows, a number that reads back alone also does so in the
midst of a text (`value_print_num`).
-/

namespace ToolAgent

/-- The text of the number is read as that number. -/
def Number.ReadsBack (n : Number) : Prop :=
  Json.parse (Json.num n).toText = .ok (.num n)

namespace Json

open Utf8 (encode encode_nil encode_cons)

/-! ## Integers -/

section Integers

theorem le_ofDigitChars (cs : List Char) (n : Nat) : n ≤ Nat.ofDigitChars 10 cs n := by
  induction cs generalizing n with
  | nil => exact Nat.le_of_eq Nat.ofDigitChars_nil.symm
  | cons c cs ih =>
    rw [Nat.ofDigitChars_cons]
    refine Nat.le_trans ?_ (ih _)
    omega

theorem toNat_of_isDigit {c : Char} (h : c.isDigit = true) : 48 ≤ c.toNat ∧ c.toNat ≤ 57 := by
  simpa [Char.isDigit, UInt32.le_iff_toNat_le] using h

/-- A digit is a byte. -/
theorem encode_digit_cons {c : Char} (h : c.isDigit = true) (cs : List Char) :
    encode (c :: cs) = ascii c :: encode cs ∧ isDigit (ascii c) = true ∧
      digitValue (ascii c) = c.toNat - 48 := by
  obtain ⟨hlow, hhigh⟩ := toNat_of_isDigit h
  obtain ⟨n, hn, rfl⟩ : ∃ n, n < 10 ∧ c = Char.ofNat (n + 48) := by
    refine ⟨c.toNat - 48, by omega, ?_⟩
    rw [Nat.sub_add_cancel hlow, Char.ofNat_toNat]
  have hdigit : ∀ n < 10, String.utf8EncodeChar (Char.ofNat (n + 48)) = [ascii (Char.ofNat (n + 48))] ∧
      isDigit (ascii (Char.ofNat (n + 48))) = true ∧
      digitValue (ascii (Char.ofNat (n + 48))) = (Char.ofNat (n + 48)).toNat - 48 := by
    decide
  obtain ⟨hbyte, hrest⟩ := hdigit n hn
  rw [encode_cons, hbyte]
  exact ⟨rfl, hrest⟩

theorem isDigit_of_mem_encode {cs : List Char} (h : ∀ c ∈ cs, c.isDigit = true) :
    ∀ b ∈ encode cs, isDigit b = true := by
  induction cs with
  | nil => exact nofun
  | cons c cs ih =>
    obtain ⟨hc, hcs⟩ := List.forall_mem_cons.mp h
    obtain ⟨hbytes, hbyte, -⟩ := encode_digit_cons hc cs
    rw [hbytes]
    exact List.forall_mem_cons.mpr ⟨hbyte, ih hcs⟩

theorem absorb_encode {cs : List Char} (hcs : ∀ c ∈ cs, c.isDigit = true) {n : Nat}
    (hmax : Nat.ofDigitChars 10 cs n ≤ 0xFFFFFFFFFFFFFFFF) :
    absorb n (encode cs) = (Nat.ofDigitChars 10 cs n, 0) := by
  induction cs generalizing n with
  | nil =>
    rw [Nat.ofDigitChars_nil]
    rfl
  | cons c cs ih =>
    obtain ⟨hc, hcs⟩ := List.forall_mem_cons.mp hcs
    obtain ⟨hbytes, -, hvalue⟩ := encode_digit_cons hc cs
    have hnext : n * 10 + digitValue (ascii c) = 10 * n + (c.toNat - '0'.toNat) := by
      rw [hvalue, Nat.mul_comm]
      rfl
    rw [Nat.ofDigitChars_cons, ← hnext] at hmax
    have hle := (le_ofDigitChars cs _).trans hmax
    rw [hbytes, absorb, if_pos hle, ih hcs hmax, Nat.ofDigitChars_cons, hnext]

theorem head_toDigits_ne_zero {n : Nat} (h : n ≠ 0) {c : Char} {cs : List Char}
    (hc : Nat.toDigits 10 n = c :: cs) : c ≠ '0' := by
  induction n using Nat.strongRecOn generalizing cs with
  | _ n ih =>
    rw [Nat.toDigits_eq_if (by decide)] at hc
    split at hc
    · obtain rfl : n.digitChar = c := (List.cons.inj hc).1
      rw [ne_eq, Nat.digitChar_eq_zero]
      exact h
    · rename_i hn
      obtain ⟨first, others, hfirst⟩ := List.exists_cons_of_ne_nil
        (Nat.toDigits_ne_nil (n := n / 10) (b := 10))
      rw [hfirst] at hc
      obtain rfl : first = c := (List.cons.inj hc).1
      exact ih (n / 10) (by omega) (by omega) hfirst

/-- The digits of an integer. -/
theorem number_toDigits {negative : Bool} {n : Nat} (hn : n ≠ 0 ∨ negative = false)
    (hmax : n ≤ 0xFFFFFFFFFFFFFFFF) :
    number negative (encode (Nat.toDigits 10 n)) = afterInteger negative n 0 [] := by
  by_cases hzero : n = 0
  · subst hzero
    rw [Nat.toDigits_zero]
    rfl
  · obtain ⟨c, cs, hcs⟩ := List.exists_cons_of_ne_nil (Nat.toDigits_ne_nil (n := n) (b := 10))
    have hdigits : ∀ d ∈ c :: cs, d.isDigit = true := by
      intro d hd
      rw [← hcs] at hd
      exact Nat.isDigit_of_mem_toDigits (by decide) (by decide) hd
    obtain ⟨hc, hrest⟩ := List.forall_mem_cons.mp hdigits
    obtain ⟨hbytes, hbyte, hvalue⟩ := encode_digit_cons hc cs
    have hne : ascii c ≠ ascii '0' := by
      intro heq
      rw [heq] at hvalue
      have hval : c.toNat = 48 := by
        have hlow := (toNat_of_isDigit hc).1
        have hvalue : 0 = c.toNat - 48 := hvalue
        omega
      refine head_toDigits_ne_zero hzero hcs ?_
      rw [← Char.ofNat_toNat c, hval]
    have hall : digits (encode cs) = (encode cs, []) := by
      have happend := digits_append (isDigit_of_mem_encode hrest) endsNumber_nil.endsDigits
      rwa [List.append_nil] at happend
    have hsum : Nat.ofDigitChars 10 cs (digitValue (ascii c)) = n := by
      have hvalues : Nat.ofDigitChars 10 (c :: cs) 0 = n := hcs ▸ Nat.ofDigitChars_ten_toDigits
      rw [Nat.ofDigitChars_cons, Nat.mul_zero, Nat.zero_add] at hvalues
      rw [hvalue]
      exact hvalues
    rw [hcs, hbytes, number_of_digit hne hbyte, hall]
    dsimp only
    rw [absorb_encode hrest (hsum.trans_le hmax), hsum]

theorem afterInteger_nil {negative : Bool} {n : Nat} (hn : n ≠ 0 ∨ negative = false) {m : Int}
    (hm : -0x8000000000000000 ≤ m ∧ m ≤ 0xFFFFFFFFFFFFFFFF)
    (hsign : (if negative then -(n : Int) else n) = m) :
    afterInteger negative n 0 [] = .ok (.int m hm, []) := by
  have hzero : ¬ ((0 ≠ 0 || (negative && n = 0)) = true) := by
    rcases hn with hn | rfl
    · simp [hn]
    · simp
  show afterInteger.integer negative n 0 [] = _
  rw [afterInteger.integer, if_neg hzero, hsign, Number.ofInt?, dif_pos hm]

end Integers

/-! ## Printed numbers -/

/-- The characters of printed numbers. -/
def IsNumeric (c : Char) : Prop :=
  c.isDigit = true ∨ c ∈ ['-', '+', '.', 'e']

theorem isNumeric_of_mem_toDigits {n : Nat} {c : Char} (h : c ∈ Nat.toDigits 10 n) : IsNumeric c :=
  .inl (Nat.isDigit_of_mem_toDigits (by decide) (by decide) h)

theorem isNumeric_of_mem_layout {digits : List Char} (hdigits : ∀ c ∈ digits, IsNumeric c)
    (exponent : Int) : ∀ c ∈ Number.layout digits exponent, IsNumeric c := by
  have hzeros (n : Nat) : ∀ c ∈ List.replicate n '0', IsNumeric c := by
    intro c hc
    rw [List.eq_of_mem_replicate hc]
    exact .inl rfl
  have htake (n : Nat) : ∀ c ∈ digits.take n, IsNumeric c :=
    fun c hc => hdigits c (List.mem_of_mem_take hc)
  have hdrop (n : Nat) : ∀ c ∈ digits.drop n, IsNumeric c :=
    fun c hc => hdigits c (List.mem_of_mem_drop hc)
  have hpoint : IsNumeric '.' := .inr (by decide)
  have hletter : IsNumeric 'e' := .inr (by decide)
  have hminus : IsNumeric '-' := .inr (by decide)
  have hplus : IsNumeric '+' := .inr (by decide)
  have hzero : IsNumeric '0' := .inl rfl
  unfold Number.layout
  dsimp only
  split
  · rw [List.append_assoc, List.forall_mem_append, List.forall_mem_append, List.forall_mem_cons,
      List.forall_mem_cons]
    refine ⟨htake 1, ?_, hletter, ?_, fun c => isNumeric_of_mem_toDigits⟩
    · split
      · exact nofun
      · exact List.forall_mem_cons.mpr ⟨hpoint, hdrop 1⟩
    · split
      · exact hminus
      · exact hplus
  · split
    · rw [List.append_assoc, List.forall_mem_append, List.forall_mem_append, List.forall_mem_cons,
        List.forall_mem_singleton]
      exact ⟨hdigits, hzeros _, hpoint, hzero⟩
    · split
      · rw [List.forall_mem_append, List.forall_mem_cons]
        exact ⟨htake _, hpoint, hdrop _⟩
      · rw [List.cons_append, List.cons_append, List.forall_mem_cons, List.forall_mem_cons,
          List.forall_mem_append]
        exact ⟨hzero, hpoint, hzeros _, hdigits⟩

theorem isNumeric_of_mem_print (n : Number) : ∀ c ∈ n.print, IsNumeric c := by
  have hminus : IsNumeric '-' := .inr (by decide)
  have hdigits (n : Nat) : ∀ c ∈ Nat.toDigits 10 n, IsNumeric c :=
    fun c => isNumeric_of_mem_toDigits
  cases n with
  | int m hm =>
    cases m with
    | ofNat n => exact hdigits n
    | negSucc n => exact List.forall_mem_cons.mpr ⟨hminus, hdigits (n + 1)⟩
  | float x hx =>
    have htext : ∀ c ∈ (if (Double.ofBits x.toBits).mantissa = 0 then ['0', '.', '0']
        else Number.layout (Nat.toDigits 10 (Double.ofBits x.toBits).shortest.digits)
          (Double.ofBits x.toBits).shortest.exponent), IsNumeric c := by
      split
      · rw [List.forall_mem_cons, List.forall_mem_cons, List.forall_mem_singleton]
        exact ⟨.inl rfl, .inr (by decide), .inl rfl⟩
      · exact isNumeric_of_mem_layout (hdigits _) _
    rw [Number.print, Number.printFloat]
    split
    · exact List.forall_mem_cons.mpr ⟨hminus, htext⟩
    · exact htext

theorem isSpace_eq_false_of_mem_encode {cs : List Char} (h : ∀ c ∈ cs, IsNumeric c) {b : UInt8}
    (hb : b ∈ encode cs) : isSpace b = false := by
  rw [Bool.eq_false_iff]
  intro hspace
  -- a blank is a character of its own, and none of those of a number
  have hblank : b = 0x20 ∨ b = 0x09 ∨ b = 0x0A ∨ b = 0x0D := by
    simpa [isSpace, or_assoc] using hspace
  have hmem {b : UInt8} (hlt : b.toNat < 0x80) (hb : b ∈ encode cs) :
      IsNumeric (Char.ofNat b.toNat) :=
    h _ (Utf8.mem_of_mem_encode hlt hb)
  rcases hblank with rfl | rfl | rfl | rfl <;>
    exact absurd (hmem (by decide) hb) (by unfold IsNumeric; decide)

/-! ## Reading back -/

theorem encode_print_num (n : Number) : Bytes.ofString (num n).toText = encode n.print := by
  rw [Bytes.ofString, toText, String.toList_ofList]
  rfl

/-- What follows a number that is known to read back makes no difference. -/
theorem value_print_num {n : Number} (h : n.ReadsBack) (depth : Nat) {rest : Bytes}
    (hrest : EndsNumber rest) : value depth (encode n.print ++ rest) = .ok (.num n, rest) := by
  have hblank : ∀ b ∈ encode n.print, isSpace b = false :=
    fun b => isSpace_eq_false_of_mem_encode (isNumeric_of_mem_print n)
  have hskip {bs : Bytes} (hbs : ∀ b ∈ bs, isSpace b = false) : skipSpace bs = bs := by
    cases bs with
    | nil => rfl
    | cons b bs => exact skipSpace_of_isSpace_eq_false (hbs b List.mem_cons_self) bs
  obtain ⟨left, hread, hleft⟩ := parse_eq_ok_iff.mp h
  rw [encode_print_num] at hread
  obtain ⟨b, tail, hbytes, hreads⟩ := value_eq_ok_iff.mp hread
  rw [hskip hblank] at hbytes
  -- nothing can be left, for it would have to be blank
  have hnil {used : Bytes} (hused : b :: tail = used ++ left) : left = [] := by
    rw [← hleft, hskip]
    intro b' hb'
    refine hblank b' ?_
    rw [hbytes, hused]
    exact List.mem_append_right used hb'
  have hfirst : skipSpace (b :: tail ++ rest) = b :: (tail ++ rest) :=
    skipSpace_of_isSpace_eq_false (hblank b (hbytes ▸ List.mem_cons_self)) _
  rw [hbytes]
  refine value_eq_ok_iff.mpr ⟨b, tail ++ rest, hfirst, ?_⟩
  generalize hv : Json.num n = v at hreads
  cases hreads with
  | negative hnumber =>
    cases hv
    obtain ⟨used, hused, hmore⟩ := isLocal_number hnumber
    have hall : ascii '-' :: tail = (ascii '-' :: used) ++ left := by
      rw [hused]
      rfl
    obtain rfl := hnil hall
    rw [hused, List.append_nil]
    exact .negative (hmore rest hrest)
  | positive hb hnumber =>
    cases hv
    obtain ⟨used, hused, hmore⟩ := isLocal_number hnumber
    obtain rfl := hnil hused
    rw [List.append_nil] at hused
    refine .positive hb ?_
    rw [← List.cons_append, hused]
    exact hmore rest hrest
  | null | yes | no | str | arr | obj => cases hv

/-- Integers of 64 bits read back. -/
theorem readsBack_int (m : Int) (hm : -0x8000000000000000 ≤ m ∧ m ≤ 0xFFFFFFFFFFFFFFFF) :
    (Number.int m hm).ReadsBack := by
  refine parse_eq_ok_iff.mpr ⟨[], ?_, rfl⟩
  rw [encode_print_num, value_eq_ok_iff]
  cases m with
  | ofNat n =>
    obtain ⟨c, cs, hcs⟩ := List.exists_cons_of_ne_nil (Nat.toDigits_ne_nil (n := n) (b := 10))
    have hc : c.isDigit = true :=
      Nat.isDigit_of_mem_toDigits (by decide) (by decide) (hcs ▸ List.mem_cons_self)
    obtain ⟨hbytes, hbyte, -⟩ := encode_digit_cons hc cs
    have hspace : isSpace (ascii c) = false := by
      refine isSpace_eq_false_of_mem_encode (isNumeric_of_mem_print (.int (.ofNat n) hm)) ?_
      rw [Number.print, Number.printInt, hcs, hbytes]
      exact List.mem_cons_self
    have hmax : n ≤ 0xFFFFFFFFFFFFFFFF := Int.ofNat_le.mp hm.2
    have hread : number false (encode (Nat.toDigits 10 n)) = .ok (.int (.ofNat n) hm, []) := by
      rw [number_toDigits (.inr rfl) hmax]
      exact afterInteger_nil (.inr rfl) hm rfl
    rw [Number.print, Number.printInt, hcs, hbytes]
    rw [hcs, hbytes] at hread
    exact ⟨ascii c, encode cs, skipSpace_of_isSpace_eq_false hspace _, .positive hbyte hread⟩
  | negSucc n =>
    have hread : number true (encode (Nat.toDigits 10 (n + 1))) =
        .ok (.int (.negSucc n) hm, []) := by
      rw [number_toDigits (.inl (Nat.succ_ne_zero n)) (by omega)]
      exact afterInteger_nil (.inl (Nat.succ_ne_zero n)) hm rfl
    exact ⟨ascii '-', encode (Nat.toDigits 10 (n + 1)), rfl, .negative hread⟩

end Json

end ToolAgent
