import ToolAgent.Proofs.Json.Numbers

/-!
# How numbers are spelled

A number is spelled with integer digits, perhaps a fraction and perhaps an exponent (`IsNumeral`);
a minus sign stands in front of that. Nothing else is read as a number (`isNumeral_of_number`). All
of these are, up to their last byte, unless the number is out of range (`readsWhole_number`).
-/

namespace ToolAgent.Json

/-! ## Numerals -/

/-- One digit or more. -/
def IsDigits (ds : Bytes) : Prop := ds ≠ [] ∧ ∀ d ∈ ds, isDigit d = true

/-- No zero stands in front of other integer digits. -/
inductive IsInteger : Bytes → Prop where
  | zero : IsInteger [ascii '0']
  | digits {d : UInt8} {ds : Bytes} (hzero : d ≠ ascii '0') (hds : IsDigits (d :: ds)) :
      IsInteger (d :: ds)

/-- A point and digits, or nothing. -/
inductive IsFraction : Bytes → Prop where
  | none : IsFraction []
  | point {ds : Bytes} (hds : IsDigits ds) : IsFraction (ascii '.' :: ds)

/-- A letter, perhaps a sign, and digits, or nothing. -/
inductive IsExponent : Bytes → Prop where
  | none : IsExponent []
  | letter {e : UInt8} {sign ds : Bytes} (he : e = ascii 'e' ∨ e = ascii 'E') (hsign : IsSign sign)
      (hds : IsDigits ds) : IsExponent (e :: (sign ++ ds))

/-- A number without its minus sign. -/
inductive IsNumeral : Bytes → Prop where
  | parts {integer fraction exponent : Bytes} (hinteger : IsInteger integer)
      (hfraction : IsFraction fraction) (hexponent : IsExponent exponent) :
      IsNumeral (integer ++ (fraction ++ exponent))

theorem isDigits_cons {d : UInt8} {ds : Bytes} :
    IsDigits (d :: ds) ↔ isDigit d = true ∧ ∀ d ∈ ds, isDigit d = true := by
  simp [IsDigits]

theorem IsExponent.endsDigits {exponent : Bytes} (h : IsExponent exponent) :
    EndsDigits exponent := by
  cases h with
  | none => exact nofun
  | letter he =>
    rintro _ ⟨⟩
    rcases he with rfl | rfl <;> rfl

theorem IsFraction.endsDigits {fraction exponent : Bytes} (h : IsFraction fraction)
    (hexponent : IsExponent exponent) : EndsDigits (fraction ++ exponent) := by
  cases h with
  | none => exact hexponent.endsDigits
  | point =>
    rintro _ ⟨⟩
    rfl

/-! ## What is read -/

section Parts

variable {negative : Bool} {significand : Nat} {base : Int} {bs : Bytes} {n : Number}

theorem forall_isDigit_of_exponentDigits {down : Bool} {power : Nat}
    (h : exponentDigits negative significand base down power bs = .ok (n, [])) :
    ∀ d ∈ bs, isDigit d = true := by
  induction bs generalizing power with
  | nil => exact List.forall_mem_nil _
  | cons b bs ih =>
    cases hb : isDigit b with
    | false =>
      have hends : EndsDigits (b :: bs) := by
        rintro _ ⟨⟩
        exact hb
      rw [exponentDigits_of_endsDigits hends] at h
      exact absurd (floatNumber_eq_ok h).1 (List.cons_ne_nil b bs)
    | true =>
      refine List.forall_mem_cons.mpr ⟨hb, ?_⟩
      by_cases hle : power * 10 + digitValue b ≤ 0x7FFFFFFF
      · rw [exponentDigits_of_le hb hle] at h
        exact ih h
      · rw [exponentDigits_of_not_le hb hle] at h
        split at h
        · cases h
        · exact List.dropWhile_eq_nil_iff.mp (floatNumber_eq_ok h).1

theorem isExponent_of_exponentPart {e : UInt8} (he : e = ascii 'e' ∨ e = ascii 'E')
    (h : exponentPart negative significand base bs = .ok (n, [])) : IsExponent (e :: bs) := by
  obtain ⟨sign, d, rest, down, hsign, hd, rfl, hpart⟩ := exists_exponentDigits_of_exponentPart h
  rw [hpart] at h
  exact .letter he hsign (isDigits_cons.mpr ⟨hd, forall_isDigit_of_exponentDigits h⟩)

theorem isExponent_of_afterFraction {exponent : Int}
    (h : afterFraction negative significand exponent bs = .ok (n, [])) : IsExponent bs := by
  cases bs with
  | nil => exact .none
  | cons b rest =>
    rw [afterFraction] at h
    split at h
    · rename_i hb
      exact isExponent_of_exponentPart (by simpa using hb) h
    · exact absurd (floatNumber_eq_ok h).1 (List.cons_ne_nil b rest)

theorem isFraction_of_fractionPart
    (h : fractionPart negative significand base bs = .ok (n, [])) :
    ∃ fraction exponent, IsFraction fraction ∧ IsExponent exponent ∧
      ascii '.' :: bs = fraction ++ exponent := by
  have hends := endsDigits_dropWhile bs
  have hds : ∀ d ∈ bs.takeWhile isDigit, isDigit d = true := fun d hd => List.mem_takeWhile_imp hd
  rw [← List.takeWhile_append_dropWhile (p := isDigit) (l := bs)] at h ⊢
  by_cases hne : bs.takeWhile isDigit = []
  · rw [hne] at h
    exact absurd h (fractionPart_of_endsDigits hends _)
  · rw [fractionPart_append hne hds hends] at h
    exact ⟨_, _, .point ⟨hne, hds⟩, isExponent_of_afterFraction h, rfl⟩

theorem isFraction_of_afterInteger {absorbed : Nat}
    (h : afterInteger negative significand absorbed bs = .ok (n, [])) :
    ∃ fraction exponent, IsFraction fraction ∧ IsExponent exponent ∧ bs = fraction ++ exponent := by
  cases bs with
  | nil => exact ⟨[], [], .none, .none, rfl⟩
  | cons b rest =>
    rw [afterInteger] at h
    split at h
    · rename_i hb
      subst hb
      exact isFraction_of_fractionPart h
    split at h
    · rename_i hb
      exact ⟨[], _, .none, isExponent_of_exponentPart (by simpa using hb) h, rfl⟩
    · exact absurd (integer_eq_ok h).1 (List.cons_ne_nil b rest)

/-- What is read as a number is a numeral. -/
theorem isNumeral_of_number (h : number negative bs = .ok (n, [])) : IsNumeral bs := by
  cases bs with
  | nil => cases h
  | cons b bs =>
    obtain ⟨rfl, hends⟩ | ⟨hzero, hb⟩ := head_of_number h
    · rw [number_of_zero hends] at h
      obtain ⟨fraction, exponent, hfraction, hexponent, rfl⟩ := isFraction_of_afterInteger h
      exact .parts .zero hfraction hexponent
    · rw [number_of_digit hzero hb] at h
      obtain ⟨fraction, exponent, hfraction, hexponent, hrest⟩ := isFraction_of_afterInteger h
      have hds : IsDigits (b :: bs.takeWhile isDigit) :=
        isDigits_cons.mpr ⟨hb, fun d hd => List.mem_takeWhile_imp hd⟩
      have hbs : b :: bs = b :: bs.takeWhile isDigit ++ (fraction ++ exponent) := by
        rw [← hrest, List.cons_append, digits, List.takeWhile_append_dropWhile]
      rw [hbs]
      exact .parts (.digits hzero hds) hfraction hexponent

/-! ## What is read to its end -/

/-- All bytes are read, or the number is out of range. -/
def ReadsWhole (read : Except Stop (Number × Bytes)) : Prop :=
  (∃ n, read = .ok (n, [])) ∨ ∃ left, read = .error (.fault .numberOutOfRange left)

theorem readsWhole_floatNumber (exponent : Int) :
    ReadsWhole (floatNumber negative significand exponent []) := by
  rw [floatNumber]
  split
  · exact .inl ⟨_, rfl⟩
  · exact .inr ⟨_, rfl⟩

theorem readsWhole_exponentDigits {ds : Bytes} (hds : ∀ d ∈ ds, isDigit d = true) (down : Bool)
    (power : Nat) : ReadsWhole (exponentDigits negative significand base down power ds) := by
  induction ds generalizing power with
  | nil => exact readsWhole_floatNumber _
  | cons d ds ih =>
    obtain ⟨hd, hds⟩ := List.forall_mem_cons.mp hds
    by_cases hle : power * 10 + digitValue d ≤ 0x7FFFFFFF
    · rw [exponentDigits_of_le hd hle]
      exact ih hds _
    · rw [exponentDigits_of_not_le hd hle, List.dropWhile_eq_nil_iff.mpr hds]
      split
      · exact .inr ⟨ds, rfl⟩
      · exact readsWhole_floatNumber 0

theorem readsWhole_exponentPart {sign ds : Bytes} (hsign : IsSign sign) (hds : IsDigits ds) :
    ReadsWhole (exponentPart negative significand base (sign ++ ds)) := by
  obtain ⟨d, more, rfl⟩ := List.exists_cons_of_ne_nil hds.1
  obtain ⟨hd, hmore⟩ := isDigits_cons.mp hds
  obtain rfl | rfl | rfl := hsign
  · rw [List.nil_append, exponentPart_of_digit hd]
    exact readsWhole_exponentDigits hmore _ _
  · rw [List.singleton_append, exponentPart_of_sign (.inl ⟨rfl, rfl⟩), if_pos hd]
    exact readsWhole_exponentDigits hmore _ _
  · rw [List.singleton_append, exponentPart_of_sign (.inr ⟨rfl, rfl⟩), if_pos hd]
    exact readsWhole_exponentDigits hmore _ _

theorem readsWhole_afterFraction {exponent : Int} (h : IsExponent bs) :
    ReadsWhole (afterFraction negative significand exponent bs) := by
  cases h with
  | none => exact readsWhole_floatNumber exponent
  | letter he hsign hds =>
    rcases he with rfl | rfl <;> exact readsWhole_exponentPart hsign hds

theorem readsWhole_integer {absorbed : Nat} :
    ReadsWhole (afterInteger.integer negative significand absorbed []) := by
  rw [afterInteger.integer]
  split
  · exact readsWhole_floatNumber _
  split
  · exact .inl ⟨_, rfl⟩
  · exact readsWhole_floatNumber 0

theorem readsWhole_afterInteger {absorbed : Nat} {fraction exponent : Bytes}
    (hfraction : IsFraction fraction) (hexponent : IsExponent exponent) :
    ReadsWhole (afterInteger negative significand absorbed (fraction ++ exponent)) := by
  cases hfraction with
  | none =>
    cases hexponent with
    | none => exact readsWhole_integer
    | letter he hsign hds =>
      rcases he with rfl | rfl <;> exact readsWhole_exponentPart hsign hds
  | @point ds hds =>
    show ReadsWhole (fractionPart negative significand absorbed (ds ++ exponent))
    rw [fractionPart_append hds.1 hds.2 hexponent.endsDigits]
    exact readsWhole_afterFraction hexponent

/-- **A numeral is read to its end**, unless the number is out of range. -/
theorem readsWhole_number (h : IsNumeral bs) : ReadsWhole (number negative bs) := by
  obtain ⟨hinteger, hfraction, hexponent⟩ := h
  have hends := hfraction.endsDigits hexponent
  cases hinteger with
  | zero =>
    rw [List.singleton_append, number_of_zero hends]
    exact readsWhole_afterInteger hfraction hexponent
  | @digits d ds hzero hds =>
    obtain ⟨hd, hds⟩ := isDigits_cons.mp hds
    rw [List.cons_append, number_of_digit hzero hd, digits_append hds hends]
    exact readsWhole_afterInteger hfraction hexponent

end Parts

end ToolAgent.Json
