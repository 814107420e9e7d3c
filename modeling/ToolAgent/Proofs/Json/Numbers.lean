import Mathlib.Data.List.Basic
import Mathlib.Data.List.TakeWhile
import ToolAgent.Json.Lexeme

/-!
# Where a number ends

The reader of numbers goes on for as long as a number may, and is not concerned with what follows
(`isLocal_number`). Each of its parts is of that kind: the digits of an exponent, the exponent with
its sign, the fraction, and what follows the integer digits.
-/

namespace ToolAgent.Json

/-! ## What follows a number -/

/-- No more digits come first. -/
def EndsDigits (rest : Bytes) : Prop :=
  ∀ b, rest.head? = some b → isDigit b = false

/-- No number goes on with these bytes. -/
def EndsNumber (rest : Bytes) : Prop :=
  ∀ b, rest.head? = some b → isDigit b = false ∧ b ≠ ascii '.' ∧ b ≠ ascii 'e' ∧ b ≠ ascii 'E'

/-- What is read is read whatever follows, if only no number goes on there. -/
def IsLocal (read : Reader Number) : Prop :=
  ∀ ⦃bs : Bytes⦄ ⦃n : Number⦄ ⦃left : Bytes⦄, read bs = .ok (n, left) →
    ∃ used, bs = used ++ left ∧ ∀ rest, EndsNumber rest → read (used ++ rest) = .ok (n, rest)

theorem EndsNumber.endsDigits {rest : Bytes} (h : EndsNumber rest) : EndsDigits rest :=
  fun b hb => (h b hb).1

theorem endsNumber_nil : EndsNumber [] :=
  nofun

theorem EndsDigits.dropWhile_eq {rest : Bytes} (h : EndsDigits rest) :
    rest.dropWhile isDigit = rest := by
  cases rest with
  | nil => rfl
  | cons b rest => rw [List.dropWhile_cons_of_neg (by simp [h b rfl])]

theorem endsDigits_dropWhile (bs : Bytes) : EndsDigits (bs.dropWhile isDigit) := by
  intro b hb
  have hhead := List.head?_dropWhile_not isDigit bs
  rw [hb] at hhead
  exact hhead

/-- Bytes that do not begin with a digit, with something else behind them. -/
theorem EndsDigits.append {used left rest : Bytes} (h : EndsDigits (used ++ left))
    (hrest : EndsNumber rest) : EndsDigits (used ++ rest) := by
  cases used with
  | nil => exact hrest.endsDigits
  | cons b used =>
    intro b' hb'
    exact h b' hb'

theorem digits_append {ds rest : Bytes} (hds : ∀ d ∈ ds, isDigit d = true)
    (hrest : EndsDigits rest) : digits (ds ++ rest) = (ds, rest) := by
  have htake : rest.takeWhile isDigit = [] := by
    cases rest with
    | nil => rfl
    | cons b rest => rw [List.takeWhile_cons_of_neg (by simp [hrest b rfl])]
  rw [digits, List.takeWhile_append_of_pos hds, List.dropWhile_append_of_pos hds, htake,
    hrest.dropWhile_eq, List.append_nil]

/-- A reader that takes all digits first. -/
theorem isLocal_of_digits {read : Reader Number} {after : Bytes → Reader Number}
    (hafter : ∀ ds, IsLocal (after ds))
    (h : ∀ {ds rest : Bytes}, (∀ d ∈ ds, isDigit d = true) → EndsDigits rest →
      ∀ found, read (ds ++ rest) = .ok found ↔ after ds rest = .ok found) :
    IsLocal read := by
  intro bs n left hread
  have hds : ∀ d ∈ bs.takeWhile isDigit, isDigit d = true := fun d hd => List.mem_takeWhile_imp hd
  have hends := endsDigits_dropWhile bs
  rw [← List.takeWhile_append_dropWhile (p := isDigit) (l := bs), h hds hends] at hread
  obtain ⟨used, hused, hrest⟩ := hafter _ hread
  refine ⟨bs.takeWhile isDigit ++ used, ?_, ?_⟩
  · rw [List.append_assoc, ← hused, List.takeWhile_append_dropWhile]
  · intro rest hend
    rw [hused] at hends
    rw [List.append_assoc, h hds (hends.append hend)]
    exact hrest rest hend

/-! ## The parts of a number -/

section Parts

variable {negative : Bool} {significand : Nat} {base : Int}

theorem floatNumber_eq_ok {exponent : Int} {bs left : Bytes} {n : Number}
    (h : floatNumber negative significand exponent bs = .ok (n, left)) :
    bs = left ∧ ∀ rest, floatNumber negative significand exponent rest = .ok (n, rest) := by
  rw [floatNumber] at h
  split at h
  · rename_i found hfound
    cases h
    refine ⟨rfl, ?_⟩
    intro rest
    rw [floatNumber, hfound]
  · cases h

theorem exponentDigits_of_endsDigits {down : Bool} {power : Nat} {rest : Bytes}
    (h : EndsDigits rest) :
    exponentDigits negative significand base down power rest =
      floatNumber negative significand (if down then base - power else base + power) rest := by
  cases rest with
  | nil => rfl
  | cons b rest =>
    rw [exponentDigits, if_neg (by simp [h b rfl])]
    rfl

/-- The digits of an exponent are taken one by one while the power is within bounds. -/
theorem exponentDigits_of_le {down : Bool} {power : Nat} {d : UInt8} (hd : isDigit d = true)
    (hle : power * 10 + digitValue d ≤ 0x7FFFFFFF) (rest : Bytes) :
    exponentDigits negative significand base down power (d :: rest) =
      exponentDigits negative significand base down (power * 10 + digitValue d) rest := by
  rw [exponentDigits, if_pos hd]
  dsimp only
  rw [if_pos hle]

/-- Beyond these bounds the rest of them is dropped. -/
theorem exponentDigits_of_not_le {down : Bool} {power : Nat} {d : UInt8} (hd : isDigit d = true)
    (hle : ¬ power * 10 + digitValue d ≤ 0x7FFFFFFF) (rest : Bytes) :
    exponentDigits negative significand base down power (d :: rest) =
      if significand ≠ 0 && !down then .error (.fault .numberOutOfRange rest)
      else floatNumber negative 0 0 (rest.dropWhile isDigit) := by
  rw [exponentDigits, if_pos hd]
  dsimp only
  rw [if_neg hle]

theorem isLocal_exponentDigits (down : Bool) (power : Nat) :
    IsLocal (exponentDigits negative significand base down power) := by
  intro bs n left h
  have hstop {power : Nat} {bs : Bytes} (hends : EndsDigits bs)
      (h : exponentDigits negative significand base down power bs = .ok (n, left)) :
      ∃ used, bs = used ++ left ∧ ∀ rest, EndsNumber rest →
        exponentDigits negative significand base down power (used ++ rest) = .ok (n, rest) := by
    rw [exponentDigits_of_endsDigits hends] at h
    obtain ⟨hleft, hrest⟩ := floatNumber_eq_ok h
    refine ⟨[], hleft, ?_⟩
    intro rest hend
    rw [List.nil_append, exponentDigits_of_endsDigits hend.endsDigits]
    exact hrest rest
  induction bs generalizing power with
  | nil => exact hstop endsNumber_nil.endsDigits h
  | cons b bs ih =>
    cases hb : isDigit b with
    | false =>
      refine hstop ?_ h
      rintro _ ⟨⟩
      exact hb
    | true =>
      by_cases hle : power * 10 + digitValue b ≤ 0x7FFFFFFF
      · rw [exponentDigits_of_le hb hle] at h
        obtain ⟨used, rfl, hrest⟩ := ih _ h
        refine ⟨b :: used, rfl, ?_⟩
        intro rest hend
        rw [List.cons_append, exponentDigits_of_le hb hle]
        exact hrest rest hend
      · rw [exponentDigits_of_not_le hb hle] at h
        split at h
        · cases h
        · rename_i hzero
          obtain ⟨rfl, hrest⟩ := floatNumber_eq_ok h
          refine ⟨b :: bs.takeWhile isDigit, ?_, ?_⟩
          · rw [List.cons_append, List.takeWhile_append_dropWhile]
          · intro rest hend
            have hds : ∀ d ∈ bs.takeWhile isDigit, isDigit d = true :=
              fun d hd => List.mem_takeWhile_imp hd
            rw [List.cons_append, exponentDigits_of_not_le hb hle, if_neg hzero,
              List.dropWhile_append_of_pos hds, hend.endsDigits.dropWhile_eq]
            exact hrest rest

theorem exponentPart_of_sign {sign : UInt8} {down : Bool}
    (hsign : sign = ascii '+' ∧ down = false ∨ sign = ascii '-' ∧ down = true) (d : UInt8)
    (more : Bytes) :
    exponentPart negative significand base (sign :: d :: more) =
      if isDigit d then exponentDigits negative significand base down (digitValue d) more
      else .error (.fault .invalidNumber more) := by
  rcases hsign with ⟨rfl, rfl⟩ | ⟨rfl, rfl⟩ <;> rfl

theorem exponentPart_of_digit {d : UInt8} (hd : isDigit d = true) (more : Bytes) :
    exponentPart negative significand base (d :: more) =
      exponentDigits negative significand base false (digitValue d) more := by
  have hplus : d ≠ ascii '+' := by
    rintro rfl
    cases hd
  have hminus : d ≠ ascii '-' := by
    rintro rfl
    cases hd
  simp only [exponentPart, if_neg hplus, if_neg hminus, if_pos hd]

/-- The sign of an exponent, if it has one. -/
def IsSign (sign : Bytes) : Prop := sign = [] ∨ sign = [ascii '+'] ∨ sign = [ascii '-']

/-- An exponent is its sign and first digit, and what comes of the others. -/
theorem exists_exponentDigits_of_exponentPart {bs : Bytes} {found : Number × Bytes}
    (h : exponentPart negative significand base bs = .ok found) :
    ∃ sign d rest down, IsSign sign ∧ isDigit d = true ∧ bs = sign ++ d :: rest ∧ ∀ more,
      exponentPart negative significand base (sign ++ d :: more) =
        exponentDigits negative significand base down (digitValue d) more := by
  cases bs with
  | nil => cases h
  | cons b bs =>
    by_cases hsign : ∃ down, b = ascii '+' ∧ down = false ∨ b = ascii '-' ∧ down = true
    · obtain ⟨down, hsign⟩ := hsign
      cases bs with
      | nil => rcases hsign with ⟨rfl, -⟩ | ⟨rfl, -⟩ <;> cases h
      | cons d rest =>
        rw [exponentPart_of_sign hsign] at h
        split at h
        · rename_i hd
          refine ⟨[b], d, rest, down, ?_, hd, rfl, ?_⟩
          · rcases hsign with ⟨rfl, -⟩ | ⟨rfl, -⟩ <;> simp [IsSign]
          · intro more
            exact (exponentPart_of_sign hsign d more).trans (if_pos hd)
        · cases h
    · cases hb : isDigit b with
      | true => exact ⟨[], b, bs, false, .inl rfl, hb, rfl, exponentPart_of_digit hb⟩
      | false =>
        exfalso
        have hplus : b ≠ ascii '+' := fun heq => hsign ⟨false, .inl ⟨heq, rfl⟩⟩
        have hminus : b ≠ ascii '-' := fun heq => hsign ⟨true, .inr ⟨heq, rfl⟩⟩
        simp only [exponentPart, if_neg hplus, if_neg hminus, hb] at h
        cases h

theorem isLocal_exponentPart : IsLocal (exponentPart negative significand base) := by
  intro bs n left h
  obtain ⟨sign, d, rest, down, -, -, rfl, hpart⟩ := exists_exponentDigits_of_exponentPart h
  rw [hpart] at h
  obtain ⟨used, rfl, hrest⟩ := isLocal_exponentDigits down (digitValue d) h
  refine ⟨sign ++ d :: used, (List.append_assoc sign (d :: used) left).symm, ?_⟩
  intro more hmore
  rw [List.append_assoc, List.cons_append, hpart]
  exact hrest more hmore

/-- What follows the digits of a fraction. -/
def afterFraction (negative : Bool) (significand : Nat) (exponent : Int) : Reader Number := fun bs =>
  match bs with
  | [] => floatNumber negative significand exponent []
  | b :: rest =>
    if b = ascii 'e' || b = ascii 'E' then exponentPart negative significand exponent rest
    else floatNumber negative significand exponent bs

theorem isLocal_afterFraction {exponent : Int} :
    IsLocal (afterFraction negative significand exponent) := by
  intro bs n left h
  have hend {rest : Bytes} (hrest : EndsNumber rest) :
      afterFraction negative significand exponent rest =
        floatNumber negative significand exponent rest := by
    cases rest with
    | nil => rfl
    | cons b rest =>
      obtain ⟨-, -, he, hE⟩ := hrest b rfl
      simp [afterFraction, he, hE]
  by_cases hbs : ∃ b rest, bs = b :: rest ∧ (b = ascii 'e' ∨ b = ascii 'E')
  · obtain ⟨b, rest, rfl, hb⟩ := hbs
    have hpart (more : Bytes) : afterFraction negative significand exponent (b :: more) =
        exponentPart negative significand exponent more := by
      rcases hb with rfl | rfl <;> rfl
    rw [hpart] at h
    obtain ⟨used, rfl, hrest⟩ := isLocal_exponentPart h
    refine ⟨b :: used, rfl, ?_⟩
    intro more hmore
    rw [List.cons_append, hpart]
    exact hrest more hmore
  · have hfloat : floatNumber negative significand exponent bs = .ok (n, left) := by
      cases bs with
      | nil => exact h
      | cons b rest =>
        have hb : ¬ (b = ascii 'e' ∨ b = ascii 'E') := fun hb => hbs ⟨b, rest, rfl, hb⟩
        simpa [afterFraction, not_or.mp hb] using h
    obtain ⟨hleft, hrest⟩ := floatNumber_eq_ok hfloat
    refine ⟨[], hleft, ?_⟩
    intro more hmore
    rw [List.nil_append, hend hmore]
    exact hrest more

theorem fractionPart_append {ds rest : Bytes} (hne : ds ≠ []) (hds : ∀ d ∈ ds, isDigit d = true)
    (hrest : EndsDigits rest) :
    fractionPart negative significand base (ds ++ rest) =
      afterFraction negative (absorb significand ds).1
        (base - (ds.length - (absorb significand ds).2 : Nat)) rest := by
  rw [fractionPart, digits_append hds hrest]
  cases ds with
  | nil => exact absurd rfl hne
  | cons => rfl

/-- A point is not enough for a fraction. -/
theorem fractionPart_of_endsDigits {rest : Bytes} (h : EndsDigits rest) (found : Number × Bytes) :
    fractionPart negative significand base rest ≠ .ok found := by
  rw [← List.nil_append rest, fractionPart, digits_append (List.forall_mem_nil _) h]
  cases rest <;> exact nofun

theorem isLocal_fractionPart : IsLocal (fractionPart negative significand base) := by
  let after (ds : Bytes) : Reader Number :=
    if ds.isEmpty then fun _ => .error (.fault .invalidNumber [])
    else afterFraction negative (absorb significand ds).1
      (base - (ds.length - (absorb significand ds).2 : Nat))
  have hafter (ds : Bytes) : IsLocal (after ds) := by
    cases ds with
    | nil =>
      intro bs n left h
      cases h
    | cons => exact isLocal_afterFraction
  refine isLocal_of_digits hafter ?_
  intro ds rest hds hends found
  cases ds with
  | nil => exact ⟨fun h => absurd h (fractionPart_of_endsDigits hends found), nofun⟩
  | cons d ds =>
    rw [fractionPart_append (List.cons_ne_nil d ds) hds hends]
    rfl

theorem integer_eq_ok {absorbed : Nat} {bs left : Bytes} {n : Number}
    (h : afterInteger.integer negative significand absorbed bs = .ok (n, left)) :
    bs = left ∧ ∀ rest, afterInteger.integer negative significand absorbed rest = .ok (n, rest) := by
  rw [afterInteger.integer] at h
  split at h
  · rename_i hbound
    obtain ⟨hleft, hrest⟩ := floatNumber_eq_ok h
    refine ⟨hleft, ?_⟩
    intro rest
    rw [afterInteger.integer, if_pos hbound]
    exact hrest rest
  · rename_i hbound
    split at h
    · rename_i found hfound
      cases h
      refine ⟨rfl, ?_⟩
      intro rest
      rw [afterInteger.integer, if_neg hbound, hfound]
    · rename_i hfound
      obtain ⟨hleft, hrest⟩ := floatNumber_eq_ok h
      refine ⟨hleft, ?_⟩
      intro rest
      rw [afterInteger.integer, if_neg hbound, hfound]
      exact hrest rest

theorem afterInteger_of_endsNumber {absorbed : Nat} {rest : Bytes} (h : EndsNumber rest) :
    afterInteger negative significand absorbed rest =
      afterInteger.integer negative significand absorbed rest := by
  cases rest with
  | nil => rfl
  | cons b rest =>
    obtain ⟨-, hpoint, he, hE⟩ := h b rfl
    simp [afterInteger, hpoint, he, hE]

theorem isLocal_afterInteger {absorbed : Nat} :
    IsLocal (afterInteger negative significand absorbed) := by
  intro bs n left h
  -- a point or the letter of an exponent, and a reader for what is behind it
  have hpart {b : UInt8} {part : Reader Number} (hlocal : IsLocal part)
      (hb : ∀ more, afterInteger negative significand absorbed (b :: more) = part more)
      (hbs : bs.head? = some b) : ∃ used, bs = used ++ left ∧ ∀ rest, EndsNumber rest →
        afterInteger negative significand absorbed (used ++ rest) = .ok (n, rest) := by
    obtain ⟨rest, rfl⟩ := List.head?_eq_some_iff.mp hbs
    rw [hb] at h
    obtain ⟨used, rfl, hrest⟩ := hlocal h
    refine ⟨b :: used, rfl, ?_⟩
    intro more hmore
    rw [List.cons_append, hb]
    exact hrest more hmore
  by_cases hpoint : bs.head? = some (ascii '.')
  · exact hpart isLocal_fractionPart (fun _ => rfl) hpoint
  by_cases he : bs.head? = some (ascii 'e')
  · exact hpart isLocal_exponentPart (fun _ => rfl) he
  by_cases hE : bs.head? = some (ascii 'E')
  · exact hpart isLocal_exponentPart (fun _ => rfl) hE
  have hinteger : afterInteger.integer negative significand absorbed bs = .ok (n, left) := by
    cases bs with
    | nil => exact h
    | cons b rest =>
      simp only [List.head?_cons, Option.some.injEq] at hpoint he hE
      simpa [afterInteger, hpoint, he, hE] using h
  obtain ⟨hleft, hrest⟩ := integer_eq_ok hinteger
  refine ⟨[], hleft, ?_⟩
  intro rest hend
  rw [List.nil_append, afterInteger_of_endsNumber hend]
  exact hrest rest

/-- The first digit, with what comes of those behind it. -/
theorem number_of_digit {d : UInt8} (hzero : d ≠ ascii '0') (hd : isDigit d = true) (rest : Bytes) :
    number negative (d :: rest) =
      afterInteger negative (absorb (digitValue d) (digits rest).1).1
        (absorb (digitValue d) (digits rest).1).2 (digits rest).2 := by
  rw [number.eq_def]
  dsimp only
  rw [if_neg hzero, if_pos hd]

theorem number_of_zero {rest : Bytes} (h : EndsDigits rest) :
    number negative (ascii '0' :: rest) = afterInteger negative 0 0 rest := by
  cases rest with
  | nil => rfl
  | cons b rest =>
    rw [number, if_pos rfl, if_neg (by simp [h b rfl])]

/-- A number begins with a zero that no digit follows, or with another digit. -/
theorem head_of_number {b : UInt8} {bs : Bytes} {found : Number × Bytes}
    (h : number negative (b :: bs) = .ok found) :
    b = ascii '0' ∧ EndsDigits bs ∨ b ≠ ascii '0' ∧ isDigit b = true := by
  by_cases hzero : b = ascii '0'
  · subst hzero
    refine .inl ⟨rfl, ?_⟩
    cases bs with
    | nil => exact nofun
    | cons d bs =>
      rintro _ ⟨⟩
      cases hd : isDigit d with
      | false => rfl
      | true =>
        rw [number, if_pos rfl, if_pos hd] at h
        cases h
  · cases hb : isDigit b with
    | true => exact .inr ⟨hzero, rfl⟩
    | false =>
      rw [number.eq_def] at h
      dsimp only at h
      rw [if_neg hzero, if_neg (by simp [hb])] at h
      cases h

theorem isLocal_number : IsLocal (number negative) := by
  intro bs n left h
  cases bs with
  | nil => cases h
  | cons b bs =>
    obtain ⟨rfl, hends⟩ | ⟨hzero, hb⟩ := head_of_number h
    · rw [number_of_zero hends] at h
      obtain ⟨used, rfl, hrest⟩ := isLocal_afterInteger h
      refine ⟨ascii '0' :: used, rfl, ?_⟩
      intro rest hend
      rw [List.cons_append, number_of_zero (hends.append hend)]
      exact hrest rest hend
    · have hlocal : IsLocal fun rest => number negative (b :: rest) := by
        let after (ds : Bytes) : Reader Number :=
          afterInteger negative (absorb (digitValue b) ds).1 (absorb (digitValue b) ds).2
        have hafter (ds : Bytes) : IsLocal (after ds) := isLocal_afterInteger
        refine isLocal_of_digits hafter ?_
        intro ds rest hds hends found
        rw [number_of_digit hzero hb, digits_append hds hends]
      obtain ⟨used, rfl, hrest⟩ := hlocal h
      exact ⟨b :: used, rfl, hrest⟩

end Parts

end ToolAgent.Json
