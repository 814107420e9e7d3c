import ToolAgent.Proofs.Completion.Streaming

/-!
# Token counts

A gateway gives a count of tokens as an integer that 64 bits hold, and a usage has 32 bits for it. A
count that fits is reported as it is (`Usage.exists_count_of_given`). Of one that does not, the low
32 bits are reported, and none at all if it is beyond the signed integers of 64 bits; the total is
then made up from the other two counts, as if it were missing. So it is these counts exactly that
are not reported faithfully (`Usage.isFaithful_iff`).
-/

namespace ToolAgent.Usage

/-- What a usage counts. -/
inductive Part where
  | input
  | output
  | total
deriving DecidableEq

/-- The member that holds the count in what the gateway reports. -/
def Part.key : Part → String
  | input => "prompt_tokens"
  | output => "completion_tokens"
  | total => "total_tokens"

def count? (usage : Usage) : Part → Option Int32
  | .input => usage.input
  | .output => usage.output
  | .total => usage.total

/-- The integer that the gateway gives. -/
def given? (reported : Json) (part : Part) : Option Int :=
  match reported.get? part.key with
  | some (.num (.int n _)) => some n
  | _ => none

/-- An integer that the gateway gives is the count, unless there is no count. -/
def IsFaithful (usage : Usage) (reported : Json) (part : Part) : Prop :=
  ∀ n, given? reported part = some n → ∀ c, usage.count? part = some c → c.toInt = n

def FitsInt32 (n : Int) : Prop := -0x80000000 ≤ n ∧ n ≤ 0x7FFFFFFF

/-- Larger than the signed integers of 64 bits. -/
def IsOverlarge (n : Int) : Prop := 0x7FFFFFFFFFFFFFFF < n

instance : DecidablePred FitsInt32 := fun n =>
  inferInstanceAs (Decidable (-0x80000000 ≤ n ∧ n ≤ 0x7FFFFFFF))

instance : DecidablePred IsOverlarge := fun n =>
  inferInstanceAs (Decidable (0x7FFFFFFFFFFFFFFF < n))

theorem fitsInt32_toInt (c : Int32) : FitsInt32 c.toInt := by
  have hle := c.le_toInt
  have hlt := c.toInt_lt
  constructor <;> omega

theorem toInt_ofInt_eq_iff {n : Int} : (Int32.ofInt n).toInt = n ↔ FitsInt32 n := by
  constructor
  · intro h
    exact h ▸ fitsInt32_toInt (Int32.ofInt n)
  · rintro ⟨hle, hge⟩
    exact Int32.toInt_ofInt_of_le (by omega) (by omega)

theorem FitsInt32.not_isOverlarge {n : Int} (h : FitsInt32 n) : ¬ IsOverlarge n := by
  have hle : n ≤ 0x7FFFFFFF := h.2
  rw [IsOverlarge]
  omega

/-! ## Counts that are read -/

/-- The count that is read from what the gateway reports. -/
def read? (reported : Json) (part : Part) : Option Int32 :=
  ((reported.get? part.key).bind Json.asInt64?).map Int32.ofInt

variable {response reported : Json} {part : Part} {n : Int}

theorem read?_eq (reported : Json) (part : Part) :
    read? reported part =
      ((given? reported part).filter fun n => ¬ IsOverlarge n).map Int32.ofInt := by
  rw [read?, given?]
  split
  · rename_i n _ hget
    by_cases hle : n ≤ 0x7FFFFFFFFFFFFFFF <;>
      simp [hget, Json.asInt64?, Number.toInt64?, IsOverlarge, hle, not_le.mp]
  · rename_i hother
    rw [Option.filter_none, Option.map_none, Option.map_eq_none_iff, Option.bind_eq_none_iff]
    intro v hv
    cases v with
    | num x =>
      cases x with
      | int n hn => exact absurd hv (hother n hn)
      | float => rfl
    | _ => rfl

theorem read?_of_given (h : given? reported part = some n) (hn : ¬ IsOverlarge n) :
    read? reported part = some (Int32.ofInt n) := by
  simp [read?_eq, h, hn]

theorem read?_of_overlarge (h : given? reported part = some n) (hn : IsOverlarge n) :
    read? reported part = none := by
  simp [read?_eq, h, hn]

theorem read?_of_given_none (h : given? reported part = none) : read? reported part = none := by
  simp [read?_eq, h]

theorem ofResponse_of_usage?_none (h : Delta.usage? response = none) :
    ofResponse response = {} := by
  rw [Delta.usage?] at h
  rw [ofResponse]
  split
  · rfl
  · rfl
  · rename_i usage hnull hget
    cases usage <;> simp_all [Json.isNull]

/-- The total that is read comes before the sum of the other counts. -/
theorem ofResponse_eq (h : Delta.usage? response = some reported) :
    ofResponse response = {
      input := read? reported .input
      output := read? reported .output
      total := (read? reported .total).or do
        return (← read? reported .input) + (← read? reported .output) } := by
  obtain ⟨hget, -⟩ := Option.filter_eq_some_iff.mp h
  rw [ofResponse, hget]
  cases reported <;> rfl

section Counts

variable (h : Delta.usage? response = some reported)

include h

theorem count?_of_read? {c : Int32} (hread : read? reported part = some c) :
    (ofResponse response).count? part = some c := by
  rw [ofResponse_eq h]
  cases part with
  | input => exact hread
  | output => exact hread
  | total => simp only [count?, hread, Option.some_or]

theorem total_of_read?_none (hread : read? reported .total = none) {input output : Int32}
    (hinput : (ofResponse response).input = some input)
    (houtput : (ofResponse response).output = some output) :
    (ofResponse response).total = some (input + output) := by
  rw [ofResponse_eq h] at hinput houtput ⊢
  simp only [hread, Option.none_or] at hinput houtput ⊢
  simp [hinput, houtput]

/-- Without an integer to read there is a count only if it is the total, and then the other two
counts are there. -/
theorem exists_counts_of_read?_none (hread : read? reported part = none) {c : Int32}
    (hc : (ofResponse response).count? part = some c) :
    part = .total ∧ ∃ input output, (ofResponse response).input = some input ∧
      (ofResponse response).output = some output := by
  rw [ofResponse_eq h] at hc ⊢
  cases part with
  | input => simp [count?, hread] at hc
  | output => simp [count?, hread] at hc
  | total =>
    simp only [count?, hread, Option.none_or, Option.bind_eq_bind, Option.bind_eq_some_iff] at hc
    obtain ⟨input, hinput, output, houtput, -⟩ := hc
    exact ⟨rfl, input, output, hinput, houtput⟩

/-- An integer of 32 bits is reported as it is. -/
theorem exists_count_of_given (hgiven : given? reported part = some n) (hn : FitsInt32 n) :
    ∃ c, (ofResponse response).count? part = some c ∧ c.toInt = n :=
  ⟨_, count?_of_read? h (read?_of_given hgiven hn.not_isOverlarge), toInt_ofInt_eq_iff.mpr hn⟩

/-- A total that is not given is the sum of the other counts. -/
theorem exists_total_of_given_none (hgiven : given? reported .total = none) {input output : Int32}
    (hinput : (ofResponse response).input = some input)
    (houtput : (ofResponse response).output = some output)
    (hsum : FitsInt32 (input.toInt + output.toInt)) :
    ∃ total, (ofResponse response).total = some total ∧
      total.toInt = input.toInt + output.toInt := by
  refine ⟨_, total_of_read?_none h (read?_of_given_none hgiven) hinput houtput, ?_⟩
  have hadd : input + output = Int32.ofInt (input.toInt + output.toInt) := by
    rw [Int32.ofInt_add, Int32.ofInt_toInt, Int32.ofInt_toInt]
  rw [hadd, toInt_ofInt_eq_iff.mpr hsum]

/-- **Which counts can be relied on.** An integer that is given is reported as it is or not at all
if and only if it fits in 32 bits or is beyond the signed integers of 64 bits, in which case it must
not be a total that the other counts make up. -/
theorem isFaithful_iff : (ofResponse response).IsFaithful reported part ↔
    ∀ n, given? reported part = some n → FitsInt32 n ∨ IsOverlarge n ∧ (part = .total →
      (ofResponse response).input = none ∨ (ofResponse response).output = none) := by
  constructor
  · intro hfaithful n hn
    by_cases hoverlarge : IsOverlarge n
    · refine .inr ⟨hoverlarge, ?_⟩
      rintro rfl
      by_contra hcounts
      obtain ⟨hinput, houtput⟩ := not_or.mp hcounts
      obtain ⟨input, hinput⟩ := Option.ne_none_iff_exists'.mp hinput
      obtain ⟨output, houtput⟩ := Option.ne_none_iff_exists'.mp houtput
      -- the sum of the other counts has 32 bits, and the total that was given does not fit in them
      have hsum : (input + output).toInt = n := hfaithful n hn _
        (total_of_read?_none h (read?_of_overlarge hn hoverlarge) hinput houtput)
      exact (hsum ▸ fitsInt32_toInt (input + output)).not_isOverlarge hoverlarge
    · have hcount := count?_of_read? h (read?_of_given hn hoverlarge)
      exact .inl (toInt_ofInt_eq_iff.mp (hfaithful n hn _ hcount))
  · intro hfits n hn c hc
    obtain hfits | ⟨hoverlarge, htotal⟩ := hfits n hn
    · obtain ⟨c', hc', hn'⟩ := exists_count_of_given h hn hfits
      rw [hc] at hc'
      exact Option.some.inj hc' ▸ hn'
    · obtain ⟨rfl, input, output, hinput, houtput⟩ :=
        exists_counts_of_read?_none h (read?_of_overlarge hn hoverlarge) hc
      rw [hinput, houtput] at htotal
      simp at htotal

end Counts

end ToolAgent.Usage
