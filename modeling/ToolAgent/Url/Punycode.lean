/-!
# Punycode

A label in ASCII: its ASCII characters, a hyphen, and then where the others go, as steps through all
pairs of a character and a place. A step is a number in base 36 whose digits end at a threshold, and
the thresholds follow the steps taken so far.
-/

namespace ToolAgent.Punycode

/-- The beginning of a label that is written so. -/
def mark : List Char := ['x', 'n', '-', '-']

section Digits

def digitChar (d : Nat) : Char :=
  Char.ofNat (if d < 26 then 'a'.toNat + d else '0'.toNat + (d - 26))

def digitValue? (c : Char) : Option Nat :=
  if c.isDigit then some (c.toNat - '0'.toNat + 26)
  else if c.isLower then some (c.toNat - 'a'.toNat)
  else none

/-- The threshold of the digit that `place` counts, from 36 on in steps of 36. -/
def threshold (bias place : Nat) : Nat :=
  if place ≤ bias then 1 else min 26 (place - bias)

theorem threshold_pos (bias place : Nat) : 0 < threshold bias place := by
  unfold threshold; split <;> omega

/-- Divides by 35 until 455 is not exceeded, adding 36 each time. -/
def scaleDown (delta place : Nat) : Nat :=
  if 455 < delta then scaleDown (delta / 35) (place + 36) else place + 36 * delta / (delta + 38)
termination_by delta
decreasing_by exact Nat.div_lt_self (by omega) (by omega)

/-- The bias after a step of `delta` to a label of `length` characters. -/
def adapt (delta length : Nat) (isFirst : Bool) : Nat :=
  let delta := if isFirst then delta / 700 else delta / 2
  scaleDown (delta + delta / length) 0

/-- The bias at the beginning. -/
def firstBias : Nat := 72

/-- The number of the first character beyond ASCII. -/
def firstNumber : Nat := 0x80

end Digits

section Encoding

/-- The digits of a step. -/
def digits (bias place step : Nat) : List Char :=
  let t := threshold bias place
  if step < t then [digitChar step]
  else digitChar (t + (step - t) % (36 - t)) :: digits bias (place + 36) ((step - t) / (36 - t))
termination_by step
decreasing_by
  have := threshold_pos bias place
  calc (step - threshold bias place) / (36 - threshold bias place)
      ≤ step - threshold bias place := Nat.div_le_self _ _
    _ < step := by omega

/-- Where encoding stands. -/
structure Encoder where
  /-- Digits written so far. -/
  output : List Char := []
  /-- Steps since the last digits. -/
  delta : Nat := 0
  bias : Nat := firstBias
  /-- Characters dealt with. -/
  count : Nat

namespace Encoder

/-- Passes one place of the label while the characters numbered `n` are placed. -/
def pass (basic n : Nat) (e : Encoder) (c : Char) : Encoder :=
  if c.toNat < n then { e with delta := e.delta + 1 }
  else if c.toNat = n then
    { output := e.output ++ digits e.bias 36 e.delta
      delta := 0
      bias := adapt e.delta (e.count + 1) (e.count = basic)
      count := e.count + 1 }
  else e

/-- Places the characters with the numbers listed, after those numbered below `n`. -/
def place (basic : Nat) (label : List Char) (e : Encoder) (n : Nat) : List Nat → Encoder
  | [] => e
  | m :: more =>
    let e := { e with delta := e.delta + (m - n) * (e.count + 1) }
    let e := label.foldl (pass basic m) e
    place basic label { e with delta := e.delta + 1 } (m + 1) more

end Encoder

def encode (label : List Char) : List Char :=
  let basic := label.filter (·.toNat < firstNumber)
  let numbers := ((label.map Char.toNat).filter (firstNumber ≤ ·)).mergeSort.eraseDups
  let encoder := Encoder.place basic.length label { count := basic.length } firstNumber numbers
  (if basic.isEmpty then [] else basic ++ ['-']) ++ encoder.output

end Encoding

section Decoding

/-- Steps are kept below this. -/
def stepLimit : Nat := 0x100000000

/-- A step from `index` on whose next digit weighs `weight`, and what follows it. -/
def step? (bias : Nat) : (place weight index : Nat) → List Char → Option (Nat × List Char)
  | _, _, _, [] => none
  | place, weight, index, c :: cs => do
    let d ← digitValue? c
    let index := index + d * weight
    if stepLimit ≤ index then none
    else
      let t := threshold bias place
      if d < t then return (index, cs)
      else if stepLimit ≤ weight * (36 - t) then none
      else step? bias (place + 36) (weight * (36 - t)) index cs

theorem length_of_step? {bias place weight index next : Nat} {cs rest : List Char}
    (h : step? bias place weight index cs = some (next, rest)) : rest.length < cs.length := by
  induction cs generalizing place weight index with
  | nil => simp [step?] at h
  | cons c cs ih =>
    simp only [step?, Option.bind_eq_bind, Option.bind_eq_some_iff] at h
    obtain ⟨d, -, h⟩ := h
    split at h
    · simp at h
    · split at h
      · simp at h; simp [h.2]
      · split at h
        · simp at h
        · simpa using Nat.lt_succ_of_lt (ih h)

/-- The character with a number, if there is one. -/
def char? (n : Nat) : Option Char :=
  if n.isValidChar then some (Char.ofNat n) else none

/-- Puts the characters into a label, `n` and `index` being where the last step led. -/
def insertAll (label : List Char) (bias n index : Nat) (cs : List Char) : Option (List Char) :=
  if cs.isEmpty then some label
  else
    match _h : step? bias 36 1 index cs with
    | none => none
    | some (next, rest) =>
      let length := label.length + 1
      match char? (n + next / length) with
      | none => none
      | some c =>
        insertAll (label.take (next % length) ++ c :: label.drop (next % length))
          (adapt (next - index) length (index = 0)) (n + next / length) (next % length + 1) rest
termination_by cs.length
decreasing_by exact length_of_step? (by assumption)

/-- The label that ASCII characters stand for. A hyphen that nothing precedes is no separator. -/
def decode? (cs : List Char) : Option (List Char) :=
  let steps := (cs.reverse.takeWhile (· ≠ '-')).reverse
  let basic := cs.take (cs.length - steps.length - 1)
  if basic.isEmpty then insertAll [] firstBias firstNumber 0 cs
  else insertAll basic firstBias firstNumber 0 steps

end Decoding

end ToolAgent.Punycode
