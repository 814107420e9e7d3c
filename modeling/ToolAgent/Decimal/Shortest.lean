/-!
# The shortest decimal of a double

Of the decimals that read back as a given double, `Double.shortest` takes one on the coarsest power
of ten and of these the nearest. The search is in exact integer arithmetic.
-/

namespace ToolAgent

/-- A finite double without its sign, `mantissa * 2 ^ exponent`. -/
structure Double where
  mantissa : Nat
  exponent : Int
  /-- The gap to the double below is half the gap to the one above. -/
  narrowBelow : Bool
deriving DecidableEq, Repr

/-- The decimal `digits * 10 ^ exponent`. -/
structure Decimal where
  digits : Nat
  exponent : Int
deriving DecidableEq, Repr

namespace Double

/-- The magnitude behind the bits of a finite double. -/
def ofBits (bits : UInt64) : Double :=
  let biased := ((bits >>> 52) &&& 0x7FF).toNat
  let fraction := (bits &&& 0xFFFFFFFFFFFFF).toNat
  if biased = 0 then ⟨fraction, -1074, false⟩
  else ⟨0x10000000000000 + fraction, biased - 1075, fraction = 0 && 1 < biased⟩

/-- Compares `a * 10 ^ i` with `b * 2 ^ j`. -/
def compareScaled (a : Nat) (i : Int) (b : Nat) (j : Int) : Ordering :=
  compare (a * Nat.pow 10 i.toNat * Nat.pow 2 (-j).toNat)
    (b * Nat.pow 2 j.toNat * Nat.pow 10 (-i).toNat)

/-- The decimal rounds to this double: it lies between the midpoints to the two neighbours, which
themselves count when the mantissa is even. -/
def readsBack (x : Double) (d : Decimal) : Bool :=
  let low := if x.narrowBelow then 4 * x.mantissa - 1 else 4 * x.mantissa - 2
  let high := 4 * x.mantissa + 2
  let even := x.mantissa % 2 = 0
  let atLow := compareScaled d.digits d.exponent low (x.exponent - 2)
  let atHigh := compareScaled d.digits d.exponent high (x.exponent - 2)
  (atLow = .gt || (even && atLow = .eq)) && (atHigh = .lt || (even && atHigh = .eq))

/-- The nearest decimal to `x` on the grid `10 ^ exponent`, if one there reads back. -/
def onGrid? (x : Double) (exponent : Int) : Option Decimal :=
  let num := x.mantissa * Nat.pow 2 x.exponent.toNat * Nat.pow 10 (-exponent).toNat
  let den := Nat.pow 2 (-x.exponent).toNat * Nat.pow 10 exponent.toNat
  let below : Decimal := ⟨num / den, exponent⟩
  let above : Decimal := ⟨num / den + 1, exponent⟩
  match x.readsBack below, x.readsBack above with
  | true, true =>
    match compare (2 * num) ((2 * below.digits + 1) * den) with
    | .lt => some below
    | .gt => some above
    | .eq => some (if below.digits % 2 = 0 then below else above)
  | true, false => some below
  | false, true => some above
  | false, false => none

/-- A power of ten above `x`, at most a factor of a hundred above. -/
def scale (x : Double) : Int :=
  let num := x.mantissa * Nat.pow 2 x.exponent.toNat
  let den := Nat.pow 2 (-x.exponent).toNat
  if den ≤ num then (Nat.toDigits 10 (num / den)).length
  else 2 - (Nat.toDigits 10 (den / num)).length

/-- The first of `steps` grids, from `exponent` down, with a decimal that reads back. -/
def search (x : Double) : Nat → Int → Option Decimal
  | 0, _ => none
  | steps + 1, exponent => (x.onGrid? exponent).or (x.search steps (exponent - 1))

/-- The value of `x` with all its digits. -/
def exactly (x : Double) : Decimal :=
  if x.exponent < 0 then ⟨x.mantissa * Nat.pow 5 (-x.exponent).toNat, x.exponent⟩
  else ⟨x.mantissa * Nat.pow 2 x.exponent.toNat, 0⟩

/-- Seventeen digits always suffice. -/
def shortest (x : Double) : Decimal :=
  (x.search 20 x.scale).getD x.exactly

end Double

end ToolAgent
