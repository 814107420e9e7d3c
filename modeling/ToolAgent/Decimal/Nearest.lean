import ToolAgent.Decimal.Shortest

/-!
# The single nearest to a decimal

Rounding is in exact integer arithmetic. A tie goes to the even neighbour, and what is beyond the
range becomes infinite.
-/

namespace ToolAgent.Decimal

/-- The integer nearest to a quotient, the even one of two. -/
def roundDiv (num den : Nat) : Nat :=
  match compare (2 * (num % den)) den with
  | .lt => num / den
  | .gt => num / den + 1
  | .eq => if num / den % 2 = 0 then num / den else num / den + 1

/-- The power of two at or below a positive quotient. -/
def log2Div (num den : Nat) : Int :=
  let guess : Int := num.log2 - den.log2
  if den * Nat.pow 2 guess.toNat ≤ num * Nat.pow 2 (-guess).toNat then guess else guess - 1

/-- The bits of the single nearest to a positive quotient. Its unit is the power of two that leaves
24 bits, but none below the least single. -/
def singleBits (num den : Nat) : Nat :=
  let unit := max (log2Div num den - 23) (-149)
  let significand := roundDiv (num * Nat.pow 2 (-unit).toNat) (den * Nat.pow 2 unit.toNat)
  min (significand + (unit + 149).toNat * 0x800000) 0x7F800000

/-- Far outside the range of singles, the decimal is not looked at digit by digit. -/
def toSingle (d : Decimal) : Float32 :=
  let places : Int := d.exponent + (Nat.toDigits 10 d.digits).length
  .ofBits <| .ofNat <|
    if d.digits = 0 || places < -60 then 0
    else if 60 < places then 0x7F800000
    else singleBits (d.digits * Nat.pow 10 d.exponent.toNat) (Nat.pow 10 (-d.exponent).toNat)

end ToolAgent.Decimal
