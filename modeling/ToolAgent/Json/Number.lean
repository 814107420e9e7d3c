import ToolAgent.Decimal.Shortest

/-!
# Numbers of a JSON text

Integers keep their value when 64 bits hold it; every other number is a finite double. The text of a
double has the fewest digits that read back.
-/

namespace ToolAgent

inductive Number where
  | int (value : Int) (inRange : -0x8000000000000000 ≤ value ∧ value ≤ 0xFFFFFFFFFFFFFFFF)
  | float (value : Float) (isFinite : value.isFinite = true)
deriving DecidableEq

namespace Number

def ofInt? (n : Int) : Option Number :=
  if h : -0x8000000000000000 ≤ n ∧ n ≤ 0xFFFFFFFFFFFFFFFF then some (.int n h) else none

def ofFloat? (x : Float) : Option Number :=
  if h : x.isFinite = true then some (.float x h) else none

/-- The value as an unsigned 64-bit integer. -/
def toNat? : Number → Option Nat
  | .int n _ => if 0 ≤ n then some n.toNat else none
  | .float .. => none

/-- The value as a signed 64-bit integer. -/
def toInt64? : Number → Option Int
  | .int n _ => if n ≤ 0x7FFFFFFFFFFFFFFF then some n else none
  | .float .. => none

def isNegative (x : Float) : Bool :=
  x.toBits >>> 63 = 1

/-- Positional from 10⁻⁵ up to 10¹⁶, with at least one digit after the point; outside that range one
digit before the point and a signed exponent. -/
def layout (digits : List Char) (exponent : Int) : List Char :=
  let point := digits.length + exponent
  if 16 < point ∨ point < -4 then
    let fraction := digits.drop 1
    let power := point - 1
    digits.take 1 ++ (if fraction.isEmpty then [] else '.' :: fraction) ++
      'e' :: (if power < 0 then '-' else '+') :: Nat.toDigits 10 power.natAbs
  else if 0 ≤ exponent then
    digits ++ List.replicate exponent.toNat '0' ++ ['.', '0']
  else if 0 < point then
    digits.take point.toNat ++ '.' :: digits.drop point.toNat
  else
    '0' :: '.' :: List.replicate (-point).toNat '0' ++ digits

def printFloat (x : Float) : List Char :=
  let magnitude := Double.ofBits x.toBits
  let text :=
    if magnitude.mantissa = 0 then ['0', '.', '0']
    else layout (Nat.toDigits 10 magnitude.shortest.digits) magnitude.shortest.exponent
  if isNegative x then '-' :: text else text

def printInt : Int → List Char
  | .ofNat n => Nat.toDigits 10 n
  | .negSucc n => '-' :: Nat.toDigits 10 (n + 1)

def print : Number → List Char
  | .int n _ => printInt n
  | .float x _ => printFloat x

end Number

end ToolAgent
