import ToolAgent.Decimal.Nearest

/-!
# Numbers on a command line

Integers are decimal with an optional sign, singles may also have a fraction, an exponent or be
infinite. The first character at which a number goes wrong tells how.
-/

namespace ToolAgent.CommandLine

/-- Why a text is not a number of the kind that is wanted. -/
inductive NumberFault where
  | emptyInteger
  | invalidDigit
  | tooLarge
  | tooSmall
  | outside (n low high : Int)
  | emptyDecimal
  | invalidDecimal
deriving DecidableEq, Repr

def NumberFault.message : NumberFault → String
  | emptyInteger => "cannot parse integer from empty string"
  | invalidDigit => "invalid digit found in string"
  | tooLarge => "number too large to fit in target type"
  | tooSmall => "number too small to fit in target type"
  | outside n low high => s!"{n} is not in {low}..={high}"
  | emptyDecimal => "cannot parse float from empty string"
  | invalidDecimal => "invalid float literal"

def digitOf (c : Char) : Nat :=
  c.toNat - '0'.toNat

section Integer

/-- The number that digits add up to after `n`, or the fault of the first character that is no digit
or that takes the number beyond `limit`. -/
def natUpTo (limit : Nat) (beyond : NumberFault) : (n : Nat) → List Char → Except NumberFault Nat
  | n, [] => .ok n
  | n, c :: cs =>
    if !c.isDigit then .error .invalidDigit
    else if limit < 10 * n + digitOf c then .error beyond
    else natUpTo limit beyond (10 * n + digitOf c) cs

/-- A 64-bit integer. -/
def int64 (text : String) : Except NumberFault Int :=
  match text.toList with
  | [] => .error .emptyInteger
  | ['+'] | ['-'] => .error .invalidDigit
  | '-' :: cs => (natUpTo 0x8000000000000000 .tooSmall 0 cs).map fun n => -n
  | '+' :: cs | cs => (natUpTo 0x7FFFFFFFFFFFFFFF .tooLarge 0 cs).map Int.ofNat

/-- An integer between two bounds. -/
def intWithin (low high : Int) (text : String) : Except NumberFault Int := do
  let n ← int64 text
  if low ≤ n ∧ n ≤ high then return n
  else .error (.outside n low high)

def int32 (text : String) : Except NumberFault Int32 :=
  (intWithin (-0x80000000) 0x7FFFFFFF text).map Int32.ofInt

def uint32 (text : String) : Except NumberFault UInt32 :=
  (intWithin 0 0xFFFFFFFF text).map fun n => .ofNat n.toNat

end Integer

section Single

def natOfDigits (cs : List Char) : Nat :=
  cs.foldl (fun n c => 10 * n + digitOf c) 0

/-- An exponent of digits with an optional sign. -/
def exponentDigits? : List Char → Option Int
  | '-' :: cs => (unsigned? cs).map fun n => -n
  | '+' :: cs | cs => (unsigned? cs).map Int.ofNat
where
  unsigned? (cs : List Char) : Option Nat :=
    if !cs.isEmpty && cs.all Char.isDigit then some (natOfDigits cs) else none

/-- What may follow the digits: nothing, or an exponent. -/
def exponent? : List Char → Option Int
  | [] => some 0
  | c :: cs => if c = 'e' || c = 'E' then exponentDigits? cs else none

/-- A decimal without a sign. The point may stand first or last, but not alone. -/
def decimal? (cs : List Char) : Option Decimal :=
  let whole := cs.takeWhile Char.isDigit
  let rest := cs.dropWhile Char.isDigit
  let (fraction, rest) :=
    match rest with
    | '.' :: rest => (rest.takeWhile Char.isDigit, rest.dropWhile Char.isDigit)
    | rest => ([], rest)
  if whole.isEmpty && fraction.isEmpty then none
  else (exponent? rest).map fun e => ⟨natOfDigits (whole ++ fraction), e - fraction.length⟩

/-- A number without a sign; the names of those that are not finite may be in any case. -/
def magnitude? (cs : List Char) : Option Float32 :=
  match String.ofList (cs.map Char.toLower) with
  | "inf" | "infinity" => some (.ofBits 0x7F800000)
  | "nan" => some (.ofBits 0x7FC00000)
  | _ => (decimal? cs).map Decimal.toSingle

def single (text : String) : Except NumberFault Float32 :=
  let number? := match text.toList with
    | '-' :: cs => (magnitude? cs).map (-·)
    | '+' :: cs | cs => magnitude? cs
  if text = "" then .error .emptyDecimal
  else number?.elim (.error .invalidDecimal) .ok

end Single

end ToolAgent.CommandLine
