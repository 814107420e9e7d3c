/-!
# Network addresses

Addresses of four bytes, in decimal, octal or hexadecimal numbers between dots, and of eight pairs
of bytes, in hexadecimal between colons. Each is written in one way only.
-/

namespace ToolAgent

/-- The parts between the characters that `isSplit` holds of. -/
def splitAt (isSplit : Char → Bool) : List Char → List (List Char)
  | [] => [[]]
  | c :: cs =>
    if isSplit c then [] :: splitAt isSplit cs
    else
      match splitAt isSplit cs with
      | [] => [[c]]
      | part :: parts => (c :: part) :: parts

def hexDigit? (c : Char) : Option Nat :=
  if c.isDigit then some (c.toNat - '0'.toNat)
  else if 'a' ≤ c && c ≤ 'f' then some (c.toNat - 'a'.toNat + 10)
  else if 'A' ≤ c && c ≤ 'F' then some (c.toNat - 'A'.toNat + 10)
  else none

/-- The number that digits below `base` make up. -/
def numberIn? (base : Nat) (digits : List Char) : Option Nat :=
  digits.foldlM (fun n c => do
    let d ← hexDigit? c
    if d < base then return base * n + d else none) 0

/-- An address of four bytes. -/
structure Ipv4 where
  value : UInt32
deriving DecidableEq, Repr

namespace Ipv4

/-- A number of an address: hexadecimal after `0x`, octal after another zero, else decimal. -/
def number? : List Char → Option Nat
  | [] => none
  | '0' :: 'x' :: digits | '0' :: 'X' :: digits => numberIn? 16 digits
  | '0' :: d :: digits => numberIn? 8 (d :: digits)
  | digits => numberIn? 10 digits

/-- The parts of a host between dots, a dot at the end aside. -/
def parts (host : List Char) : List (List Char) :=
  let parts := splitAt (· = '.') host
  if parts.getLast? = some [] then parts.dropLast else parts

/-- Whether a host has to be an address, because its last part is a number. -/
def isMeant (host : List Char) : Bool :=
  (parts host).getLast?.any fun last =>
    (!last.isEmpty && last.all Char.isDigit) || (number? last).isSome

/-- The value of numbers of which the last fills all bytes that the others leave. -/
def ofNumbers? : (bytes : Nat) → List Nat → Option Nat
  | _, [] => none
  | bytes, [last] => if last < Nat.pow 256 bytes then some last else none
  | bytes, n :: rest => do
    let tail ← ofNumbers? (bytes - 1) rest
    if n < 256 then return n * Nat.pow 256 (bytes - 1) + tail else none

def parse? (host : List Char) : Option Ipv4 := do
  let parts := parts host
  if 4 < parts.length then none
  else
    let value ← ofNumbers? 4 (← parts.mapM number?)
    return ⟨.ofNat value⟩

def text (a : Ipv4) : String :=
  let byte (shift : UInt32) : String := toString ((a.value >>> shift) &&& 0xFF).toNat
  ".".intercalate [byte 24, byte 16, byte 8, byte 0]

end Ipv4

/-- An address of eight pairs of bytes. -/
structure Ipv6 where
  pairs : List UInt16
  length_pairs : pairs.length = 8
deriving DecidableEq

namespace Ipv6

def ofPairs? (pairs : List UInt16) : Option Ipv6 :=
  if h : pairs.length = 8 then some ⟨pairs, h⟩ else none

section Reading

/-- A byte in decimal, without needless zeros. -/
def byte? (digits : List Char) : Option Nat :=
  match digits with
  | [] => none
  | '0' :: _ :: _ => none
  | digits =>
    match numberIn? 10 digits with
    | some n => if n < 256 then some n else none
    | none => none

/-- Two pairs of bytes, written as four bytes between dots. -/
def dotted? (cs : List Char) : Option (List UInt16) := do
  match ← (splitAt (· = '.') cs).mapM byte? with
  | [a, b, c, d] => return [.ofNat (256 * a + b), .ofNat (256 * c + d)]
  | _ => none

/-- A pair of bytes, in up to four hexadecimal digits. -/
def pair? (cs : List Char) : Option UInt16 :=
  if cs.isEmpty || 4 < cs.length then none else (numberIn? 16 cs).map .ofNat

/-- The pairs between colons. At the end of an address the last two may be written as four bytes. -/
def pairs? (atEnd : Bool) (cs : List Char) : Option (List UInt16) :=
  if cs.isEmpty then some []
  else go (splitAt (· = ':') cs)
where
  go : List (List Char) → Option (List UInt16)
    | [] => some []
    | [last] => ((pair? last).map ([·])).or (if atEnd then dotted? last else none)
    | part :: parts => do return (← pair? part) :: (← go parts)

/-- What stands before and after the first two colons in a row. -/
def splitGap? : List Char → Option (List Char × List Char)
  | [] => none
  | ':' :: ':' :: rest => some ([], rest)
  | c :: cs => (splitGap? cs).map fun (before, after) => (c :: before, after)

/-- Two colons stand for the zeros that are missing, which are at least one pair. -/
def parse? (cs : List Char) : Option Ipv6 := do
  match splitGap? cs with
  | none => ofPairs? (← pairs? true cs)
  | some (before, after) =>
    let before ← pairs? false before
    let after ← pairs? true after
    if before.length + after.length < 8 then
      ofPairs? (before ++ List.replicate (8 - before.length - after.length) 0 ++ after)
    else none

end Reading

section Writing

/-- The number of zeros that a list begins with. -/
def zeros (pairs : List UInt16) : Nat :=
  (pairs.takeWhile (· = 0)).length

/-- Where the first of the longest runs of zeros begins, and its length. -/
def longestZeros (start : Nat) : List UInt16 → Nat × Nat
  | [] => (start, 0)
  | pair :: pairs =>
    let here := zeros (pair :: pairs)
    let later := longestZeros (start + 1) pairs
    if later.2 ≤ here then (start, here) else later

def written (pairs : List UInt16) : String :=
  ":".intercalate (pairs.map fun p => String.ofList (Nat.toDigits 16 p.toNat))

/-- The first of the longest runs of zeros is left out, unless it is a single one. -/
def text (a : Ipv6) : String :=
  let (start, length) := longestZeros 0 a.pairs
  if length < 2 then written a.pairs
  else written (a.pairs.take start) ++ "::" ++ written (a.pairs.drop (start + length))

end Writing

end Ipv6

end ToolAgent
