/-!
# Replacement of characters

Rules that put other characters in place of one, and the compact form in which long lists of them
are written. A rule is a range of character numbers and what becomes of them, all numbers in
hexadecimal:

* `132-133:69.6A` puts the same characters, or none, in place of each;
* `41-5A>61` moves the range, its first character to the number given;
* `100-12E/101` moves every second character of the range likewise.
-/

namespace ToolAgent.Text

/-- What becomes of the characters of a range. -/
inductive Replacement where
  | same (targets : List Nat)
  | moved (start : Nat)
  | movedAlternately (start : Nat)
deriving DecidableEq, Repr

/-- What stands in place of the character `offset` places after the first of the range. -/
def Replacement.at? (offset : Nat) : Replacement → Option (List Nat)
  | same targets => some targets
  | moved start => some [start + offset]
  | movedAlternately start => if offset % 2 = 0 then some [start + offset] else none

/-- Replaces the characters numbered from `first` to `last`. -/
structure ReplacementRule where
  first : Nat
  last : Nat
  replacement : Replacement
deriving DecidableEq, Repr

namespace ReplacementRule

def targets? (rule : ReplacementRule) (n : Nat) : Option (List Nat) :=
  if rule.first ≤ n && n ≤ rule.last then rule.replacement.at? (n - rule.first) else none

/-- What stands in place of a character by the first rule for it. The rules are in the order of
their first characters. -/
def find? : List ReplacementRule → Char → Option (List Char)
  | [], _ => none
  | rule :: rules, c =>
    if c.toNat < rule.first then none
    else
      match rule.targets? c.toNat with
      | some targets => some (targets.map Char.ofNat)
      | none => find? rules c

section Written

/-- The words of a text, between blanks and line feeds. -/
def words (text : String) : List String :=
  ((text.splitOn "\n").flatMap (·.splitOn " ")).filter (· ≠ "")

def digitOf (c : Char) : Nat :=
  if c.isDigit then c.toNat - '0'.toNat else c.toNat - 'A'.toNat + 10

def number (digits : List Char) : Nat :=
  digits.foldl (fun n c => 16 * n + digitOf c) 0

/-- The numbers between points. -/
def numbers (text : String) : List Nat :=
  if text = "" then [] else (text.splitOn ".").map (number ·.toList)

def isMark (c : Char) : Bool :=
  c = ':' || c = '>' || c = '/'

def replacementOf : List Char → Replacement
  | '>' :: cs => .moved (number cs)
  | '/' :: cs => .movedAlternately (number cs)
  | cs => .same (numbers (String.ofList (cs.drop 1)))

def ofWord (word : List Char) : ReplacementRule :=
  let range := word.takeWhile (!isMark ·)
  let first := range.takeWhile (· ≠ '-')
  let last := (range.dropWhile (· ≠ '-')).drop 1
  { first := number first
    last := number (if last.isEmpty then first else last)
    replacement := replacementOf (word.dropWhile (!isMark ·)) }

/-- The rules that a text lists. -/
def listOf (text : String) : List ReplacementRule :=
  (words text).map fun word => ofWord word.toList

end Written

end ReplacementRule

end ToolAgent.Text
