import ToolAgent.Text.CombiningClass
import ToolAgent.Text.Decomposition

/-!
# Composed form

The form of a text in which equivalent spellings are one: characters are taken apart, their marks
put in order, and what can be written as one character is written so (Normalization Form C).
-/

namespace ToolAgent.Text

section Hangul

/-! A Korean syllable is composed of an initial, a vowel and perhaps a final letter, by its
number. -/

def firstSyllable : Nat := 0xAC00

def firstInitial : Nat := 0x1100

def firstVowel : Nat := 0x1161

/-- The number before the first final letter. -/
def noFinal : Nat := 0x11A7

def isSyllable (n : Nat) : Bool :=
  firstSyllable ≤ n && n < firstSyllable + 19 * 21 * 28

/-- The letters of a syllable. -/
def letters? (n : Nat) : Option (List Nat) :=
  if isSyllable n then
    let k := n - firstSyllable
    let final := if k % 28 = 0 then [] else [noFinal + k % 28]
    some ([firstInitial + k / 588, firstVowel + k % 588 / 28] ++ final)
  else none

/-- The syllable of an initial letter and a vowel, or of a syllable without a final letter and
one. -/
def syllable? (n m : Nat) : Option Nat :=
  if firstInitial ≤ n && n < firstInitial + 19 && firstVowel ≤ m && m < firstVowel + 21 then
    some (firstSyllable + ((n - firstInitial) * 21 + (m - firstVowel)) * 28)
  else if isSyllable n && (n - firstSyllable) % 28 = 0 && noFinal < m && m < noFinal + 28 then
    some (n + (m - noFinal))
  else none

end Hangul

/-- The characters that one is equivalent to, as far as one step goes. -/
def parts? (c : Char) : Option (List Char) :=
  ((letters? c.toNat).map (·.map Char.ofNat)).or <|
    (ReplacementRule.find? compositions c).or (ReplacementRule.find? otherDecompositions c)

/-- Takes a character apart in at most so many steps. -/
def takeApart : (steps : Nat) → Char → List Char
  | 0, c => [c]
  | steps + 1, c =>
    match parts? c with
    | some parts => parts.flatMap (takeApart steps)
    | none => [c]

/-- No character takes more than three steps. -/
def decomposed (cs : List Char) : List Char :=
  cs.flatMap (takeApart 3)

/-- Puts a mark before the marks of its class and above that a text begins with. -/
def insertMark (c : Char) : List Char → List Char
  | [] => [c]
  | d :: ds =>
    if combiningClass d = 0 || combiningClass c ≤ combiningClass d then c :: d :: ds
    else d :: insertMark c ds

/-- Puts the marks on each character in the order of their classes. -/
def ordered : List Char → List Char
  | [] => []
  | c :: cs => if combiningClass c = 0 then c :: ordered cs else insertMark c (ordered cs)

/-- The one character for a pair of them. -/
def composite? (c d : Char) : Option Char :=
  ((syllable? c.toNat d.toNat).orElse fun _ =>
    (compositions.find? (·.replacement = .same [c.toNat, d.toNat])).map (·.first)).map Char.ofNat

/-- Composes what follows the character `base` with it, `held` being what stands between. A mark
reaches the base past marks of lower classes only, and any other character only if it stands beside
it. -/
def composeOnto (base : Char) (held : List Char) : List Char → List Char
  | [] => base :: held
  | c :: cs =>
    let reaches := held.getLast?.all fun d => combiningClass d < combiningClass c
    match if reaches then composite? base c else none with
    | some composite => composeOnto composite held cs
    | none =>
      if combiningClass c = 0 then base :: held ++ composeOnto c [] cs
      else composeOnto base (held ++ [c]) cs

/-- Marks that stand on nothing are left alone. -/
def recomposed : List Char → List Char
  | [] => []
  | c :: cs => if combiningClass c = 0 then composeOnto c [] cs else c :: recomposed cs

def composed (cs : List Char) : List Char :=
  recomposed (ordered (decomposed cs))

end ToolAgent.Text
