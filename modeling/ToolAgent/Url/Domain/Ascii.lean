import ToolAgent.Text.Composed
import ToolAgent.Url.Domain.Direction
import ToolAgent.Url.Domain.Joining
import ToolAgent.Url.Domain.Mapping
import ToolAgent.Url.Punycode

/-!
# Domain names in ASCII

A domain name may be written with any letters. For the network it is put in ASCII: in one spelling
of its characters, label by label, and those labels in Punycode that need it.
-/

namespace ToolAgent.Domain

open Text

section Label

/-- Characters beside controls that no domain name may hold. -/
def forbidden : List Char :=
  [' ', '#', '%', '/', ':', '<', '>', '?', '@', '[', '\\', ']', '^', '|', '\x7f']

def isForbidden (c : Char) : Bool :=
  c.toNat < 0x20 || forbidden.contains c

def isAscii (cs : List Char) : Bool :=
  cs.all (·.toNat < 0x80)

/-- The most characters of a label that is put in Punycode. -/
def encodedLimit : Nat := 1000

/-- The longest Punycode that is read. -/
def decodedLimit : Nat := 2000

/-- Characters in the one spelling that names have. -/
def normalized? (cs : List Char) : Option (List Char) :=
  (respelled? cs).map composed

/-- Whether a label, in its letters, may be part of a name. -/
def isValid (label : List Char) : Bool :=
  !label.any isForbidden && !label.head?.any isMark && joinersFit [] label &&
    !Punycode.mark.isPrefixOf label

/-- The letters of a label in Punycode. They have to be in the spelling of names already. -/
def decodedLabel? (code : List Char) : Option (List Char) := do
  if code.isEmpty || code.getLast? = some '-' || decodedLimit < code.length then none
  else
    let label ← Punycode.decode? code
    if normalized? label = some label && !label.contains '.' then return label else none

/-- A label in its letters. -/
def letters? (label : List Char) : Option (List Char) :=
  if Punycode.mark.isPrefixOf label then decodedLabel? (label.drop Punycode.mark.length)
  else some label

/-- A label in ASCII. -/
def asciiLabel? (label : List Char) : Option (List Char) :=
  if isAscii label then some label
  else if encodedLimit < label.length then none
  else some (Punycode.mark ++ Punycode.encode label)

end Label

/-- The labels between dots. -/
def labels : List Char → List (List Char)
  | [] => [[]]
  | c :: cs =>
    if c = '.' then [] :: labels cs
    else
      match labels cs with
      | [] => [[c]]
      | label :: rest => (c :: label) :: rest

/-- A name in ASCII, if it is one. -/
def toAscii? (name : List Char) : Option (List Char) := do
  let labels := labels (← normalized? name)
  let letters ← labels.mapM letters?
  let isRightToLeft := letters.any (·.any (Direction.of · |>.isRightToLeft))
  if !letters.all isValid || (isRightToLeft && !letters.all keepsDirection) then none
  else return ['.'].intercalate (← labels.mapM asciiLabel?)

end ToolAgent.Domain
