import ToolAgent.Json.Basic

/-!
# Text of a JSON value

The compact form: no blanks, members in the order of the tree, and strings escaped only where the
grammar asks for it, so that a text never holds a raw line feed.
-/

namespace ToolAgent.Json

def hexDigit (n : Nat) : Char :=
  Char.ofNat (if n < 10 then 48 + n else 87 + n)

/-- One character of a string. Control characters without a letter of their own are below 0x20. -/
def escapeChar (c : Char) : List Char :=
  match c with
  | '"' => ['\\', '"']
  | '\\' => ['\\', '\\']
  | '\x08' => ['\\', 'b']
  | '\x0c' => ['\\', 'f']
  | '\n' => ['\\', 'n']
  | '\r' => ['\\', 'r']
  | '\t' => ['\\', 't']
  | c =>
    if c.toNat < 0x20 then ['\\', 'u', '0', '0', hexDigit (c.toNat / 16), hexDigit (c.toNat % 16)]
    else [c]

def printString (s : String) : List Char :=
  '"' :: s.toList.flatMap escapeChar ++ ['"']

mutual

def print : Json → List Char
  | null => ['n', 'u', 'l', 'l']
  | bool true => ['t', 'r', 'u', 'e']
  | bool false => ['f', 'a', 'l', 's', 'e']
  | num n => n.print
  | str s => printString s
  | arr [] => ['[', ']']
  | arr (v :: rest) => '[' :: print v ++ printItems rest
  | obj [] => ['\x7b', '\x7d']
  | obj ((k, v) :: rest) => '\x7b' :: printString k ++ ':' :: print v ++ printMembers rest

/-- The elements after the first, with the closing bracket. -/
def printItems : List Json → List Char
  | [] => [']']
  | v :: rest => ',' :: print v ++ printItems rest

/-- The members after the first, with the closing brace. -/
def printMembers : List (String × Json) → List Char
  | [] => ['\x7d']
  | (k, v) :: rest => ',' :: printString k ++ ':' :: print v ++ printMembers rest

end

def toText (value : Json) : String :=
  String.ofList value.print

instance : ToString Json := ⟨toText⟩

end ToolAgent.Json
