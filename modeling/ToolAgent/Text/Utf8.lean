/-!
# UTF-8

Characters to bytes, and bytes to characters in two ways: `decode?` refuses ill-formed bytes, and
`decodeLossy` puts U+FFFD for each of their maximal ill-formed stretches. Both read the bytes with
one scanner, `scan`, which never looks past the byte at which a character is ruled out.
-/

namespace ToolAgent

/-- A text as bytes arrive from outside: not known to be UTF-8. -/
abbrev Bytes := List UInt8

namespace Utf8

def encode (cs : List Char) : Bytes :=
  cs.flatMap String.utf8EncodeChar

@[simp] theorem encode_nil : encode [] = [] := rfl

@[simp] theorem encode_cons (c : Char) (cs : List Char) :
    encode (c :: cs) = String.utf8EncodeChar c ++ encode cs := rfl

@[simp] theorem encode_append (cs ds : List Char) : encode (cs ++ ds) = encode cs ++ encode ds :=
  List.flatMap_append

/-- A character that has begun: its bytes so far and the bits they carry, the range its next byte
must lie in, and how many bytes follow that one. -/
structure Partial where
  held : Bytes
  bits : Nat
  low : UInt8 := 0x80
  high : UInt8 := 0xBF
  after : Nat
deriving DecidableEq, Repr

/-- A stretch of scanned bytes: a character, or bytes that belong to none. -/
inductive Piece where
  | char (c : Char)
  | illFormed (bytes : Bytes)
deriving DecidableEq, Repr

/-- What the first byte of a character tells. -/
inductive Lead where
  | whole (c : Char)
  | begun (p : Partial)
  | illFormed

def lead (b : UInt8) : Lead :=
  let n := b.toNat
  if n < 0x80 then .whole (Char.ofNat n)
  else if n < 0xC2 then .illFormed
  else if n < 0xE0 then .begun { held := [b], bits := n - 0xC0, after := 0 }
  else if n = 0xE0 then .begun { held := [b], bits := 0, low := 0xA0, after := 1 }
  else if n = 0xED then .begun { held := [b], bits := 0xD, high := 0x9F, after := 1 }
  else if n < 0xF0 then .begun { held := [b], bits := n - 0xE0, after := 1 }
  else if n = 0xF0 then .begun { held := [b], bits := 0, low := 0x90, after := 2 }
  else if n < 0xF4 then .begun { held := [b], bits := n - 0xF0, after := 2 }
  else if n = 0xF4 then .begun { held := [b], bits := 4, high := 0x8F, after := 2 }
  else .illFormed

namespace Partial

def accepts (p : Partial) (b : UInt8) : Bool :=
  p.low ≤ b && b ≤ p.high

/-- The bits after a continuation byte. -/
def add (p : Partial) (b : UInt8) : Nat :=
  p.bits * 64 + (b.toNat - 0x80)

end Partial

/-- The pieces of a byte sequence in order, ill-formed ones as long as a character could have gone
on. The first argument is the character in progress. -/
def scan : Option Partial → Bytes → List Piece
  | none, [] => []
  | some p, [] => [.illFormed p.held]
  | none, b :: bs =>
    match lead b with
    | .whole c => .char c :: scan none bs
    | .begun p => scan (some p) bs
    | .illFormed => .illFormed [b] :: scan none bs
  | some p, b :: bs =>
    if p.accepts b then
      match p.after with
      | 0 => .char (Char.ofNat (p.add b)) :: scan none bs
      | n + 1 => scan (some { held := p.held ++ [b], bits := p.add b, after := n }) bs
    else
      match lead b with
      | .whole c => .illFormed p.held :: .char c :: scan none bs
      | .begun q => .illFormed p.held :: scan (some q) bs
      | .illFormed => .illFormed p.held :: .illFormed [b] :: scan none bs

def Piece.char? : Piece → Option Char
  | .char c => some c
  | .illFormed _ => none

/-- The characters of well-formed bytes. -/
def decode? (bs : Bytes) : Option (List Char) :=
  (scan none bs).mapM Piece.char?

/-- The characters of any bytes, U+FFFD standing for what is ill-formed. -/
def decodeLossy (bs : Bytes) : List Char :=
  (scan none bs).map fun piece => piece.char?.getD '\uFFFD'

end Utf8

namespace Bytes

def lineFeed : UInt8 := 0x0A

/-- The lines between line feeds. -/
def lines : Bytes → List Bytes
  | [] => [[]]
  | b :: bs =>
    if b = lineFeed then [] :: lines bs
    else
      match lines bs with
      | [] => [[b]]
      | line :: rest => (b :: line) :: rest

/-- The bytes of a string. -/
def ofString (s : String) : Bytes :=
  Utf8.encode s.toList

def toStringLossy (bs : Bytes) : String :=
  String.ofList (Utf8.decodeLossy bs)

def toString? (bs : Bytes) : Option String :=
  (Utf8.decode? bs).map String.ofList

end Bytes

end ToolAgent
