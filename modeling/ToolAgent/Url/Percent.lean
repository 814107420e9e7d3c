import ToolAgent.Text.Utf8

/-!
# Percent-encoding

A byte may be written as a percent sign and two hexadecimal digits. Which characters have to be
written so depends on the part of a URL they stand in.
-/

namespace ToolAgent.Percent

section Encoding

def hexUpper (n : Nat) : Char :=
  Char.ofNat (if n < 10 then 48 + n else 55 + n)

def encodedByte (b : UInt8) : List Char :=
  ['%', hexUpper (b.toNat / 16), hexUpper (b.toNat % 16)]

/-- Encodes controls, characters beyond ASCII, and those in `also`. -/
def encode (also : List Char) (cs : List Char) : List Char :=
  cs.flatMap fun c =>
    if c.toNat < 0x20 || 0x7E < c.toNat || also.contains c then
      (String.utf8EncodeChar c).flatMap encodedByte
    else [c]

/-- Encoded in a fragment, beside what always is. -/
def inFragment : List Char := [' ', '"', '<', '>', '\x60']

def inQuery : List Char := [' ', '"', '#', '<', '>']

def inPath : List Char := inFragment ++ ['#', '?', '\x7b', '\x7d']

def inUserinfo : List Char := inPath ++ ['/', ':', ';', '=', '@', '[', '\\', ']', '^', '|']

end Encoding

section Decoding

def hexValue? (b : UInt8) : Option Nat :=
  let n := b.toNat
  if 0x30 ≤ n && n ≤ 0x39 then some (n - 0x30)
  else if 0x41 ≤ n && n ≤ 0x46 then some (n - 0x37)
  else if 0x61 ≤ n && n ≤ 0x66 then some (n - 0x57)
  else none

/-- The byte that a percent sign and two digits stand for. -/
def escaped? (b high low : UInt8) : Option UInt8 := do
  let h ← hexValue? high
  let l ← hexValue? low
  if b = 0x25 then return .ofNat (16 * h + l) else none

/-- A percent sign without two digits after it stands for itself. -/
def decode : Bytes → Bytes
  | [] => []
  | b :: high :: low :: rest =>
    match escaped? b high low with
    | some c => c :: decode rest
    | none => b :: decode (high :: low :: rest)
  | b :: bs => b :: decode bs

end Decoding

end ToolAgent.Percent
