import ToolAgent.Json.Fault

/-!
# Lexemes of a JSON text

Blanks, the literals, strings and numbers, each read from the front of some bytes.
-/

namespace ToolAgent.Json

/-- The byte of an ASCII character. -/
abbrev ascii (c : Char) : UInt8 := c.toUInt8

def isSpace (b : UInt8) : Bool :=
  b = 0x20 || b = 0x09 || b = 0x0A || b = 0x0D

def skipSpace (bs : Bytes) : Bytes :=
  bs.dropWhile isSpace

/-- The rest of a literal whose first letter has been read. -/
def ident : List Char → Bytes → Except Stop Bytes
  | [], bs => .ok bs
  | _ :: _, [] => .error (.fault .endInValue [])
  | c :: cs, b :: bs => if b = ascii c then ident cs bs else .error (.fault .expectedIdent bs)

section Strings

def hexValue (b : UInt8) : Option Nat :=
  if 0x30 ≤ b && b ≤ 0x39 then some (b.toNat - 0x30)
  else if 0x61 ≤ b && b ≤ 0x66 then some (b.toNat - 0x57)
  else if 0x41 ≤ b && b ≤ 0x46 then some (b.toNat - 0x37)
  else none

def hexQuad (a b c d : UInt8) : Option Nat := do
  return (((← hexValue a) * 16 + (← hexValue b)) * 16 + (← hexValue c)) * 16 + (← hexValue d)

/-- The character that a one-letter escape stands for. -/
def letterEscape (b : UInt8) : Option UInt8 :=
  if b = ascii '"' || b = ascii '\\' || b = ascii '/' then some b
  else if b = ascii 'b' then some 0x08
  else if b = ascii 'f' then some 0x0C
  else if b = ascii 'n' then some 0x0A
  else if b = ascii 'r' then some 0x0D
  else if b = ascii 't' then some 0x09
  else none

def isHighSurrogate (n : Nat) : Bool := 0xD800 ≤ n && n ≤ 0xDBFF

def isLowSurrogate (n : Nat) : Bool := 0xDC00 ≤ n && n ≤ 0xDFFF

def joinSurrogates (high low : Nat) : Nat :=
  (high - 0xD800) * 0x400 + (low - 0xDC00) + 0x10000

def encodeNat (n : Nat) : Bytes :=
  String.utf8EncodeChar (Char.ofNat n)

/-- The bytes of a string up to its closing quote, with the quote still unread and escapes resolved.
A surrogate is an escape only together with its partner. -/
def stringBytes : Reader Bytes
  | [] => .error (.fault .endInString [])
  | b :: rest =>
    if b = ascii '"' then .ok ([], b :: rest)
    else if b = ascii '\\' then
      match rest with
      | [] => .error (.fault .endInString [])
      | e :: rest =>
        match letterEscape e with
        | some c => prepend [c] (stringBytes rest)
        | none =>
          if e = ascii 'u' then
            match rest with
            | h₁ :: h₂ :: h₃ :: h₄ :: rest =>
              match hexQuad h₁ h₂ h₃ h₄ with
              | none => .error (.fault .invalidEscape rest)
              | some n =>
                if isLowSurrogate n then .error (.fault .loneSurrogate rest)
                else if isHighSurrogate n then
                  match rest with
                  | [] => .error (.fault .endInString [])
                  | s :: rest =>
                    if s = ascii '\\' then
                      match rest with
                      | [] => .error (.fault .endInString [])
                      | u :: rest =>
                        if u = ascii 'u' then
                          match rest with
                          | l₁ :: l₂ :: l₃ :: l₄ :: rest =>
                            match hexQuad l₁ l₂ l₃ l₄ with
                            | none => .error (.fault .invalidEscape rest)
                            | some m =>
                              if isLowSurrogate m then
                                prepend (encodeNat (joinSurrogates n m)) (stringBytes rest)
                              else .error (.fault .loneSurrogate rest)
                          | _ => .error (.fault .endInString [])
                        else .error (.fault .unfinishedSurrogate rest)
                    else .error (.fault .unfinishedSurrogate rest)
                else prepend (encodeNat n) (stringBytes rest)
            | _ => .error (.fault .endInString [])
          else .error (.fault .invalidEscape rest)
    else if b < 0x20 then .error (.fault .controlCharacter rest)
    else prepend [b] (stringBytes rest)
where
  prepend (bytes : Bytes) (read : Except Stop (Bytes × Bytes)) : Except Stop (Bytes × Bytes) :=
    read.map fun (more, rest) => (bytes ++ more, rest)

/-- A string whose opening quote has been read, and its closing quote. -/
def stringTail : Reader String := fun bs => do
  let (bytes, rest) ← stringBytes bs
  match Bytes.toString? bytes with
  | some s => return (s, rest.drop 1)
  | none => .error (.fault .invalidCodePoint rest)

end Strings

section Numbers

def isDigit (b : UInt8) : Bool := 0x30 ≤ b && b ≤ 0x39

def digitValue (b : UInt8) : Nat := b.toNat - 0x30

/-- The digits at the front, and the rest. -/
def digits (bs : Bytes) : Bytes × Bytes :=
  (bs.takeWhile isDigit, bs.dropWhile isDigit)

/-- Adds digits to a significand while 64 bits hold it, and says how many are left over. -/
def absorb (significand : Nat) : Bytes → Nat × Nat
  | [] => (significand, 0)
  | d :: ds =>
    let more := significand * 10 + digitValue d
    if more ≤ 0xFFFFFFFFFFFFFFFF then absorb more ds
    else (significand, ds.length + 1)

def tenTo (n : Nat) : Float :=
  Float.ofScientific 1 false n

/-- A double near `significand * 10 ^ exponent`: the significand is rounded, then multiplied or
divided by a rounded power of ten, twice where one power is out of range. -/
def scaled (significand : Nat) (exponent : Int) : Float :=
  let x := Float.ofNat significand
  if 308 < exponent then (if significand = 0 then x else tenTo 309)
  else if 0 ≤ exponent then x * tenTo exponent.toNat
  else if -308 ≤ exponent then x / tenTo (-exponent).toNat
  else if -616 ≤ exponent then x / tenTo 308 / tenTo (-(exponent + 308)).toNat
  else 0

def signed (negative : Bool) (x : Float) : Float :=
  if negative then -x else x

/-- A number that is no integer. -/
def floatNumber (negative : Bool) (significand : Nat) (exponent : Int) : Reader Number :=
  fun rest =>
    match Number.ofFloat? (signed negative (scaled significand exponent)) with
    | some n => .ok (n, rest)
    | none => .error (.fault .numberOutOfRange rest)

/-- The digits of an exponent after its first. A positive exponent above 32 bits is out of range at
the digit that takes it there, a negative one makes the number zero. -/
def exponentDigits (negative : Bool) (significand : Nat) (base : Int) (down : Bool) :
    Nat → Reader Number
  | power, [] => finish power []
  | power, b :: rest =>
    if isDigit b then
      let more := power * 10 + digitValue b
      if more ≤ 0x7FFFFFFF then exponentDigits negative significand base down more rest
      else if significand ≠ 0 && !down then .error (.fault .numberOutOfRange rest)
      else floatNumber negative 0 0 (rest.dropWhile isDigit)
    else finish power (b :: rest)
where
  finish (power : Nat) : Reader Number :=
    floatNumber negative significand (if down then base - power else base + power)

/-- An exponent whose letter has been read. -/
def exponentPart (negative : Bool) (significand : Nat) (base : Int) : Reader Number := fun bs =>
  let (down, bs) :=
    match bs with
    | [] => (false, [])
    | b :: rest =>
      if b = ascii '+' then (false, rest) else if b = ascii '-' then (true, rest) else (false, bs)
  match bs with
  | [] => .error (.fault .endInValue [])
  | b :: rest =>
    if isDigit b then exponentDigits negative significand base down (digitValue b) rest
    else .error (.fault .invalidNumber rest)

/-- A fraction whose point has been read. -/
def fractionPart (negative : Bool) (significand : Nat) (base : Int) : Reader Number := fun bs =>
  let (ds, rest) := digits bs
  if ds.isEmpty then
    match rest with
    | [] => .error (.fault .endInValue [])
    | _ :: _ => .error (.here .invalidNumber rest)
  else
    let (significand, left) := absorb significand ds
    let exponent := base - (ds.length - left : Nat)
    match rest with
    | [] => floatNumber negative significand exponent []
    | b :: more =>
      if b = ascii 'e' || b = ascii 'E' then exponentPart negative significand exponent more
      else floatNumber negative significand exponent rest

/-- What follows the integer digits, of which the last `left` are not in the significand. Minus zero
and integers beyond 64 bits are doubles. -/
def afterInteger (negative : Bool) (significand left : Nat) : Reader Number := fun bs =>
  match bs with
  | [] => integer []
  | b :: rest =>
    if b = ascii '.' then fractionPart negative significand left rest
    else if b = ascii 'e' || b = ascii 'E' then exponentPart negative significand left rest
    else integer bs
where
  integer : Reader Number := fun bs =>
    if left ≠ 0 || (negative && significand = 0) then floatNumber negative significand left bs
    else
      match Number.ofInt? (if negative then -significand else significand) with
      | some n => .ok (n, bs)
      | none => floatNumber negative significand 0 bs

/-- A number whose minus sign, if any, has been read. -/
def number (negative : Bool) : Reader Number
  | [] => .error (.fault .endInValue [])
  | b :: rest =>
    if b = ascii '0' then
      match rest with
      | [] => afterInteger negative 0 0 []
      | d :: _ =>
        if isDigit d then .error (.here .invalidNumber rest) else afterInteger negative 0 0 rest
    else if isDigit b then
      let (ds, rest) := digits rest
      let (significand, left) := absorb (digitValue b) ds
      afterInteger negative significand left rest
    else .error (.fault .invalidNumber rest)

end Numbers

end ToolAgent.Json
