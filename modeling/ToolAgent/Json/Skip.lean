import ToolAgent.Json.Parser

/-!
# Passing over a value

A member that no field asks for is passed over without being read: brackets may nest to any depth,
numbers may be of any size and surrogates need no partner. `skip` hands back what follows the value.
-/

namespace ToolAgent.Json

/-- The bytes after a string whose opening quote has been read. -/
def skipString : Bytes → Except Stop Bytes
  | [] => .error (.fault .endInString [])
  | b :: rest =>
    if b = ascii '"' then .ok rest
    else if b = ascii '\\' then
      match rest with
      | [] => .error (.fault .endInString [])
      | e :: rest =>
        if (letterEscape e).isSome then skipString rest
        else if e = ascii 'u' then
          match rest with
          | h₁ :: h₂ :: h₃ :: h₄ :: rest =>
            if (hexQuad h₁ h₂ h₃ h₄).isSome then skipString rest
            else .error (.fault .invalidEscape rest)
          | _ => .error (.fault .endInString [])
        else .error (.fault .invalidEscape rest)
    else if b < 0x20 then .error (.fault .controlCharacter rest)
    else skipString rest

/-- The bytes after an exponent, if one is next. -/
def skipExponent : Bytes → Except Stop Bytes
  | [] => .ok []
  | b :: rest =>
    if b = ascii 'e' || b = ascii 'E' then
      let unsigned :=
        match rest with
        | s :: more => if s = ascii '+' || s = ascii '-' then more else rest
        | [] => []
      match unsigned with
      | [] => .error (.fault .invalidNumber [])
      | d :: more =>
        if isDigit d then .ok (more.dropWhile isDigit) else .error (.fault .invalidNumber more)
    else .ok (b :: rest)

/-- The bytes after a fraction and an exponent, if they are next. -/
def skipFraction : Bytes → Except Stop Bytes
  | [] => .ok []
  | b :: rest =>
    if b = ascii '.' then
      match digits rest with
      | ([], rest) => .error (.here .invalidNumber rest)
      | (_ :: _, rest) => skipExponent rest
    else skipExponent (b :: rest)

/-- The bytes after a number whose minus sign, if any, has been read. -/
def skipNumber : Bytes → Except Stop Bytes
  | [] => .error (.fault .invalidNumber [])
  | b :: rest =>
    if b = ascii '0' then
      match rest with
      | [] => .ok []
      | d :: more => if isDigit d then .error (.fault .invalidNumber more) else skipFraction rest
    else if isDigit b then skipFraction (rest.dropWhile isDigit)
    else .error (.fault .invalidNumber rest)

def skipScalar (b : UInt8) (rest : Bytes) : Except Stop Bytes :=
  if b = ascii 'n' then ident ['u', 'l', 'l'] rest
  else if b = ascii 't' then ident ['r', 'u', 'e'] rest
  else if b = ascii 'f' then ident ['a', 'l', 's', 'e'] rest
  else if b = ascii '"' then skipString rest
  else if b = ascii '-' then skipNumber rest
  else if isDigit b then skipNumber (b :: rest)
  else .error (.fault .expectedValue rest)

mutual

/-- The bytes after a value; each level of brackets takes two of `bound`. -/
def skipValue : (bound : Nat) → Bytes → Except Stop Bytes
  | 0, _ => .error (.fault .endInValue [])
  | bound + 1, bs =>
    match skipSpace bs with
    | [] => .error (.fault .endInValue [])
    | b :: rest =>
      if b = ascii '[' then
        match skipSpace rest with
        | [] => .error (.fault .endInList [])
        | c :: more => if c = ascii ']' then .ok more else skipItems bound (c :: more)
      else if b = ascii '\x7b' then
        match skipSpace rest with
        | [] => .error (.fault .endInObject [])
        | c :: more => if c = ascii '\x7d' then .ok more else skipMembers bound (c :: more)
      else skipScalar b rest

/-- The bytes after the elements that are left and their closing bracket. -/
def skipItems : (bound : Nat) → Bytes → Except Stop Bytes
  | 0, _ => .error (.fault .endInList [])
  | bound + 1, bs => do
    match skipSpace (← skipValue bound bs) with
    | [] => .error (.fault .endInList [])
    | b :: rest =>
      if b = ascii ',' then skipItems bound rest
      else if b = ascii ']' then .ok rest
      else .error (.fault .expectedCommaOrBracket rest)

/-- The bytes after the members that are left and their closing brace. -/
def skipMembers : (bound : Nat) → Bytes → Except Stop Bytes
  | 0, _ => .error (.fault .endInObject [])
  | bound + 1, bs =>
    match skipSpace bs with
    | [] => .error (.fault .endInObject [])
    | q :: rest =>
      if q = ascii '"' then do
        match skipSpace (← skipValue bound (← colon (← skipString rest))) with
        | [] => .error (.fault .endInObject [])
        | b :: rest =>
          if b = ascii ',' then skipMembers bound rest
          else if b = ascii '\x7d' then .ok rest
          else .error (.fault .expectedCommaOrBrace rest)
      else .error (.fault .keyNotString rest)

end

def skip (bs : Bytes) : Except Stop Bytes :=
  skipValue (2 * bs.length + 2) bs

end ToolAgent.Json
