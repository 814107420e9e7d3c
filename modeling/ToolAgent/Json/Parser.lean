import ToolAgent.Json.Lexeme

/-!
# Reading JSON values

Brackets may nest `depthLimit` deep. `list` and `members` read what stands between brackets with any
reader for the elements; `value` reads a whole value, and `parse` a text that holds nothing else.
-/

namespace ToolAgent.Json

variable {α : Type}

/-- The nesting that a text may have. -/
def depthLimit : Nat := 127

section Brackets

/-- Whether an element follows, and the bytes from it or from the closing bracket on. A comma is due
except before the first element. -/
def nextElement (first : Bool) (bs : Bytes) : Except Stop (Bool × Bytes) :=
  match skipSpace bs with
  | [] => .error (.fault .endInList [])
  | b :: rest =>
    if b = ascii ']' then .ok (false, b :: rest)
    else if first then .ok (true, b :: rest)
    else if b = ascii ',' then
      match skipSpace rest with
      | [] => .error (.fault .endInValue [])
      | c :: more =>
        if c = ascii ']' then .error (.fault .trailingComma more) else .ok (true, c :: more)
    else .error (.fault .expectedCommaOrBracket rest)

/-- Whether a member follows, and the bytes after the opening quote of its key or from the closing
brace on. -/
def nextKey (first : Bool) (bs : Bytes) : Except Stop (Bool × Bytes) :=
  match skipSpace bs with
  | [] => .error (.fault .endInObject [])
  | b :: rest =>
    if b = ascii '\x7d' then .ok (false, b :: rest)
    else if first then key (b :: rest)
    else if b = ascii ',' then key (skipSpace rest)
    else .error (.fault .expectedCommaOrBrace rest)
where
  key : Bytes → Except Stop (Bool × Bytes)
    | [] => .error (.fault .endInValue [])
    | b :: rest =>
      if b = ascii '"' then .ok (true, rest)
      else if b = ascii '\x7d' then .error (.fault .trailingComma rest)
      else .error (.fault .keyNotString rest)

/-- The bytes after the colon that a key calls for. -/
def colon (bs : Bytes) : Except Stop Bytes :=
  match skipSpace bs with
  | [] => .error (.fault .endInObject [])
  | b :: rest => if b = ascii ':' then .ok rest else .error (.fault .expectedColon rest)

/-- At most `bound` elements and the closing bracket. -/
def elements (item : Reader α) (first : Bool) : (bound : Nat) → Reader (List α)
  | 0, bs => .error (.fault .endInList bs)
  | bound + 1, bs => do
    let (more, bs) ← nextElement first bs
    if more then
      let (a, bs) ← item bs
      let (as, bs) ← elements item false bound bs
      return (a :: as, bs)
    else
      return ([], bs.drop 1)

/-- At most `bound` members and the closing brace. -/
def entries (item : Reader α) (first : Bool) : (bound : Nat) → Reader (List (String × α))
  | 0, bs => .error (.fault .endInObject bs)
  | bound + 1, bs => do
    let (more, bs) ← nextKey first bs
    if more then
      let (key, bs) ← stringTail bs
      let bs ← colon bs
      let (a, bs) ← item bs
      let (as, bs) ← entries item false bound bs
      return ((key, a) :: as, bs)
    else
      return ([], bs.drop 1)

/-- The elements of an array whose opening bracket has been read. Each takes a byte or more. -/
def list (item : Reader α) : Reader (List α) := fun bs =>
  elements item true (bs.length + 1) bs

/-- The members of an object whose opening brace has been read, as the text lists them. -/
def members (item : Reader α) : Reader (List (String × α)) := fun bs =>
  entries item true (bs.length + 1) bs

end Brackets

/-- The value without brackets that starts with byte `b`. -/
def scalar (b : UInt8) (rest : Bytes) : Except Stop (Json × Bytes) :=
  if b = ascii 'n' then return (.null, ← ident ['u', 'l', 'l'] rest)
  else if b = ascii 't' then return (.bool true, ← ident ['r', 'u', 'e'] rest)
  else if b = ascii 'f' then return (.bool false, ← ident ['a', 'l', 's', 'e'] rest)
  else if b = ascii '"' then (stringTail rest).map fun (s, rest) => (.str s, rest)
  else if b = ascii '-' then (number true rest).map fun (n, rest) => (.num n, rest)
  else if isDigit b then (number false (b :: rest)).map fun (n, rest) => (.num n, rest)
  else .error (.fault .expectedValue rest)

/-- A value in which brackets nest at most `depth` deep. -/
def value (depth : Nat) : Reader Json := fun bs =>
  match skipSpace bs with
  | [] => .error (.fault .endInValue [])
  | b :: rest =>
    if b = ascii '[' || b = ascii '\x7b' then
      match depth with
      | 0 => .error (.fault .tooDeep rest)
      | depth + 1 =>
        if b = ascii '[' then (list (value depth) rest).map fun (items, rest) => (.arr items, rest)
        else (members (value depth) rest).map fun (entries, rest) => (object entries, rest)
    else scalar b rest

/-- What `read` finds in bytes that hold nothing else. -/
def readAll (read : Reader α) (bs : Bytes) : Except Stop α := do
  let (a, rest) ← read bs
  match skipSpace rest with
  | [] => return a
  | _ :: more => .error (.fault .trailingCharacters more)

def parseBytes (text : Bytes) : Except ParseError Json :=
  (readAll (value depthLimit) text).mapError (·.toParseError text)

def parse (text : String) : Except ParseError Json :=
  parseBytes (Bytes.ofString text)

end ToolAgent.Json
