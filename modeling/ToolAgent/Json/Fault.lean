import ToolAgent.Json.Printer
import ToolAgent.Text.Quoted

/-!
# What can be wrong with a JSON text

A `Fault` says why bytes are not JSON; a `Misfit` says why a value, though well formed, is not of
the type that is read. A reader stops at the first of either and hands the rest of the bytes back
with it, so that its place in the text, counted in lines and bytes, is where that rest starts.
-/

namespace ToolAgent.Json

inductive Fault where
  | endInList
  | endInObject
  | endInString
  | endInValue
  | expectedColon
  | expectedCommaOrBracket
  | expectedCommaOrBrace
  | expectedIdent
  | expectedValue
  | invalidEscape
  | invalidNumber
  | numberOutOfRange
  | invalidCodePoint
  | controlCharacter
  | keyNotString
  | loneSurrogate
  | trailingComma
  | trailingCharacters
  | unfinishedSurrogate
  | tooDeep
deriving DecidableEq, Repr

def Fault.message : Fault → String
  | .endInList => "EOF while parsing a list"
  | .endInObject => "EOF while parsing an object"
  | .endInString => "EOF while parsing a string"
  | .endInValue => "EOF while parsing a value"
  | .expectedColon => "expected `:`"
  | .expectedCommaOrBracket => "expected `,` or `]`"
  | .expectedCommaOrBrace => "expected `,` or `\x7d`"
  | .expectedIdent => "expected ident"
  | .expectedValue => "expected value"
  | .invalidEscape => "invalid escape"
  | .invalidNumber => "invalid number"
  | .numberOutOfRange => "number out of range"
  | .invalidCodePoint => "invalid unicode code point"
  | .controlCharacter => "control character (\\u0000-\\u001F) found while parsing a string"
  | .keyNotString => "key must be a string"
  | .loneSurrogate => "lone leading surrogate in hex escape"
  | .trailingComma => "trailing comma"
  | .trailingCharacters => "trailing characters"
  | .unfinishedSurrogate => "unexpected end of hex escape"
  | .tooDeep => "recursion limit exceeded"

/-- A place in a text, after some of its bytes. -/
structure Place where
  line : Nat
  column : Nat
deriving DecidableEq, Repr

/-- Lines count from one; the column is the number of bytes since the last line feed. -/
def Place.after (read : Bytes) : Place where
  line := read.count 0x0A + 1
  column := (read.reverse.takeWhile (· != 0x0A)).length

/-- A value as a misfit speaks of it. -/
inductive Found where
  | null
  | bool (value : Bool)
  | int (value : Int)
  | float (value : Float)
  | string (value : String)
  | list
  | map
  | unitVariant
deriving DecidableEq

def Found.message : Found → String
  | .null => "null"
  | .bool b => s!"boolean `{b}`"
  | .int n => s!"integer `{n}`"
  | .float x => "floating point `" ++ String.ofList (Number.printFloat x) ++ "`"
  | .string s => "string " ++ Text.quoted s
  | .list => "sequence"
  | .map => "map"
  | .unitVariant => "unit variant"

def Found.ofNumber : Number → Found
  | .int n _ => .int n
  | .float x _ => .float x

def Found.ofJson : Json → Found
  | .null => .null
  | .bool b => .bool b
  | .num n => ofNumber n
  | .str s => .string s
  | .arr _ => .list
  | .obj _ => .map

inductive Misfit where
  | invalidType (found : Found) (expected : String)
  | invalidValue (found : Found) (expected : String)
  | invalidLength (length : Nat) (expected : String)
  | missingField (name : String)
  | duplicateField (name : String)
  | unknownVariant (name : String) (known : List String)
deriving DecidableEq

def Misfit.message : Misfit → String
  | .invalidType found expected => s!"invalid type: {found.message}, expected {expected}"
  | .invalidValue found expected => s!"invalid value: {found.message}, expected {expected}"
  | .invalidLength length expected => s!"invalid length {length}, expected {expected}"
  | .missingField name => s!"missing field `{name}`"
  | .duplicateField name => s!"duplicate field `{name}`"
  | .unknownVariant name known =>
    let listed := ", ".intercalate (known.map fun k => s!"`{k}`")
    s!"unknown variant `{name}`, expected one of {listed}"

inductive Reason where
  | fault (f : Fault)
  | misfit (m : Misfit)
deriving DecidableEq

def Reason.message : Reason → String
  | .fault f => f.message
  | .misfit m => m.message

/-- Why a reader stopped, with the bytes it has not read. -/
structure Stop where
  reason : Reason
  rest : Bytes

namespace Stop

def fault (f : Fault) (rest : Bytes) : Stop := ⟨.fault f, rest⟩

def misfit (m : Misfit) (rest : Bytes) : Stop := ⟨.misfit m, rest⟩

/-- A fault that lies in the first of the bytes, which counts as read. -/
def here (f : Fault) (bs : Bytes) : Stop := ⟨.fault f, bs.drop 1⟩

end Stop

/-- Why a text is not what was to be read, and where. -/
structure ParseError where
  reason : Reason
  place : Place
deriving DecidableEq

def ParseError.message (e : ParseError) : String :=
  s!"{e.reason.message} at line {e.place.line} column {e.place.column}"

/-- The error for a reader that was given `text`. -/
def Stop.toParseError (text : Bytes) (stop : Stop) : ParseError :=
  ⟨stop.reason, .after (text.take (text.length - stop.rest.length))⟩

/-- Reads an `α` from the front of some bytes. -/
abbrev Reader (α : Type) := Bytes → Except Stop (α × Bytes)

section Steps

variable {α β ε : Type}

theorem bind_eq_ok_iff {x : Except ε α} {f : α → Except ε β} {b : β} :
    x >>= f = .ok b ↔ ∃ a, x = .ok a ∧ f a = .ok b := by
  cases x with
  | error e => exact ⟨nofun, nofun⟩
  | ok a =>
    refine ⟨fun h => ⟨a, rfl, h⟩, ?_⟩
    rintro ⟨_, ⟨⟩, h⟩
    exact h

theorem map_eq_ok_iff {x : Except ε α} {f : α → β} {b : β} :
    x.map f = .ok b ↔ ∃ a, x = .ok a ∧ f a = b := by
  cases x with
  | error e => exact ⟨nofun, nofun⟩
  | ok a => simp [Except.map]

theorem mapError_eq_ok_iff {ε' : Type} {x : Except ε α} {f : ε → ε'} {a : α} :
    x.mapError f = .ok a ↔ x = .ok a := by
  cases x with
  | error e => exact ⟨nofun, nofun⟩
  | ok found => exact ⟨fun h => congrArg _ (Except.ok.inj h), fun h => congrArg _ (Except.ok.inj h)⟩

theorem toOption_eq_some_iff {x : Except ε α} {a : α} : x.toOption = some a ↔ x = .ok a := by
  cases x <;> simp [Except.toOption]

end Steps

end ToolAgent.Json
