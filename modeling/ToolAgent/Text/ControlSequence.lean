/-!
# Control sequences

A text may hold sequences that tell a terminal to do something rather than to show a character.
Where no terminal reads it, they are left out, and so are controls that are no white space.
-/

namespace ToolAgent.Text

/-- Where in a control sequence the next character stands. -/
inductive ControlPlace where
  /-- In none. -/
  | ground
  /-- After the escape character. -/
  | escape
  | escapeIntermediate
  /-- In a sequence that ends with a letter. -/
  | csi
  /-- At the beginning of a string for the device. -/
  | deviceEntry
  | deviceParameters
  | deviceIntermediate
  /-- In a string that a terminator ends. -/
  | string
  /-- In a command of the operating system, which the bell may end. -/
  | command
deriving DecidableEq, Repr

namespace ControlPlace

/-- White space that is shown wherever controls are obeyed. -/
def isControlBlank (c : Char) : Bool :=
  c = '\t' || c = '\n' || c = '\x0c' || c = '\r'

/-- Whether a character in this place is shown. -/
def shows (place : ControlPlace) (c : Char) : Bool :=
  match place with
  | ground => isControlBlank c || (0x20 ≤ c.toNat && c ≠ '\x7f')
  | escape | escapeIntermediate | csi => isControlBlank c
  | _ => false

/-- The place after the character that follows the escape character. -/
def afterEscape (c : Char) : ControlPlace :=
  match c with
  | '[' => csi
  | ']' => command
  | 'P' => deviceEntry
  | 'X' | '^' | '_' => string
  | c =>
    if c.toNat < 0x20 || 0x7E < c.toNat then escape
    else if c.toNat < 0x30 then escapeIntermediate
    else ground

/-- The place after a character at the beginning of a string for the device. -/
def afterDevice (place : ControlPlace) (c : Char) : ControlPlace :=
  let n := c.toNat
  if n < 0x20 || 0x7E < n then place
  else if n < 0x30 then deviceIntermediate
  else if n < 0x40 && place = deviceEntry then deviceParameters
  else if n < 0x3C && place = deviceParameters then place
  else string

/-- The place after a character that is not shown. A byte of the terminator also ends a string as
part of a longer character. -/
def next (place : ControlPlace) (c : Char) : ControlPlace :=
  let n := c.toNat
  if n = 0x18 || n = 0x1A then ground
  else if n = 0x1B then escape
  else
    match place with
    | ground => ground
    | escape => afterEscape c
    | escapeIntermediate => if 0x30 ≤ n && n ≤ 0x7E then ground else place
    | csi => if 0x40 ≤ n && n ≤ 0x7E then ground else place
    | deviceEntry | deviceParameters | deviceIntermediate => afterDevice place c
    | string => if (String.utf8EncodeChar c).contains 0x9C then ground else place
    | command => if c = '\x07' then ground else place

/-- The characters that are shown. Once one is, those after it are shown as in no sequence, up to
the next that is not; only then does a sequence that it stood in go on, unless it was beyond
ASCII. -/
def shown (isShowing : Bool) (place : ControlPlace) : List Char → List Char
  | [] => []
  | c :: cs =>
    if shows (if isShowing then ground else place) c then
      c :: shown true (if c.toNat < 0x80 then place else ground) cs
    else shown false (next place c) cs

end ControlPlace

/-- A text without its control sequences. -/
def withoutControls (s : String) : String :=
  String.ofList (ControlPlace.shown false .ground s.toList)

end ToolAgent.Text
