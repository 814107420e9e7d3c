import ToolAgent.Gateway.Environment
import ToolAgent.Text.Alphanumeric
import ToolAgent.Text.Blank

/-!
# Environment files

Each line of such a file sets a variable, unless it is blank or a comment. Values may be quoted and
may refer to other variables. The file is read up to the first line that makes no sense.
-/

namespace ToolAgent

namespace Dotenv

/-- A part of a value: a character, or a variable whose value goes there. -/
inductive Piece where
  | char (c : Char)
  | variable (name : String)
deriving DecidableEq, Repr

structure Entry where
  name : String
  value : List Piece
deriving DecidableEq, Repr

section Value

/-- Where in a value its next character stands. -/
inductive Place where
  | bare
  /-- Between single quotes, where no character is special. -/
  | single
  /-- Between double quotes, where blanks are not. -/
  | double
  /-- After a backslash. -/
  | escape (quoted : Bool)
  /-- In the name of a variable, written backwards so far. -/
  | name (quoted : Bool) (reversed : List Char)
  /-- In the name of a variable between braces. -/
  | braced (quoted : Bool) (reversed : List Char)
  /-- After the value. -/
  | ended
deriving DecidableEq, Repr

namespace Place

/-- The place after a name or an escape. -/
def resume (quoted : Bool) : Place :=
  if quoted then double else bare

end Place

def variableOf (reversed : List Char) : Piece :=
  .variable (String.ofList reversed.reverse)

/-- The character that a backslash and this one stand for. -/
def unescape? : Char → Option Char
  | 'n' => some '\n'
  | c => if ['\\', '\'', '"', '$', ' '].contains c then some c else none

/-- What the character at some place stands for, and the place of the next one. A name outside
braces ends at the first character that is no part of it, and that one is never special. -/
def step? : Place → Char → Option (List Piece × Place)
  | .bare, c =>
    match c with
    | '\'' => some ([], .single)
    | '"' => some ([], .double)
    | '\\' => some ([], .escape false)
    | '$' => some ([], .name false [])
    | c => if c = ' ' || c = '\t' then some ([], .ended) else some ([.char c], .bare)
  | .single, c => if c = '\'' then some ([], .bare) else some ([.char c], .single)
  | .double, c =>
    match c with
    | '"' => some ([], .bare)
    | '\\' => some ([], .escape true)
    | '$' => some ([], .name true [])
    | c => some ([.char c], .double)
  | .escape quoted, c => (unescape? c).map fun c => ([.char c], .resume quoted)
  | .name quoted reversed, c =>
    if Text.isAlphanumeric c then some ([], .name quoted (c :: reversed))
    else if c = '\x7b' && reversed.isEmpty then some ([], .braced quoted [])
    else if c = '$' then some ([variableOf reversed], .name quoted [])
    else some ([variableOf reversed, .char c], .resume quoted)
  | .braced quoted reversed, c =>
    if c = '\x7d' then some ([variableOf reversed], .resume quoted)
    else some ([], .braced quoted (c :: reversed))
  | .ended, c => if c = ' ' || c = '\t' then some ([], .ended) else none

/-- What is left to be said at the end of a line, if a value may end there. -/
def close? : Place → Option (List Piece)
  | .bare | .escape false | .ended => some []
  | .name false reversed => some [variableOf reversed]
  | _ => none

/-- The pieces of a value from some place on. Only after the value may a comment follow. -/
def pieces? : Place → List Char → Option (List Piece)
  | place, [] => close? place
  | place, c :: cs =>
    if place = .ended && c = '#' then some []
    else do
      let (pieces, place) ← step? place c
      return pieces ++ (← pieces? place cs)

end Value

section Line

def skipBlank (cs : List Char) : List Char :=
  cs.dropWhile Text.isBlank

/-- A name at the beginning of a text, and what follows it and any blanks. -/
def name? (cs : List Char) : Option (String × List Char) :=
  let isPart (c : Char) : Bool := c.isAlphanum || c = '_' || c = '.'
  match cs with
  | [] => none
  | c :: _ =>
    if c.isAlpha || c = '_' then
      some (String.ofList (cs.takeWhile isPart), skipBlank (cs.dropWhile isPart))
    else none

def afterEquals? : List Char → Option (List Char)
  | '=' :: cs => some (skipBlank cs)
  | _ => none

/-- The name that a line sets and the text of its value. The word `export` may stand before the
name, and may itself be one. -/
def assignment? (cs : List Char) : Option (String × List Char) := do
  let (name, rest) ← name? cs
  match afterEquals? rest with
  | some value => return (name, value)
  | none =>
    if name = "export" then
      let (name, rest) ← name? rest
      return (name, ← afterEquals? rest)
    else none

def isSilent : List Char → Bool
  | [] => true
  | c :: _ => c = '#'

/-- The entry in a line, or nothing for a line that sets nothing. -/
def line? (cs : List Char) : Option (Option Entry) :=
  let cs := Text.trimChars cs
  if isSilent cs then some none
  else do
    let (name, value) ← assignment? cs
    if isSilent value then return some ⟨name, []⟩
    else return some ⟨name, ← pieces? .bare value⟩

end Line

/-- The entries of lines up to the first that is not text or makes no sense. -/
def entriesOfLines : List Bytes → List Entry
  | [] => []
  | line :: rest =>
    match (Utf8.decode? line).bind line? with
    | none => []
    | some entry => entry.toList ++ entriesOfLines rest

def entries (file : Bytes) : List Entry :=
  entriesOfLines (Bytes.lines file)

end Dotenv

namespace Environment

/-- Sets a variable. -/
def set (env : Environment) (name value : String) : Environment :=
  fun other => if other = name then some (Bytes.ofString value) else env other

/-- The text that pieces make, nothing standing for a variable that is not set. -/
def expand (env : Environment) (pieces : List Dotenv.Piece) : String :=
  String.join <| pieces.map fun
    | .char c => c.toString
    | .variable name => (env.text? name).getD ""

/-- Sets, in order, the variables that are not yet set to text. -/
def withEntries (env : Environment) : List Dotenv.Entry → Environment
  | [] => env
  | entry :: rest =>
    let env := if (env.text? entry.name).isSome then env
      else env.set entry.name (env.expand entry.value)
    env.withEntries rest

end Environment

end ToolAgent
