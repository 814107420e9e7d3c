import ToolAgent.Json.Skip

/-!
# Values of a known type

A `Decoder` finds an `α` in two places: in a text, where it stops at the first misfit or fault in
the order of the text, and in a value. `Fields` describes the members of a record; a record is
written as an object, or as an array of its fields in order.
-/

namespace ToolAgent.Json

variable {α β : Type}

structure Decoder (α : Type) where
  /-- Reads from a text in which brackets may nest so much deeper. -/
  read : (depth : Nat) → Reader α
  fit : Json → Except Misfit α

/-- Stops at a value, starting with byte `b`, that is not what was `expected`. -/
def unexpected (expected : String) (b : UInt8) (rest : Bytes) : Except Stop α :=
  if b = ascii '[' then .error (.misfit (.invalidType .list expected) rest)
  else if b = ascii '\x7b' then .error (.misfit (.invalidType .map expected) rest)
  else
    match scalar b rest with
    | .ok (v, rest) => .error (.misfit (.invalidType (.ofJson v) expected) rest)
    | .error stop => .error stop

namespace Decoder

def map (f : α → β) (d : Decoder α) : Decoder β where
  read depth bs := (d.read depth bs).map fun (a, rest) => (f a, rest)
  fit v := (d.fit v).map f

/-- Reads the whole value before its type is looked at. -/
def ofFit (fit : Json → Except Misfit α) : Decoder α where
  fit := fit
  read depth bs :=
    match value depth bs with
    | .error stop => .error stop
    | .ok (v, rest) =>
      match fit v with
      | .ok a => .ok (a, rest)
      | .error m => .error (.misfit m rest)

def any : Decoder Json where
  read := value
  fit := .ok

def string : Decoder String where
  read _ bs :=
    match skipSpace bs with
    | [] => .error (.fault .endInValue [])
    | b :: rest => if b = ascii '"' then stringTail rest else unexpected "a string" b rest
  fit
    | .str s => .ok s
    | v => .error (.invalidType (.ofJson v) "a string")

/-- The integers from which `build` makes an `α`. -/
def integer (expected : String) (build : Int → Option α) : Decoder α where
  read _ bs :=
    match skipSpace bs with
    | [] => .error (.fault .endInValue [])
    | b :: rest =>
      if b = ascii '-' then ofNumber (number true rest)
      else if isDigit b then ofNumber (number false (b :: rest))
      else unexpected expected b rest
  fit
    | .num n => fitNumber n
    | v => .error (.invalidType (.ofJson v) expected)
where
  fitNumber : Number → Except Misfit α
    | .int n _ =>
      match build n with
      | some a => .ok a
      | none => .error (.invalidValue (.int n) expected)
    | .float x _ => .error (.invalidType (.float x) expected)
  ofNumber (read : Except Stop (Number × Bytes)) : Except Stop (α × Bytes) := do
    let (n, rest) ← read
    match fitNumber n with
    | .ok a => return (a, rest)
    | .error m => .error (.misfit m rest)

def int32 : Decoder Int32 :=
  integer "i32" fun n => if -0x80000000 ≤ n ∧ n ≤ 0x7FFFFFFF then some (.ofInt n) else none

def uint32 : Decoder UInt32 :=
  integer "u32" fun n => if 0 ≤ n ∧ n ≤ 0xFFFFFFFF then some (.ofNat n.toNat) else none

def uint64 : Decoder UInt64 :=
  integer "usize" fun n => if 0 ≤ n then some (.ofNat n.toNat) else none

/-- Null, or what `d` finds. -/
def option (d : Decoder α) : Decoder (Option α) where
  read depth bs :=
    match skipSpace bs with
    | [] => (d.read depth []).map fun (a, rest) => (some a, rest)
    | b :: rest =>
      if b = ascii 'n' then return (none, ← ident ['u', 'l', 'l'] rest)
      else (d.read depth (b :: rest)).map fun (a, rest) => (some a, rest)
  fit
    | .null => .ok none
    | v => (d.fit v).map some

/-- What `d` finds, with a value that null stands for. -/
def nullable (d : Decoder α) (default : α) : Decoder α :=
  d.option.map (·.getD default)

def list (d : Decoder α) : Decoder (List α) where
  read depth bs :=
    match skipSpace bs with
    | [] => .error (.fault .endInValue [])
    | b :: rest =>
      if b = ascii '[' then
        match depth with
        | 0 => .error (.fault .tooDeep rest)
        | depth + 1 => Json.list (d.read depth) rest
      else unexpected "a sequence" b rest
  fit
    | .arr items => items.mapM d.fit
    | v => .error (.invalidType (.ofJson v) "a sequence")

/-- An object of any keys, its members as listed. -/
def members (d : Decoder α) : Decoder (List (String × α)) where
  read depth bs :=
    match skipSpace bs with
    | [] => .error (.fault .endInValue [])
    | b :: rest =>
      if b = ascii '\x7b' then
        match depth with
        | 0 => .error (.fault .tooDeep rest)
        | depth + 1 => Json.members (d.read depth) rest
      else unexpected "a map" b rest
  fit
    | .obj members => members.mapM fun (k, v) => return (k, ← d.fit v)
    | v => .error (.invalidType (.ofJson v) "a map")

end Decoder

structure RecordField (α : Type) where
  name : String
  alias? : Option String := none
  decoder : Decoder α
  /-- Stands for a missing member; a field without it is required. -/
  absent : Option α := none
  /-- Stands for an element that an array is too short for. -/
  pastEnd : Option α := none

namespace RecordField

def isNamed (f : RecordField α) (key : String) : Bool :=
  key = f.name || some key = f.alias?

/-- A field that must be there. -/
def required (name : String) (d : Decoder α) : RecordField α where
  name := name
  decoder := d

/-- A field whose absence is null. -/
def optional (name : String) (d : Decoder α) : RecordField (Option α) where
  name := name
  decoder := d.option
  absent := some none

/-- A field that may be left out of an object and off the end of an array. -/
def withDefault (name : String) (d : Decoder α) (default : α) : RecordField α where
  name := name
  decoder := d
  absent := some default
  pastEnd := some default

end RecordField

/-- The fields of a record, whose values together are a `τ`, and the slots `σ` that take them up in
whatever order they come. -/
inductive Fields : (τ σ : Type) → Type 1 where
  | nil : Fields Unit Unit
  | cons {α τ σ : Type} (f : RecordField α) (rest : Fields τ σ) : Fields (α × τ) (Option α × σ)

namespace Fields

variable {τ σ : Type}

def empty : {τ σ : Type} → Fields τ σ → σ
  | _, _, nil => ()
  | _, _, cons _ rest => (none, rest.empty)

def size : {τ σ : Type} → Fields τ σ → Nat
  | _, _, nil => 0
  | _, _, cons _ rest => rest.size + 1

/-- The record, once every member has been seen. -/
def finish : {τ σ : Type} → Fields τ σ → σ → Except Misfit τ
  | _, _, nil, () => .ok ()
  | _, _, cons f rest, (slot, slots) =>
    match slot.or f.absent with
    | none => .error (.missingField f.name)
    | some a => (rest.finish slots).map fun more => (a, more)

/-- Puts a member into its slot. -/
def put (key : String) (v : Json) : {τ σ : Type} → Fields τ σ → σ → Except Misfit σ
  | _, _, nil, () => .ok ()
  | _, _, cons f rest, (slot, slots) =>
    if f.isNamed key then
      if slot.isSome then .error (.duplicateField f.name)
      else (f.decoder.fit v).map fun a => (some a, slots)
    else (rest.put key v slots).map fun slots => (slot, slots)

/-- Puts members into their slots, in order. -/
def putAll (fs : Fields τ σ) : List (String × Json) → σ → Except Misfit σ
  | [], slots => .ok slots
  | (k, v) :: members, slots => do fs.putAll members (← fs.put k v slots)

def ofMembers (fs : Fields τ σ) (members : List (String × Json)) : Except Misfit τ := do
  fs.finish (← fs.putAll members fs.empty)

/-- The record in an array, and the elements beyond it. `expected` is said of an array too short,
with the number of its elements: `index` more than are given. -/
def ofItems (expected : String) (index : Nat) :
    {τ σ : Type} → Fields τ σ → List Json → Except Misfit (τ × List Json)
  | _, _, nil, items => .ok ((), items)
  | _, _, cons f rest, [] =>
    match f.pastEnd with
    | none => .error (.invalidLength index expected)
    | some a => (rest.ofItems expected (index + 1) []).map fun (more, items) => ((a, more), items)
  | _, _, cons f rest, v :: items => do
    let a ← f.decoder.fit v
    let (more, items) ← rest.ofItems expected (index + 1) items
    return ((a, more), items)

/-- Reads the value of the member `key`, whose colon is next, into its slot. -/
def readMember (depth : Nat) (key : String) : {τ σ : Type} → Fields τ σ → σ → Reader σ
  | _, _, nil, () => fun bs => do return ((), ← skip (← colon bs))
  | _, _, cons f rest, (slot, slots) => fun bs =>
    if f.isNamed key then
      if slot.isSome then .error (.misfit (.duplicateField f.name) bs)
      else do
        let (a, bs) ← f.decoder.read depth (← colon bs)
        return ((some a, slots), bs)
    else (rest.readMember depth key slots bs).map fun (slots, bs) => ((slot, slots), bs)

/-- Reads at most `bound` members up to the closing brace, which is left. -/
def readMembers (fs : Fields τ σ) (depth : Nat) (first : Bool) : (bound : Nat) → σ → Reader σ
  | 0, _, bs => .error (.fault .endInObject bs)
  | bound + 1, slots, bs => do
    let (more, bs) ← nextKey first bs
    if more then
      let (key, bs) ← stringTail bs
      let (slots, bs) ← fs.readMember depth key slots bs
      fs.readMembers depth false bound slots bs
    else
      return (slots, bs)

/-- Reads the fields in order from the elements of an array. -/
def readItems (expected : String) (depth index : Nat) : {τ σ : Type} → Fields τ σ → Reader τ
  | _, _, nil => fun bs => .ok ((), bs)
  | _, _, cons f rest => fun bs => do
    let (more, bs) ← nextElement (index = 0) bs
    if more then
      let (a, bs) ← f.decoder.read depth bs
      let (as, bs) ← rest.readItems expected depth (index + 1) bs
      return ((a, as), bs)
    else
      match f.pastEnd with
      | none => .error (.misfit (.invalidLength index expected) bs)
      | some a => (rest.readItems expected depth (index + 1) bs).map fun (as, bs) => ((a, as), bs)

end Fields

/-- The bytes after the bracket that must now close an array. -/
def closeList (bs : Bytes) : Except Stop Bytes :=
  match skipSpace bs with
  | [] => .error (.fault .endInList [])
  | b :: rest =>
    if b = ascii ']' then .ok rest
    else if b = ascii ',' then
      match skipSpace rest with
      | c :: more =>
        .error (.fault (if c = ascii ']' then .trailingComma else .trailingCharacters) more)
      | [] => .error (.fault .trailingCharacters [])
    else .error (.fault .trailingCharacters rest)

/-- A record of that type name. -/
def Decoder.record {τ σ : Type} (name : String) (fs : Fields τ σ) : Decoder τ where
  read depth bs :=
    match skipSpace bs with
    | [] => .error (.fault .endInValue [])
    | b :: rest =>
      if b = ascii '[' || b = ascii '\x7b' then
        match depth with
        | 0 => .error (.fault .tooDeep rest)
        | depth + 1 => do
          if b = ascii '[' then
            let (a, bs) ← fs.readItems elementCount depth 0 rest
            return (a, ← closeList bs)
          else
            let (slots, bs) ← fs.readMembers depth true (rest.length + 1) fs.empty rest
            match fs.finish slots with
            | .ok a => return (a, bs.drop 1)
            | .error m => .error (.misfit m bs)
      else unexpected expected b rest
  fit
    | .obj members => fs.ofMembers members
    | .arr items => do
      let (a, extra) ← fs.ofItems elementCount 0 items
      if extra.isEmpty then return a
      else .error (.invalidLength items.length "fewer elements in array")
    | v => .error (.invalidType (.ofJson v) expected)
where
  expected : String := "struct " ++ name
  elementCount : String :=
    expected ++ " with " ++ toString fs.size ++ (if fs.size = 1 then " element" else " elements")

/-- What `d` finds in a text that holds nothing else. -/
def Decoder.parse (d : Decoder α) (text : String) : Except ParseError α :=
  let bs := Bytes.ofString text
  (readAll (d.read depthLimit) bs).mapError (·.toParseError bs)

end ToolAgent.Json
