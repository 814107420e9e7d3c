import ToolAgent.Json.Number
import ToolAgent.Keyed

/-!
# JSON values

A value is a tree whose objects list their members. `Json.object` builds the canonical object of
some members: sorted by name, the last of each name. Values that come from a text are canonical; a
typed value is written with its members in the order of its own fields, and `canonical` sorts it.
-/

namespace ToolAgent

inductive Json where
  | null
  | bool (value : Bool)
  | num (value : Number)
  | str (value : String)
  | arr (items : List Json)
  | obj (members : List (String × Json))

namespace Json

instance : Inhabited Json := ⟨.null⟩

/-- The canonical object of these members. -/
def object (members : List (String × Json)) : Json :=
  .obj (Keyed.ofList members)

def ofUInt64 (n : UInt64) : Json :=
  .num (.int n.toNat (by have := n.toNat_lt; omega))

def ofUInt32 (n : UInt32) : Json :=
  .num (.int n.toNat (by have := n.toNat_lt; omega))

def ofInt32 (n : Int32) : Json :=
  .num (.int n.toInt (by have := n.le_toInt; have := n.toInt_lt; omega))

/-- A number that JSON cannot write is null. -/
def ofFloat (x : Float) : Json :=
  ((Number.ofFloat? x).map num).getD null

def ofOption (toJson : α → Json) : Option α → Json
  | none => null
  | some a => toJson a

/-- A member for a value that is set. -/
def memberOf? {α : Type} (name : String) (toJson : α → Json) (a : Option α) :
    List (String × Json) :=
  (a.map fun a => (name, toJson a)).toList

def isNull : Json → Bool
  | null => true
  | _ => false

/-- The member of that name, if the value is an object. -/
def get? (key : String) : Json → Option Json
  | obj members => Keyed.get? key members
  | _ => none

/-- The element at that place, if the value is an array. -/
def at? (i : Nat) : Json → Option Json
  | arr items => items[i]?
  | _ => none

def asString? : Json → Option String
  | str s => some s
  | _ => none

def asArray? : Json → Option (List Json)
  | arr items => some items
  | _ => none

def asNat? : Json → Option Nat
  | num n => n.toNat?
  | _ => none

def asInt64? : Json → Option Int
  | num n => n.toInt64?
  | _ => none

/-- The member of that name, null where there is none. -/
def getD (key : String) (value : Json) : Json :=
  (value.get? key).getD null

/-- The text of a string member. -/
def getString? (key : String) (value : Json) : Option String :=
  (value.get? key).bind asString?

mutual

/-- The same value with the members of every object sorted. -/
def canonical : Json → Json
  | null => null
  | bool b => bool b
  | num n => num n
  | str s => str s
  | arr items => arr (canonicalItems items)
  | obj members => object (canonicalMembers members)

def canonicalItems : List Json → List Json
  | [] => []
  | v :: rest => canonical v :: canonicalItems rest

def canonicalMembers : List (String × Json) → List (String × Json)
  | [] => []
  | (k, v) :: rest => (k, canonical v) :: canonicalMembers rest

end

mutual

/-- How deep brackets nest in the text of the value. -/
def depth : Json → Nat
  | arr items => depthItems items + 1
  | obj members => depthMembers members + 1
  | _ => 0

def depthItems : List Json → Nat
  | [] => 0
  | v :: rest => max (depth v) (depthItems rest)

def depthMembers : List (String × Json) → Nat
  | [] => 0
  | (_, v) :: rest => max (depth v) (depthMembers rest)

end

mutual

def beq : Json → Json → Bool
  | null, null => true
  | bool a, bool b => a == b
  | num a, num b => a == b
  | str a, str b => a == b
  | arr a, arr b => beqItems a b
  | obj a, obj b => beqMembers a b
  | _, _ => false

def beqItems : List Json → List Json → Bool
  | [], [] => true
  | a :: as, b :: bs => beq a b && beqItems as bs
  | _, _ => false

def beqMembers : List (String × Json) → List (String × Json) → Bool
  | [], [] => true
  | (k, a) :: as, (l, b) :: bs => k == l && beq a b && beqMembers as bs
  | _, _ => false

end

mutual

theorem beq_iff : ∀ a b : Json, beq a b = true ↔ a = b
  | null, b | bool _, b | num _, b | str _, b => by cases b <;> simp [beq]
  | arr as, b => by cases b <;> simp [beq, beqItems_iff as]
  | obj as, b => by cases b <;> simp [beq, beqMembers_iff as]

theorem beqItems_iff : ∀ as bs : List Json, beqItems as bs = true ↔ as = bs
  | [], bs => by cases bs <;> simp [beqItems]
  | a :: as, bs => by cases bs <;> simp [beqItems, beq_iff a, beqItems_iff as]

theorem beqMembers_iff : ∀ as bs : List (String × Json), beqMembers as bs = true ↔ as = bs
  | [], bs => by cases bs <;> simp [beqMembers]
  | (k, a) :: as, bs => by
    cases bs with
    | nil => simp [beqMembers]
    | cons e bs => simp [beqMembers, beq_iff a, beqMembers_iff as, Prod.ext_iff]

end

instance : DecidableEq Json := fun a b => decidable_of_iff _ (beq_iff a b)

section Members

variable {α : Type}

/-- Of the members of one name the last one is found. -/
@[simp] theorem get?_object (key : String) (members : List (String × Json)) :
    (object members).get? key = Keyed.get? key members.reverse :=
  Keyed.get?_ofList key members

@[simp] theorem reverse_memberOf? (name : String) (toJson : α → Json) (a : Option α) :
    (memberOf? name toJson a).reverse = memberOf? name toJson a := by
  cases a <;> rfl

@[simp] theorem get?_memberOf? (key name : String) (toJson : α → Json) (a : Option α) :
    Keyed.get? key (memberOf? name toJson a) = if key = name then a.map toJson else none := by
  cases a with
  | none => simp [memberOf?, Keyed.get?]
  | some a => exact Keyed.get?_cons key name (toJson a) []

end Members

end Json

end ToolAgent
