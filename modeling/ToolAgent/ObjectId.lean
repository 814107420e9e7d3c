/-!
# Generated ids

An id names the kind of thing it is for, and goes on with a version 4 UUID of 32 hexadecimal digits.
-/

namespace ToolAgent.ObjectId

/-- The version 4 UUID with these random bits. Six bits are fixed: four say the version, two the
variant. -/
def uuid (random : BitVec 128) : BitVec 128 :=
  random.extractLsb' 80 48 ++ 4#4 ++ random.extractLsb' 64 12 ++ 2#2 ++ random.extractLsb' 0 62

/-- The digits of a UUID, highest first. -/
def hex (id : BitVec 128) : List Char :=
  (List.range 32).map fun i => Nat.digitChar ((id >>> (4 * (31 - i))).toNat % 16)

def generate (kind : String) (random : BitVec 128) : String :=
  kind ++ "_" ++ String.ofList (hex (uuid random))

/-- The kind of an id for a tool call that came without one. -/
def callKind : String := "call"

end ToolAgent.ObjectId
