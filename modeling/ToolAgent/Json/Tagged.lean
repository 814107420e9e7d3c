import ToolAgent.Json.Decoder

/-!
# Values told apart by a tag

A tagged value is an object with one member, whose key is the tag and whose value is read as the tag
asks. The tag alone, as a string, names a case but lacks its value.
-/

namespace ToolAgent.Json.Decoder

variable {α : Type}

def tagged (variants : List (String × Decoder α)) : Decoder α where
  read depth bs :=
    match skipSpace bs with
    | [] => .error (.fault .endInValue [])
    | b :: rest =>
      if b = ascii '\x7b' then
        match depth with
        | 0 => .error (.fault .tooDeep rest)
        | depth + 1 => do
          let (d, bs) ← readTag (skipSpace rest)
          let (a, bs) ← d.read depth (← colon bs)
          match skipSpace bs with
          | [] => .error (.fault .endInObject [])
          | b :: rest =>
            if b = ascii '\x7d' then return (a, rest)
            else .error (.fault .expectedValue (b :: rest))
      else if b = ascii '"' then do
        let (_, bs) ← readTag (b :: rest)
        .error (.misfit (.invalidType .unitVariant "newtype variant") bs)
      else .error (.fault .expectedValue rest)
  fit
    | .obj [(tag, v)] => do (← known tag).fit v
    | .obj _ => .error (.invalidValue .map "map with a single key")
    | .str tag => do
      let _ ← known tag
      .error (.invalidType .unitVariant "newtype variant")
    | v => .error (.invalidType (.ofJson v) "string or map")
where
  known (tag : String) : Except Misfit (Decoder α) :=
    match variants.lookup tag with
    | some d => .ok d
    | none => .error (.unknownVariant tag (variants.map Prod.fst))
  readTag : Bytes → Except Stop (Decoder α × Bytes)
    | [] => .error (.fault .endInObject [])
    | b :: rest => do
      if b = ascii '"' then
        let (tag, bs) ← stringTail rest
        match known tag with
        | .ok d => return (d, bs)
        | .error m => .error (.misfit m bs)
      else if b = ascii '\x7d' then .error (.fault .expectedValue rest)
      else .error (.fault .keyNotString rest)

end ToolAgent.Json.Decoder
