import ToolAgent.Json.Decoder

/-!
# Token usage

Counts of tokens that a completion took, each absent when the gateway did not report it.
-/

namespace ToolAgent

structure Usage where
  input : Option Int32 := none
  output : Option Int32 := none
  total : Option Int32 := none
deriving DecidableEq, Repr

namespace Usage

def toJson (usage : Usage) : Json :=
  .obj [
    ("input_tokens", .ofOption .ofInt32 usage.input),
    ("output_tokens", .ofOption .ofInt32 usage.output),
    ("total_tokens", .ofOption .ofInt32 usage.total)]

def decoder : Json.Decoder Usage :=
  (Json.Decoder.record "Usage" <|
    .cons (.optional "input_tokens" .int32) <|
    .cons (.optional "output_tokens" .int32) <|
    .cons (.optional "total_tokens" .int32) .nil).map
  fun (input, output, total, ()) => { input, output, total }

/-- The usage of a response, with the low 32 bits of each reported count. A total that is missing is
the sum of the other two. A sum beyond 32 bits wraps around, as it does where sums are made without
overflow checks; with such checks there would be no usage, but an abort. -/
def ofResponse (response : Json) : Usage :=
  match response.get? "usage" with
  | none | some .null => {}
  | some usage =>
    let count (key : String) : Option Int32 :=
      ((usage.get? key).bind Json.asInt64?).map Int32.ofInt
    let input := count "prompt_tokens"
    let output := count "completion_tokens"
    let sum := do return (← input) + (← output)
    { input, output, total := (count "total_tokens").or sum }

end Usage

end ToolAgent
