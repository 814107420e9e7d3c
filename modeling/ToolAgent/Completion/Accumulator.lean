import ToolAgent.Gateway.Failure
import ToolAgent.Json.Parser
import ToolAgent.Text.Blank

/-!
# From streamed chunks to a completion

Each payload of the stream is a marker or a chunk whose deltas add to the completion. What has been
accumulated is shaped like a completion that came in one piece, so that both are read alike.
-/

namespace ToolAgent

/-- What one payload of the stream means. -/
inductive Payload where
  | blank
  /-- The stream has ended well. -/
  | done
  /-- The stream has ended in an error. -/
  | failed
  | unreadable (error : Json.ParseError) (text : String)
  | reported (error : Json)
  | chunk (value : Json)

namespace Payload

def doneMarker : String := "[DONE]"

def errorMarker : String := "[ERROR]"

def ofText (text : String) : Payload :=
  let text := Text.trim text
  if text = "" then .blank
  else if text = doneMarker then .done
  else if text = errorMarker then .failed
  else
    match Json.parse text with
    | .error e => .unreadable e text
    | .ok value =>
      match value.get? "error" with
      | some error => .reported error
      | none => .chunk value

/-- The failure that the payload brings about. -/
def failure? : Payload → Option GatewayFailure
  | failed => some .streamFailed
  | unreadable e text => some (.unreadableChunk e text)
  | reported error => some (.streamError error)
  | _ => none

end Payload

/-- A tool call whose fragments are still coming in. -/
structure PendingCall where
  index : Nat
  id : String := ""
  name : String := ""
  arguments : String := ""
deriving DecidableEq, Repr

namespace PendingCall

/-- Adds the strings of a fragment. The id is the last one seen; name and arguments grow. -/
def add (call : PendingCall) (fragment : Json) : PendingCall :=
  let function := fragment.getD "function"
  { call with
    id := (fragment.getString? "id").getD call.id
    name := call.name ++ (function.getString? "name").getD ""
    arguments := call.arguments ++ (function.getString? "arguments").getD "" }

def toJson (call : PendingCall) : Json :=
  .object [
    ("id", .str call.id),
    ("type", .str "function"),
    ("function", .object [("name", .str call.name), ("arguments", .str call.arguments)])]

end PendingCall

structure Accumulator where
  id : Option String := none
  model : Option String := none
  content : String := ""
  /-- In the order in which the calls began. -/
  calls : List PendingCall := []
  finishReason : Option String := none
  usage : Option Json := none
  isDone : Bool := false
deriving DecidableEq

namespace Accumulator

/-- Adds a fragment to the call of that index, which it begins if there is none. -/
def addTo (index : Nat) (fragment : Json) : List PendingCall → List PendingCall
  | [] => [({ index } : PendingCall).add fragment]
  | call :: calls =>
    if call.index = index then call.add fragment :: calls
    else call :: addTo index fragment calls

/-- The index of a fragment; one without an index of its own counts as the next call. -/
def indexOf (calls : List PendingCall) (fragment : Json) : Nat :=
  ((fragment.get? "index").bind Json.asNat?).getD calls.length

def addFragment (calls : List PendingCall) (fragment : Json) : List PendingCall :=
  addTo (indexOf calls fragment) fragment calls

/-- Adds the delta of the choice that a chunk gives first. -/
def addChoice (acc : Accumulator) (choice : Json) : Accumulator :=
  let delta := choice.getD "delta"
  let fragments := ((delta.get? "tool_calls").bind Json.asArray?).getD []
  { acc with
    finishReason := (choice.getString? "finish_reason").or acc.finishReason
    content := acc.content ++ (delta.getString? "content").getD ""
    calls := fragments.foldl addFragment acc.calls }

/-- Id and model are the first ones given, the usage is the last one that is not null. -/
def addChunk (acc : Accumulator) (chunk : Json) : Accumulator :=
  let acc := { acc with
    id := acc.id.or (chunk.getString? "id")
    model := acc.model.or (chunk.getString? "model")
    usage := ((chunk.get? "usage").filter (!·.isNull)).or acc.usage }
  match (chunk.get? "choices").bind (Json.at? 0) with
  | some choice => acc.addChoice choice
  | none => acc

def take (acc : Accumulator) : Payload → Accumulator
  | .done | .failed => { acc with isDone := true }
  | .chunk value => acc.addChunk value
  | _ => acc

/-- Takes payloads up to the first that brings about a failure. -/
def takeAll (acc : Accumulator) : List String → Except GatewayFailure Accumulator
  | [] => .ok acc
  | text :: texts =>
    let payload := Payload.ofText text
    match payload.failure? with
    | some failure => .error failure
    | none => (acc.take payload).takeAll texts

/-- The calls in the order of their indices. -/
def sortedCalls (acc : Accumulator) : List PendingCall :=
  acc.calls.mergeSort fun a b => a.index ≤ b.index

/-- The accumulated completion, as if it had come in one piece. -/
def toResponse (acc : Accumulator) : Json :=
  let content := if acc.content = "" then Json.null else .str acc.content
  let entries := acc.sortedCalls.map PendingCall.toJson
  let calls := if entries.isEmpty then [] else [("tool_calls", Json.arr entries)]
  let message := Json.object ([("role", .str "assistant"), ("content", content)] ++ calls)
  let choice := Json.object [
    ("index", .ofUInt32 0),
    ("message", message),
    ("finish_reason", .ofOption .str acc.finishReason)]
  .object ([("object", .str "chat.completion"), ("choices", .arr [choice])] ++
    Json.memberOf? "id" .str acc.id ++ Json.memberOf? "model" .str acc.model ++
    Json.memberOf? "usage" (fun usage => usage) acc.usage)

end Accumulator

end ToolAgent
