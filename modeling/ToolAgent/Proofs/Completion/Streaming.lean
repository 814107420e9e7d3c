import Mathlib.Data.List.Induction
import ToolAgent.Completion.Reply
import ToolAgent.Completion.Usage
import ToolAgent.Proofs.Completion.Payloads
import ToolAgent.Proofs.Completion.ToolCalls

/-!
# Completions and the chunks that stream them

A completion is a text, tool calls and a usage. It may come in one piece (`Completion.toJson`), or
spread over chunks (`Completion.IsStreamedBy`): the text and the parts of each call in their order,
everything else in any order. What is accumulated from the chunks has the same message and the same
usage as the completion in one piece (`Completion.IsStreamedBy.message_eq`,
`Completion.IsStreamedBy.ofResponse_eq`).
-/

namespace ToolAgent

/-! ## What a chunk carries -/

namespace Delta

variable (chunk : Json)

/-- The delta of the choice that the chunk gives first, null if it gives none. -/
def ofChunk : Json := (((chunk.get? "choices").bind (Json.at? 0)).getD .null).getD "delta"

def content : String := ((ofChunk chunk).getString? "content").getD ""

def fragments : List Json := (((ofChunk chunk).get? "tool_calls").bind Json.asArray?).getD []

/-- The usage that the chunk reports beside its choices. -/
def usage? : Option Json := (chunk.get? "usage").filter (!·.isNull)

/-- A chunk that carries these fragments and nothing else. -/
def chunkOf (fragments : List Json) : Json :=
  .object [("choices", .arr [.object [("delta", .object [("tool_calls", .arr fragments)])]])]

@[simp] theorem fragments_chunkOf (list : List Json) : fragments (chunkOf list) = list := by
  simp [fragments, ofChunk, chunkOf, Json.at?, Json.getD, Json.asArray?]

end Delta

namespace Accumulator

variable (acc : Accumulator) (chunk : Json) (chunks : List Json)

@[simp] theorem content_addChunk :
    (acc.addChunk chunk).content = acc.content ++ Delta.content chunk := by
  rw [addChunk, Delta.content, Delta.ofChunk]
  cases (chunk.get? "choices").bind (Json.at? 0) with
  | none => simp [Json.getD, Json.getString?, Json.get?]
  | some choice => rfl

@[simp] theorem calls_addChunk :
    (acc.addChunk chunk).calls = (Delta.fragments chunk).foldl addFragment acc.calls := by
  rw [addChunk, Delta.fragments, Delta.ofChunk]
  cases (chunk.get? "choices").bind (Json.at? 0) with
  | none => simp [Json.getD, Json.get?]
  | some choice => rfl

@[simp] theorem usage_addChunk :
    (acc.addChunk chunk).usage = (Delta.usage? chunk).or acc.usage := by
  rw [addChunk, Delta.usage?]
  cases (chunk.get? "choices").bind (Json.at? 0) <;> rfl

theorem content_foldl_addChunk :
    (chunks.foldl addChunk acc).content =
      acc.content ++ String.join (chunks.map Delta.content) := by
  induction chunks generalizing acc with
  | nil => simp
  | cons chunk chunks ih =>
    rw [List.foldl_cons, ih, content_addChunk, List.map_cons, String.join_cons, String.append_assoc]

theorem calls_foldl_addChunk :
    (chunks.foldl addChunk acc).calls =
      (chunks.flatMap Delta.fragments).foldl addFragment acc.calls := by
  induction chunks generalizing acc with
  | nil => rfl
  | cons chunk chunks ih =>
    rw [List.foldl_cons, ih, calls_addChunk, List.flatMap_cons, List.foldl_append]

/-- The calls of chunks that give every fragment an index. -/
theorem gathered_foldl_addChunk {chunks : List Json}
    (h : ∀ fragment ∈ chunks.flatMap Delta.fragments, (Fragment.index? fragment).isSome) :
    Gathered (chunks.flatMap Delta.fragments) (chunks.foldl addChunk {}).calls := by
  rw [calls_foldl_addChunk]
  exact Gathered.nil.foldl h

theorem usage_foldl_addChunk :
    (chunks.foldl addChunk acc).usage =
      (chunks.filterMap Delta.usage?).getLast?.or acc.usage := by
  induction chunks using List.reverseRecOn with
  | nil => rfl
  | append_singleton chunks chunk ih =>
    rw [List.foldl_append, List.foldl_cons, List.foldl_nil, usage_addChunk, ih,
      List.filterMap_append]
    cases h : Delta.usage? chunk <;> simp [h]

theorem isDone_foldl_addChunk : (chunks.foldl addChunk acc).isDone = acc.isDone := by
  induction chunks generalizing acc with
  | nil => rfl
  | cons chunk chunks ih => rw [List.foldl_cons, ih, isDone_addChunk]

end Accumulator

/-- The payloads are these chunks, with blank ones between them. -/
inductive Carries : List String → List Json → Prop where
  | nil : Carries [] []
  | blank {text : String} {texts : List String} {chunks : List Json} (h : Payload.IsBlank text)
      (hrest : Carries texts chunks) : Carries (text :: texts) chunks
  | chunk {text : String} {chunk : Json} {texts : List String} {chunks : List Json}
      (h : Payload.IsChunk text chunk) (hrest : Carries texts chunks) :
      Carries (text :: texts) (chunk :: chunks)

namespace Carries

variable {texts : List String} {chunks : List Json}

theorem takeAll_eq (h : Carries texts chunks) (acc : Accumulator) :
    acc.takeAll texts = .ok (chunks.foldl Accumulator.addChunk acc) := by
  induction h generalizing acc with
  | nil => rfl
  | blank hblank _ ih =>
    rw [Accumulator.takeAll_cons, Payload.ofText_of_isBlank hblank]
    exact ih acc
  | chunk hchunk _ ih =>
    rw [Accumulator.takeAll_cons, Payload.ofText_of_isChunk hchunk]
    exact ih _

theorem not_isDone (h : Carries texts chunks) : ∀ text ∈ texts, ¬ Payload.IsDone text := by
  intro text hmem hdone
  have hfold : (chunks.foldl Accumulator.addChunk {}).isDone :=
    (Accumulator.isDone_iff_of_takeAll (h.takeAll_eq {})).mpr (.inr ⟨text, hmem, hdone⟩)
  rw [Accumulator.isDone_foldl_addChunk] at hfold
  simp at hfold

end Carries

/-! ## Completions -/

/-- A usage that is null is no usage. -/
theorem Usage.ofResponse_congr {response other : Json}
    (h : (response.get? "usage").filter (!·.isNull) = (other.get? "usage").filter (!·.isNull)) :
    Usage.ofResponse response = Usage.ofResponse other := by
  have hfilter (response : Json) : Usage.ofResponse response =
      Usage.ofResponse (.object (Json.memberOf? "usage" (fun usage => usage)
        ((response.get? "usage").filter (!·.isNull)))) := by
    simp only [Usage.ofResponse, Json.get?_object, Json.reverse_memberOf?, Json.get?_memberOf?]
    cases response.get? "usage" with
    | none => rfl
    | some usage => cases usage <;> rfl
  rw [hfilter response, hfilter other, h]

structure CompletedCall where
  id : String
  name : String
  arguments : String
deriving DecidableEq, Repr

namespace CompletedCall

def toJson (call : CompletedCall) : Json :=
  .object [
    ("id", .str call.id),
    ("type", .str "function"),
    ("function", .object [("name", .str call.name), ("arguments", .str call.arguments)])]

/-- The call that the agent gets to see. -/
def toCall (call : CompletedCall) : ToolCall where
  name := call.name
  args := interpretArguments call.arguments
  id := (some call.id).filter (· ≠ "")

theorem ofEntry_toJson (call : CompletedCall) : ToolCall.ofEntry call.toJson = call.toCall := by
  simp [ToolCall.ofEntry, toJson, toCall, Json.getD, Json.getString?, Json.asString?]

end CompletedCall

structure Completion where
  content : String
  calls : List CompletedCall
  /-- As the gateway reports it. -/
  usage : Option Json
deriving DecidableEq

namespace Completion

/-- The completion in one piece. -/
def toJson (completion : Completion) : Json :=
  let message := Json.object [
    ("role", .str "assistant"),
    ("content", .str completion.content),
    ("tool_calls", .arr (completion.calls.map CompletedCall.toJson))]
  .object ([("choices", .arr [.object [("message", message)]])] ++
    Json.memberOf? "usage" (fun usage => usage) completion.usage)

def message (completion : Completion) : Message :=
  .assistant completion.content (completion.calls.map CompletedCall.toCall)

variable (completion : Completion)

theorem get?_error_toJson : completion.toJson.get? "error" = none := by
  simp [toJson]

theorem get?_usage_toJson : completion.toJson.get? "usage" = completion.usage := by
  simp [toJson]

theorem ofResponse_toJson : Message.ofResponse completion.toJson = .ok completion.message := by
  simp [Message.ofResponse, toJson, Json.at?, Message.ofEntry, message, Json.getString?,
    Json.asString?, Json.asArray?, CompletedCall.ofEntry_toJson]

end Completion

namespace Accumulator

variable (acc : Accumulator)

/-- What has been accumulated, as a completion. -/
def completion : Completion where
  content := acc.content
  calls := acc.sortedCalls.map fun call => ⟨call.id, call.name, call.arguments⟩
  usage := acc.usage

theorem get?_error_toResponse : acc.toResponse.get? "error" = none := by
  simp [toResponse]

theorem get?_usage_toResponse : acc.toResponse.get? "usage" = acc.usage := by
  simp [toResponse]

theorem ofResponse_toResponse :
    Message.ofResponse acc.toResponse = .ok acc.completion.message := by
  have hentry (call : PendingCall) : call.toJson =
      CompletedCall.toJson ⟨call.id, call.name, call.arguments⟩ := rfl
  by_cases hcontent : acc.content = "" <;> by_cases hcalls : acc.sortedCalls = [] <;>
    simp [Message.ofResponse, toResponse, Json.at?, Message.ofEntry, Completion.message, completion,
      Json.getString?, Json.asString?, Json.asArray?, hcontent, hcalls, hentry,
      CompletedCall.ofEntry_toJson]

end Accumulator

/-! ## Streamed completions -/

/-- The fragments make up the call. A call of which no fragment has an id has the empty one. -/
structure CompletedCall.IsGivenBy (call : CompletedCall) (fragments : List Json) : Prop where
  ne_nil : fragments ≠ []
  id : (fragments.filterMap Fragment.id?).getLast?.getD "" = call.id
  name : String.join (fragments.map Fragment.name) = call.name
  arguments : String.join (fragments.map Fragment.arguments) = call.arguments

/-- The chunks stream the completion, whose calls have these indices there. -/
structure Completion.IsStreamedBy (completion : Completion) (indexed : List (Nat × CompletedCall))
    (chunks : List Json) : Prop where
  content : String.join (chunks.map Delta.content) = completion.content
  calls : indexed.map Prod.snd = completion.calls
  increasing : (indexed.map Prod.fst).Pairwise (· < ·)
  index_mem : ∀ fragment ∈ chunks.flatMap Delta.fragments,
    ∃ index ∈ indexed.map Prod.fst, Fragment.index? fragment = some index
  isGivenBy : ∀ entry ∈ indexed,
    entry.2.IsGivenBy (fragmentsOf (chunks.flatMap Delta.fragments) entry.1)
  usage : (chunks.filterMap Delta.usage?).getLast? = completion.usage.filter (!·.isNull)

namespace Completion.IsStreamedBy

variable {completion : Completion} {indexed : List (Nat × CompletedCall)} {chunks : List Json}

theorem mem_indices_iff (h : completion.IsStreamedBy indexed chunks) (index : Nat) :
    index ∈ indexed.map Prod.fst ↔ ∃ fragment ∈ chunks.flatMap Delta.fragments,
      Fragment.index? fragment = some index := by
  constructor
  · intro hmem
    obtain ⟨entry, hentry, rfl⟩ := List.mem_map.mp hmem
    obtain ⟨fragment, hfragment⟩ := List.exists_mem_of_ne_nil _ (h.isGivenBy entry hentry).ne_nil
    exact ⟨fragment, by simpa [fragmentsOf] using hfragment⟩
  · rintro ⟨fragment, hmem, hindex⟩
    obtain ⟨i, hi, hfragment⟩ := h.index_mem fragment hmem
    rw [hindex] at hfragment
    exact Option.some.inj hfragment ▸ hi

/-- The calls in the end are those of the completion, in their order. -/
theorem sortedCalls_eq (h : completion.IsStreamedBy indexed chunks) :
    (chunks.foldl Accumulator.addChunk {}).sortedCalls =
      indexed.map fun entry => ⟨entry.1, entry.2.id, entry.2.name, entry.2.arguments⟩ := by
  have hgathered : Gathered (chunks.flatMap Delta.fragments)
      (chunks.foldl Accumulator.addChunk {}).calls := by
    refine Accumulator.gathered_foldl_addChunk fun fragment hmem => ?_
    obtain ⟨index, -, hindex⟩ := h.index_mem fragment hmem
    exact Option.isSome_iff_exists.mpr ⟨index, hindex⟩
  rw [Accumulator.sortedCalls, hgathered.mergeSort_eq h.increasing h.mem_indices_iff, List.map_map]
  refine List.map_congr_left fun entry hentry => ?_
  have hcall := h.isGivenBy entry hentry
  simp only [Function.comp_apply, PendingCall.gather, hcall.id, hcall.name, hcall.arguments]

/-- **Streaming loses nothing.** What is accumulated has the message of the completion. -/
theorem message_eq (h : completion.IsStreamedBy indexed chunks) :
    (chunks.foldl Accumulator.addChunk {}).completion.message = completion.message := by
  have hcontent : (chunks.foldl Accumulator.addChunk {}).content = completion.content := by
    rw [Accumulator.content_foldl_addChunk, h.content, String.empty_append]
  simp only [Accumulator.completion, Completion.message, h.sortedCalls_eq, hcontent, ← h.calls,
    List.map_map, Function.comp_def]

/-- The usage that is accumulated is read like that of the completion. -/
theorem ofResponse_eq (h : completion.IsStreamedBy indexed chunks) :
    Usage.ofResponse (chunks.foldl Accumulator.addChunk {}).toResponse =
      Usage.ofResponse completion.toJson := by
  refine Usage.ofResponse_congr ?_
  rw [Accumulator.get?_usage_toResponse, Accumulator.usage_foldl_addChunk, get?_usage_toJson,
    h.usage, Option.or_none, Option.filter_filter]
  simp

end Completion.IsStreamedBy

end ToolAgent
