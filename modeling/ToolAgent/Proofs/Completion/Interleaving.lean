import Mathlib.Data.Finset.Sort
import ToolAgent.Proofs.Completion.Streaming

/-!
# Interleaved tool calls

If every fragment in some chunks names its call by an index, the response lists one call for each
index, in the order of the indices and made up of the fragments of that index alone
(`Accumulator.sortedCalls_of_indexed`). So it does not matter how the fragments of different calls
are interleaved, nor how they are grouped into chunks (`toolCalls_of_indexed`).
-/

namespace ToolAgent

open Fragment (index?)

/-- What the message of a response lists as its tool calls. -/
def Json.toolCalls? (response : Json) : Option Json :=
  ((response.get? "choices").bind (Json.at? 0) |>.bind (Json.get? "message")).bind
    (Json.get? "tool_calls")

/-- The fragments name their calls by these indices, which increase. -/
structure AreIndexedBy (fragments : List Json) (indices : List Nat) : Prop where
  increasing : indices.Pairwise (· < ·)
  mem_iff : ∀ index, index ∈ indices ↔ ∃ fragment ∈ fragments, index? fragment = some index

theorem exists_areIndexedBy (fragments : List Json) : ∃ indices, AreIndexedBy fragments indices := by
  refine ⟨(fragments.filterMap index?).toFinset.sort, (Finset.sortedLT_sort _).pairwise, ?_⟩
  intro index
  rw [Finset.mem_sort, List.mem_toFinset, List.mem_filterMap]

/-- No other indices are named. -/
theorem AreIndexedBy.unique {fragments : List Json} {indices others : List Nat}
    (h : AreIndexedBy fragments indices) (hothers : AreIndexedBy fragments others) :
    indices = others := by
  apply (List.sortedLT_iff_pairwise.mpr h.increasing).eq_of_mem_iff
    (List.sortedLT_iff_pairwise.mpr hothers.increasing)
  intro index
  exact (h.mem_iff index).trans (hothers.mem_iff index).symm

/-- Fragments of the same indices name their calls by the same indices. -/
theorem AreIndexedBy.of_fragmentsOf_eq {fragments others : List Json} {indices : List Nat}
    (h : AreIndexedBy fragments indices)
    (heq : ∀ index, fragmentsOf others index = fragmentsOf fragments index) :
    AreIndexedBy others indices := by
  refine ⟨h.increasing, fun index => ?_⟩
  have hne (list : List Json) :
      (∃ fragment ∈ list, index? fragment = some index) ↔ fragmentsOf list index ≠ [] := by
    simp [fragmentsOf]
  rw [h.mem_iff, hne, hne, heq]

/-- The call that some fragments make up. -/
def CompletedCall.ofFragments (fragments : List Json) : CompletedCall where
  id := (fragments.filterMap Fragment.id?).getLast?.getD ""
  name := String.join (fragments.map Fragment.name)
  arguments := String.join (fragments.map Fragment.arguments)

namespace Accumulator

theorem toolCalls?_toResponse (acc : Accumulator) :
    acc.toResponse.toolCalls? =
      if acc.sortedCalls = [] then none
      else some (.arr (acc.sortedCalls.map PendingCall.toJson)) := by
  by_cases hcalls : acc.sortedCalls = [] <;>
    simp [Json.toolCalls?, toResponse, Json.at?, hcalls]

variable {chunks : List Json} {indices : List Nat}

/-- The calls in the end, one for each index. -/
theorem sortedCalls_of_indexed
    (h : ∀ fragment ∈ chunks.flatMap Delta.fragments, (index? fragment).isSome)
    (hindices : AreIndexedBy (chunks.flatMap Delta.fragments) indices) :
    (chunks.foldl addChunk {}).sortedCalls = indices.map fun index =>
      PendingCall.gather index (fragmentsOf (chunks.flatMap Delta.fragments) index) :=
  (gathered_foldl_addChunk h).mergeSort_eq hindices.increasing hindices.mem_iff

end Accumulator

/-- **Interleaving does not matter.** If every fragment names its call by an index, the response
lists one call for each index, in the order of the indices. It has the last id among the fragments
of that index, and all of their names and arguments in order of arrival. Chunks with the same
fragments of each index, in whatever order and grouping, give the same list. -/
theorem toolCalls_of_indexed {chunks : List Json}
    (h : ∀ fragment ∈ chunks.flatMap Delta.fragments, (index? fragment).isSome) :
    let fragments := chunks.flatMap Delta.fragments
    let response := (chunks.foldl Accumulator.addChunk {}).toResponse
    (∃ indices, AreIndexedBy fragments indices ∧
      response.toolCalls? = if indices = [] then none else some (.arr (indices.map fun index =>
        (CompletedCall.ofFragments (fragmentsOf fragments index)).toJson))) ∧
    ∀ others : List Json,
      (∀ fragment ∈ others.flatMap Delta.fragments, (index? fragment).isSome) →
      (∀ index, fragmentsOf (others.flatMap Delta.fragments) index =
        fragmentsOf fragments index) →
      (others.foldl Accumulator.addChunk {}).toResponse.toolCalls? = response.toolCalls? := by
  intro fragments response
  obtain ⟨indices, hindices⟩ := exists_areIndexedBy fragments
  have hcalls := Accumulator.sortedCalls_of_indexed h hindices
  constructor
  · refine ⟨indices, hindices, ?_⟩
    rw [Accumulator.toolCalls?_toResponse, hcalls, List.map_map]
    simp only [List.map_eq_nil_iff]
    rfl
  · intro others hothers heq
    have hsame : (others.foldl Accumulator.addChunk {}).sortedCalls =
        (chunks.foldl Accumulator.addChunk {}).sortedCalls := by
      rw [Accumulator.sortedCalls_of_indexed hothers (hindices.of_fragmentsOf_eq heq), hcalls]
      exact List.map_congr_left fun index _ => by rw [heq]
    rw [Accumulator.toolCalls?_toResponse, Accumulator.toolCalls?_toResponse, hsame]

/-- The fragments of two calls, the later index first, that come interleaved or call by call. Some
of them lack an id or have a name that is no text. -/
theorem toolCalls_of_two_orders :
    let fragment (index : UInt64) (members : List (String × Json)) : Json :=
      .object (("index", .ofUInt64 index) :: members)
    let named (name : Json) := ("function", Json.object [("name", name)])
    let argued (text : String) := ("function", Json.object [("arguments", .str text)])
    let last := 0xFFFFFFFFFFFFFFFF
    let a := fragment last [("id", .str "a"), named (.str "f")]
    let b := fragment last [("id", .str "b"), argued "1"]
    let c := fragment 7 [named .null]
    let d := fragment 7 [argued "2"]
    let chunks := [Delta.chunkOf [a, c], Delta.chunkOf [d], Delta.chunkOf [b]]
    let others := [Delta.chunkOf [c], Delta.chunkOf [d, a, b]]
    let response := (chunks.foldl Accumulator.addChunk {}).toResponse
    (∀ fragment ∈ chunks.flatMap Delta.fragments, (index? fragment).isSome) ∧
    AreIndexedBy (chunks.flatMap Delta.fragments) [7, 0xFFFFFFFFFFFFFFFF] ∧
    response.toolCalls? = some (.arr [
      CompletedCall.toJson ⟨"", "", "2"⟩, CompletedCall.toJson ⟨"b", "f", "1"⟩]) ∧
    (others.foldl Accumulator.addChunk {}).toResponse.toolCalls? = response.toolCalls? := by
  intro fragment named argued last a b c d chunks others response
  have hchunks : chunks.flatMap Delta.fragments = [a, c, d, b] := by simp [chunks]
  have hothers : others.flatMap Delta.fragments = [c, d, a, b] := by simp [others]
  have ha : index? a = some 0xFFFFFFFFFFFFFFFF := by decide +kernel
  have hb : index? b = some 0xFFFFFFFFFFFFFFFF := by decide +kernel
  have hc : index? c = some 7 := by decide +kernel
  have hd : index? d = some 7 := by decide +kernel
  have hindexed : ∀ fragment ∈ chunks.flatMap Delta.fragments, (index? fragment).isSome := by
    rw [hchunks]
    simp [ha, hb, hc, hd]
  have hindices : AreIndexedBy (chunks.flatMap Delta.fragments) [7, 0xFFFFFFFFFFFFFFFF] := by
    refine ⟨by decide, fun index => ?_⟩
    rw [hchunks]
    simp only [List.mem_cons, List.not_mem_nil, or_false, exists_eq_or_imp, exists_eq_left, ha, hb,
      hc, hd, Option.some.injEq]
    omega
  obtain ⟨⟨indices, hfound, hlisted⟩, hsame⟩ := toolCalls_of_indexed hindexed
  obtain rfl := hfound.unique hindices
  refine ⟨hindexed, hindices, hlisted.trans (by decide +kernel), hsame others ?_ ?_⟩
  · rw [hothers]
    simp [ha, hb, hc, hd]
  · intro index
    rw [hchunks, hothers]
    obtain rfl | h := eq_or_ne 7 index
    · simp [fragmentsOf, ha, hb, hc, hd]
    · simp [fragmentsOf, List.filter_cons, ha, hb, hc, hd, h]

end ToolAgent
