import Mathlib.Data.List.Sort
import ToolAgent.Completion.Accumulator

/-!
# Gathering tool calls

The fragments of a streamed tool call name their call by an index, and the fragments of several
calls may come in any order. `Gathered` says what an accumulator holds after any number of them: one
call for each index, made up of the fragments of that index alone. Every fragment preserves it
(`Gathered.add`), so the calls do not depend on how the fragments of different calls are
interleaved, and their order in the end is that of the indices (`Gathered.mergeSort_eq`).
-/

namespace ToolAgent

/-! ## Fragments -/

namespace Fragment

variable (fragment : Json)

/-- The index that the fragment gives itself. -/
def index? : Option Nat := (fragment.get? "index").bind Json.asNat?

def id? : Option String := fragment.getString? "id"

def name : String := ((fragment.getD "function").getString? "name").getD ""

def arguments : String := ((fragment.getD "function").getString? "arguments").getD ""

end Fragment

open Fragment (index?)

namespace PendingCall

/-- The call that the fragments of one index make up: the last id, and all of the name and the
arguments. -/
def gather (index : Nat) (fragments : List Json) : PendingCall where
  index := index
  id := (fragments.filterMap Fragment.id?).getLast?.getD ""
  name := String.join (fragments.map Fragment.name)
  arguments := String.join (fragments.map Fragment.arguments)

@[simp] theorem index_add (call : PendingCall) (fragment : Json) :
    (call.add fragment).index = call.index := rfl

theorem gather_append_singleton (index : Nat) (fragments : List Json) (fragment : Json) :
    gather index (fragments ++ [fragment]) = (gather index fragments).add fragment := by
  have hid : ((fragments ++ [fragment]).filterMap Fragment.id?).getLast?.getD "" =
      (Fragment.id? fragment).getD ((fragments.filterMap Fragment.id?).getLast?.getD "") := by
    cases h : Fragment.id? fragment <;> simp [h]
  simp only [gather, hid, List.map_append, String.join_append]
  simp [add, Fragment.id?, Fragment.name, Fragment.arguments]

end PendingCall

open PendingCall (gather)

namespace Accumulator

variable {index : Nat} {fragment : Json} {calls : List PendingCall}

theorem indexOf_of_index? (h : index? fragment = some index) :
    indexOf calls fragment = index := by
  rw [index?] at h
  rw [indexOf, h, Option.getD_some]

theorem addFragment_of_index? (h : index? fragment = some index) :
    addFragment calls fragment = addTo index fragment calls := by
  rw [addFragment, indexOf_of_index? h]

theorem map_index_addTo (index : Nat) (fragment : Json) (calls : List PendingCall) :
    (addTo index fragment calls).map PendingCall.index =
      if index ∈ calls.map PendingCall.index then calls.map PendingCall.index
      else calls.map PendingCall.index ++ [index] := by
  induction calls with
  | nil => rfl
  | cons call calls ih =>
    rw [addTo]
    by_cases hcall : call.index = index
    · simp [hcall]
    · rw [if_neg hcall, List.map_cons, ih]
      by_cases hmem : index ∈ calls.map PendingCall.index
      · simp [hmem]
      · simp [hmem, Ne.symm hcall]

theorem mem_map_index_addTo {i : Nat} :
    i ∈ (addTo index fragment calls).map PendingCall.index ↔
      i ∈ calls.map PendingCall.index ∨ i = index := by
  rw [map_index_addTo]
  split
  · rename_i hmem
    refine ⟨.inl, ?_⟩
    rintro (hi | rfl)
    · exact hi
    · exact hmem
  · rw [List.mem_append, List.mem_singleton]

theorem nodup_addTo (h : (calls.map PendingCall.index).Nodup) (index : Nat) (fragment : Json) :
    ((addTo index fragment calls).map PendingCall.index).Nodup := by
  rw [map_index_addTo]
  split
  · exact h
  · rename_i hnew
    rw [← List.concat_eq_append]
    exact h.concat hnew

/-- A call after a fragment was added is an old one of another index, or the one of that index with
the fragment added to it, or a new one. -/
theorem mem_addTo {call : PendingCall} (hnodup : (calls.map PendingCall.index).Nodup)
    (h : call ∈ addTo index fragment calls) :
    (call ∈ calls ∧ call.index ≠ index) ∨
    (∃ old ∈ calls, old.index = index ∧ call = old.add fragment) ∨
    (index ∉ calls.map PendingCall.index ∧ call = ({ index } : PendingCall).add fragment) := by
  induction calls with
  | nil =>
    obtain rfl : call = ({ index } : PendingCall).add fragment := by simpa [addTo] using h
    exact .inr (.inr ⟨by simp, rfl⟩)
  | cons head calls ih =>
    obtain ⟨hhead, hnodup⟩ := List.nodup_cons.mp hnodup
    rw [addTo] at h
    by_cases hindex : head.index = index
    · rw [if_pos hindex] at h
      obtain rfl | hmem := List.mem_cons.mp h
      · exact .inr (.inl ⟨head, by simp, hindex, rfl⟩)
      · refine .inl ⟨by simp [hmem], ?_⟩
        rintro rfl
        exact hhead (hindex ▸ List.mem_map_of_mem hmem)
    · rw [if_neg hindex] at h
      obtain rfl | hmem := List.mem_cons.mp h
      · exact .inl ⟨by simp, hindex⟩
      · obtain ⟨hold, hne⟩ | ⟨old, hold, heq, rfl⟩ | ⟨hnew, rfl⟩ := ih hnodup hmem
        · exact .inl ⟨by simp [hold], hne⟩
        · exact .inr (.inl ⟨old, by simp [hold], heq, rfl⟩)
        · exact .inr (.inr ⟨by simpa [Ne.symm hindex] using hnew, rfl⟩)

end Accumulator

/-! ## The calls of many fragments -/

/-- The fragments of a call, in the order in which they came. -/
def fragmentsOf (fragments : List Json) (index : Nat) : List Json :=
  fragments.filter fun fragment => index? fragment = some index

theorem fragmentsOf_append_self {index : Nat} {fragment : Json} (h : index? fragment = some index)
    (fragments : List Json) :
    fragmentsOf (fragments ++ [fragment]) index = fragmentsOf fragments index ++ [fragment] := by
  simp [fragmentsOf, h]

theorem fragmentsOf_append_of_ne {index : Nat} {fragment : Json}
    (h : index? fragment ≠ some index) (fragments : List Json) :
    fragmentsOf (fragments ++ [fragment]) index = fragmentsOf fragments index := by
  simp [fragmentsOf, h]

/-- The calls are those of the fragments, one for each index. -/
structure Gathered (fragments : List Json) (calls : List PendingCall) : Prop where
  nodup : (calls.map PendingCall.index).Nodup
  mem_iff : ∀ index, index ∈ calls.map PendingCall.index ↔
    ∃ fragment ∈ fragments, index? fragment = some index
  eq_gather : ∀ call ∈ calls, call = gather call.index (fragmentsOf fragments call.index)

namespace Gathered

open Accumulator (addFragment addTo)

variable {fragments : List Json} {calls : List PendingCall}

theorem nil : Gathered [] [] := ⟨by simp, by simp, by simp⟩

theorem fragmentsOf_eq_nil (h : Gathered fragments calls) {index : Nat}
    (hnew : index ∉ calls.map PendingCall.index) : fragmentsOf fragments index = [] := by
  refine List.filter_eq_nil_iff.mpr fun fragment hmem => ?_
  simp only [decide_eq_true_eq]
  exact fun hindex => hnew ((h.mem_iff index).mpr ⟨fragment, hmem, hindex⟩)

/-- One more fragment. -/
theorem add {index : Nat} {fragment : Json} (h : Gathered fragments calls)
    (hindex : index? fragment = some index) :
    Gathered (fragments ++ [fragment]) (addTo index fragment calls) := by
  refine ⟨Accumulator.nodup_addTo h.nodup index fragment, fun i => ?mem_iff,
    fun call hcall => ?eq_gather⟩
  case mem_iff =>
    rw [Accumulator.mem_map_index_addTo, h.mem_iff]
    constructor
    · rintro (⟨f, hf, hi⟩ | rfl)
      · exact ⟨f, by simp [hf], hi⟩
      · exact ⟨fragment, by simp, hindex⟩
    · rintro ⟨f, hf, hi⟩
      obtain hf | rfl := (by simpa using hf : f ∈ fragments ∨ f = fragment)
      · exact .inl ⟨f, hf, hi⟩
      · exact .inr (Option.some.inj (hi.symm.trans hindex))
  case eq_gather =>
    obtain ⟨hold, hne⟩ | ⟨old, hold, heq, rfl⟩ | ⟨hnew, rfl⟩ := Accumulator.mem_addTo h.nodup hcall
    · rw [fragmentsOf_append_of_ne (by rw [hindex]; simpa using hne.symm)]
      exact h.eq_gather call hold
    · subst heq
      rw [PendingCall.index_add, fragmentsOf_append_self hindex,
        PendingCall.gather_append_singleton, ← h.eq_gather old hold]
    · rw [PendingCall.index_add, fragmentsOf_append_self hindex, h.fragmentsOf_eq_nil hnew,
        PendingCall.gather_append_singleton]
      rfl

/-- Any number of fragments. -/
theorem foldl (h : Gathered fragments calls) {more : List Json}
    (hmore : ∀ fragment ∈ more, (index? fragment).isSome) :
    Gathered (fragments ++ more) (more.foldl addFragment calls) := by
  induction more generalizing fragments calls with
  | nil => simpa using h
  | cons fragment more ih =>
    obtain ⟨hfragment, hmore⟩ := List.forall_mem_cons.mp hmore
    obtain ⟨index, hindex⟩ := Option.isSome_iff_exists.mp hfragment
    rw [List.foldl_cons, Accumulator.addFragment_of_index? hindex, List.append_cons]
    exact ih (h.add hindex) hmore

theorem of_perm {calls' : List PendingCall} (h : Gathered fragments calls)
    (hperm : calls'.Perm calls) : Gathered fragments calls' where
  nodup := (hperm.map PendingCall.index).nodup_iff.mpr h.nodup
  mem_iff index := (hperm.map PendingCall.index).mem_iff.trans (h.mem_iff index)
  eq_gather call hcall := h.eq_gather call (hperm.mem_iff.mp hcall)

/-- The indices of the fragments say in which order the calls are in the end. -/
theorem mergeSort_eq (h : Gathered fragments calls) {indices : List Nat}
    (hlt : indices.Pairwise (· < ·))
    (hmem : ∀ index, index ∈ indices ↔ ∃ fragment ∈ fragments, index? fragment = some index) :
    calls.mergeSort (fun a b => a.index ≤ b.index) =
      indices.map fun index => gather index (fragmentsOf fragments index) := by
  set sorted := calls.mergeSort fun a b => a.index ≤ b.index with hsorted
  have hgathered : Gathered fragments sorted := h.of_perm (List.mergeSort_perm calls _)
  have hle : (sorted.map PendingCall.index).Pairwise (· ≤ ·) := by
    refine List.pairwise_map.mpr ?_
    have hsort := @List.pairwise_mergeSort _ (fun a b : PendingCall => a.index ≤ b.index)
      (fun a b c hab hbc => by simp only [decide_eq_true_eq] at hab hbc ⊢; omega)
      (fun a b => by simpa using Nat.le_total a.index b.index) calls
    simpa using hsort
  have hindices : sorted.map PendingCall.index = indices := by
    have hperm : (sorted.map PendingCall.index).Perm indices :=
      (List.perm_ext_iff_of_nodup hgathered.nodup (hlt.imp Nat.ne_of_lt)).mpr fun index =>
        (hgathered.mem_iff index).trans (hmem index).symm
    exact hperm.eq_of_pairwise (fun _ _ _ _ => Nat.le_antisymm) hle (hlt.imp Nat.le_of_lt)
  rw [← hindices, List.map_map]
  exact (List.map_id sorted).symm.trans (List.map_congr_left hgathered.eq_gather)

end Gathered

end ToolAgent
