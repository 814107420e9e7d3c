import ToolAgent.Proofs.Completion.Streaming

/-!
# Fragments without an index

A fragment that names no index goes to the call whose index is the number of calls so far. Such an
index is free unless an earlier fragment has named it (`Accounts.length_notMem_iff`), so the fragment
begins a call of its own in a stream that numbers its calls one after the other (`CountsUp`), but it
is added to another call where the indices leave a gap (`Accumulator.addFragment_of_no_index`).
-/

namespace ToolAgent

open Fragment (index?)
open PendingCall (gather)

/-- No fragment names its call by that index. -/
def IsUnnamed (index : Nat) (fragments : List Json) : Prop :=
  ∀ fragment ∈ fragments, index? fragment ≠ some index

namespace Accumulator

variable {index : Nat} {calls : List PendingCall}

theorem indexOf_of_no_index {fragment : Json} (h : index? fragment = none)
    (calls : List PendingCall) : indexOf calls fragment = calls.length := by
  rw [index?] at h
  rw [indexOf, h, Option.getD_none]

theorem length_addTo (index : Nat) (fragment : Json) (calls : List PendingCall) :
    (addTo index fragment calls).length =
      if index ∈ calls.map PendingCall.index then calls.length else calls.length + 1 := by
  have hlength := congrArg List.length (map_index_addTo index fragment calls)
  rw [List.length_map] at hlength
  rw [hlength]
  split <;> simp

theorem length_le_length_addTo (index : Nat) (fragment : Json) (calls : List PendingCall) :
    calls.length ≤ (addTo index fragment calls).length := by
  rw [length_addTo]
  split <;> omega

/-- A fragment of a new index begins a call behind all others. -/
theorem addTo_of_notMem (h : index ∉ calls.map PendingCall.index) (fragment : Json) :
    addTo index fragment calls = calls ++ [gather index [fragment]] := by
  induction calls with
  | nil => exact congrArg ([·]) (PendingCall.gather_append_singleton index [] fragment).symm
  | cons call calls ih =>
    rw [List.map_cons, List.mem_cons, not_or] at h
    rw [addTo, if_neg (Ne.symm h.1), ih h.2, List.cons_append]

/-- A fragment of an old index changes the call of that index and no other. -/
theorem exists_addTo_of_mem (h : index ∈ calls.map PendingCall.index) (fragment : Json) :
    ∃ before call after, calls = before ++ call :: after ∧ call.index = index ∧
      addTo index fragment calls = before ++ call.add fragment :: after := by
  induction calls with
  | nil => simp at h
  | cons first calls ih =>
    rw [addTo]
    by_cases hfirst : first.index = index
    · exact ⟨[], first, calls, rfl, hfirst, if_pos hfirst⟩
    · rw [List.map_cons, List.mem_cons] at h
      obtain ⟨before, call, after, rfl, hcall, hadd⟩ := ih (h.resolve_left (Ne.symm hfirst))
      exact ⟨first :: before, call, after, rfl, hcall, by rw [if_neg hfirst, hadd]; rfl⟩

end Accumulator

/-! ## Indices of calls -/

/-- The calls have all indices that the fragments name, and of other indices only small ones. -/
structure Accounts (fragments : List Json) (calls : List PendingCall) : Prop where
  mem_of_index? : ∀ fragment ∈ fragments, ∀ index, index? fragment = some index →
    index ∈ calls.map PendingCall.index
  lt_of_isUnnamed : ∀ index ∈ calls.map PendingCall.index, IsUnnamed index fragments →
    index < calls.length

namespace Accounts

open Accumulator (addFragment addTo indexOf)

variable {fragments : List Json} {calls : List PendingCall}

theorem nil : Accounts [] [] := ⟨by simp, by simp⟩

/-- One more fragment. -/
theorem add (h : Accounts fragments calls) (fragment : Json) :
    Accounts (fragments ++ [fragment]) (addFragment calls fragment) := by
  constructor
  · intro other hother index hindex
    rw [addFragment, Accumulator.mem_map_index_addTo]
    obtain hother | rfl := (by simpa using hother : other ∈ fragments ∨ other = fragment)
    · exact .inl (h.mem_of_index? other hother index hindex)
    · exact .inr (Accumulator.indexOf_of_index? hindex).symm
  · intro index hmem hunnamed
    have hbefore : IsUnnamed index fragments := fun other hother =>
      hunnamed other (List.mem_append_left _ hother)
    have hlast : index? fragment ≠ some index :=
      hunnamed fragment (List.mem_append_right _ (List.mem_singleton_self _))
    by_cases hold : index ∈ calls.map PendingCall.index
    · exact (h.lt_of_isUnnamed index hold hbefore).trans_le
        (Accumulator.length_le_length_addTo _ fragment calls)
    · -- the fragment has begun this call, but does not name its index
      obtain rfl : index = indexOf calls fragment :=
        (Accumulator.mem_map_index_addTo.mp hmem).resolve_left hold
      rw [addFragment, Accumulator.length_addTo, if_neg hold]
      cases hown : index? fragment with
      | none =>
        rw [Accumulator.indexOf_of_no_index hown]
        exact Nat.lt_succ_self _
      | some index => exact absurd (Accumulator.indexOf_of_index? hown ▸ hown) hlast

/-- Any number of fragments. -/
theorem foldl (h : Accounts fragments calls) (more : List Json) :
    Accounts (fragments ++ more) (more.foldl addFragment calls) := by
  induction more generalizing fragments calls with
  | nil => simpa using h
  | cons fragment more ih =>
    rw [List.foldl_cons, List.append_cons]
    exact ih (h.add fragment)

/-- The number of calls is the index of a call only if a fragment has named it. -/
theorem length_notMem_iff (h : Accounts fragments calls) :
    calls.length ∉ calls.map PendingCall.index ↔ IsUnnamed calls.length fragments := by
  constructor
  · intro hnew fragment hmem hindex
    exact hnew (h.mem_of_index? fragment hmem _ hindex)
  · intro hunnamed hmem
    exact Nat.lt_irrefl _ (h.lt_of_isUnnamed _ hmem hunnamed)

end Accounts

/-! ## Calls in the order of their numbers -/

/-- The fragments number `n` calls one after the other: each names a call that has begun, or begins
the next one, for which it need not name the index. -/
inductive CountsUp : List Json → Nat → Prop where
  | nil : CountsUp [] 0
  | next {fragments : List Json} {n : Nat} {fragment : Json} (h : CountsUp fragments n)
      (hindex : index? fragment = none ∨ index? fragment = some n) :
      CountsUp (fragments ++ [fragment]) (n + 1)
  | again {fragments : List Json} {n index : Nat} {fragment : Json} (h : CountsUp fragments n)
      (hindex : index? fragment = some index) (hlt : index < n) :
      CountsUp (fragments ++ [fragment]) n

namespace CountsUp

variable {fragments : List Json} {n : Nat}

theorem map_index_eq (h : CountsUp fragments n) :
    (fragments.foldl Accumulator.addFragment []).map PendingCall.index = List.range n := by
  induction h with
  | nil => rfl
  | @next fragments n fragment _ hindex ih =>
    have hlength : (fragments.foldl Accumulator.addFragment []).length = n := by
      simpa using congrArg List.length ih
    have hn : Accumulator.indexOf (fragments.foldl Accumulator.addFragment []) fragment = n := by
      obtain hnone | hsome := hindex
      · rw [Accumulator.indexOf_of_no_index hnone, hlength]
      · exact Accumulator.indexOf_of_index? hsome
    rw [List.foldl_append, List.foldl_cons, List.foldl_nil, Accumulator.addFragment, hn,
      Accumulator.map_index_addTo, ih, if_neg List.not_mem_range_self, List.range_succ]
  | @again fragments n index fragment _ hindex hlt ih =>
    rw [List.foldl_append, List.foldl_cons, List.foldl_nil,
      Accumulator.addFragment_of_index? hindex, Accumulator.map_index_addTo, ih,
      if_pos (List.mem_range.mpr hlt)]

theorem length_eq (h : CountsUp fragments n) :
    (fragments.foldl Accumulator.addFragment []).length = n := by
  simpa using congrArg List.length h.map_index_eq

/-- The next index is free. -/
theorem isUnnamed (h : CountsUp fragments n) : IsUnnamed n fragments := by
  have haccounts : Accounts fragments (fragments.foldl Accumulator.addFragment []) :=
    Accounts.nil.foldl fragments
  have hfree := haccounts.length_notMem_iff
  rw [h.map_index_eq, h.length_eq] at hfree
  exact hfree.mp List.not_mem_range_self

end CountsUp

namespace Accumulator

/-- **Fragments without an index.** After any chunks, a fragment that names no index leaves all
calls as they are and begins one more, made up of this fragment alone, exactly if no fragment before
it has named the number of calls as its index. If one has, the fragment is added to the call of that
index. In a stream that numbers its calls one after the other the next index is always free. -/
theorem addFragment_of_no_index (chunks : List Json) {fragment : Json}
    (h : index? fragment = none) :
    let earlier := chunks.flatMap Delta.fragments
    let calls := (chunks.foldl addChunk {}).calls
    ((∃ call, addFragment calls fragment = calls ++ [call]) ↔ IsUnnamed calls.length earlier) ∧
    (IsUnnamed calls.length earlier →
      addFragment calls fragment = calls ++ [gather calls.length [fragment]]) ∧
    (¬ IsUnnamed calls.length earlier →
      ∃ before call after, calls = before ++ call :: after ∧ call.index = calls.length ∧
        addFragment calls fragment = before ++ call.add fragment :: after) ∧
    ∀ n, CountsUp earlier n → calls.length = n ∧ IsUnnamed calls.length earlier := by
  intro earlier calls
  have hcalls : calls = earlier.foldl addFragment [] := calls_foldl_addChunk {} chunks
  have haccounts : Accounts earlier calls := hcalls ▸ Accounts.nil.foldl earlier
  have hadd : addFragment calls fragment = addTo calls.length fragment calls := by
    rw [addFragment, indexOf_of_no_index h]
  have hnew (hunnamed : IsUnnamed calls.length earlier) :
      addFragment calls fragment = calls ++ [gather calls.length [fragment]] := by
    rw [hadd]
    exact addTo_of_notMem (haccounts.length_notMem_iff.mpr hunnamed) fragment
  have hold (hnamed : ¬ IsUnnamed calls.length earlier) :
      calls.length ∈ calls.map PendingCall.index := by
    by_contra hfree
    exact hnamed (haccounts.length_notMem_iff.mp hfree)
  refine ⟨⟨?alone, fun hunnamed => ⟨_, hnew hunnamed⟩⟩, hnew, ?merged, ?counted⟩
  case alone =>
    rintro ⟨call, hcall⟩
    by_contra hnamed
    have hlength := congrArg List.length hcall
    rw [hadd, length_addTo, if_pos (hold hnamed), List.length_append, List.length_singleton]
      at hlength
    omega
  case merged =>
    intro hnamed
    obtain ⟨before, call, after, hsplit, hindex, hchanged⟩ :=
      exists_addTo_of_mem (hold hnamed) fragment
    exact ⟨before, call, after, hsplit, hindex, hadd.trans hchanged⟩
  case counted =>
    intro n hcounts
    have hlength : calls.length = n := hcalls ▸ hcounts.length_eq
    exact ⟨hlength, hlength ▸ hcounts.isUnnamed⟩

/-- A fragment of a call that begins. -/
def opening (index : List (String × Json)) (id name : String) : Json :=
  .object (index ++ [("id", .str id), ("function", .object [("name", .str name)])])

/-- A third call in a stream that names the index of its first call only. -/
theorem addFragment_of_third_call :
    let chunks := [
      Delta.chunkOf [opening [("index", .ofUInt32 0)] "a" "f", opening [] "b" "g"],
      Delta.chunkOf [.object [("index", .ofUInt32 0)]]]
    let calls := (chunks.foldl addChunk {}).calls
    let fragment := opening [("index", .str "2")] "c" "h"
    index? fragment = none ∧ CountsUp (chunks.flatMap Delta.fragments) 2 ∧
      calls = [⟨0, "a", "f", ""⟩, ⟨1, "b", "g", ""⟩] ∧
      addFragment calls fragment = calls ++ [⟨2, "c", "h", ""⟩] := by
  intro chunks calls fragment
  have hnone : index? fragment = none := by decide +kernel
  have hcounts : CountsUp (chunks.flatMap Delta.fragments) 2 :=
    .again (.next (.next .nil (.inr (by decide +kernel))) (.inl (by decide +kernel)))
      (show index? (.object [("index", .ofUInt32 0)]) = some 0 by decide +kernel) Nat.zero_lt_two
  obtain ⟨-, hnew, -, hcounted⟩ := addFragment_of_no_index chunks hnone
  obtain ⟨hlength, hunnamed⟩ := hcounted 2 hcounts
  refine ⟨hnone, hcounts, by decide +kernel, ?_⟩
  have hgather : gather calls.length [fragment] = ⟨2, "c", "h", ""⟩ := by
    rw [hlength]
    decide +kernel
  rw [← hgather]
  exact hnew hunnamed

/-- A second call in a stream whose first call has the index one. Its fragment is added to the first
call, which loses its id. -/
theorem addFragment_ne_of_gap :
    let chunks := [Delta.chunkOf [opening [("index", .ofUInt32 1)] "a" "f"]]
    let calls := (chunks.foldl addChunk {}).calls
    let fragment := opening [] "b" "g"
    index? fragment = none ∧ calls = [⟨1, "a", "f", ""⟩] ∧
      addFragment calls fragment = [⟨1, "b", "fg", ""⟩] ∧
      ¬ ∃ call, addFragment calls fragment = calls ++ [call] := by
  intro chunks calls fragment
  have hcalls : calls = [⟨1, "a", "f", ""⟩] := by decide +kernel
  have hmerged : addFragment calls fragment = [⟨1, "b", "fg", ""⟩] := by decide +kernel
  refine ⟨by decide +kernel, hcalls, hmerged, ?_⟩
  rintro ⟨call, hcall⟩
  rw [hmerged, hcalls] at hcall
  simp at hcall

end Accumulator

end ToolAgent
