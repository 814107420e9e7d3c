import Mathlib.Data.List.Basic
import ToolAgent.Json.Basic

/-!
# Canonical values

A value is canonical if the members of all its objects are sorted, each name once (`IsCanonical`).
Sorting the members makes any value canonical (`isCanonical_canonical`) and changes none that is so
already (`canonical_eq_iff`). Brackets nest as deep as in the deepest of the values between them.
-/

namespace ToolAgent

namespace Keyed

variable {α : Type}

/-! ## Sorted entries -/

theorem mem_insert {key : String} {value : α} {entries : List (String × α)} {entry : String × α}
    (h : entry ∈ insert key value entries) : entry = (key, value) ∨ entry ∈ entries := by
  induction entries with
  | nil =>
    rw [insert, List.mem_singleton] at h
    exact .inl h
  | cons first rest ih =>
    obtain ⟨k, v⟩ := first
    rw [insert] at h
    split at h
    · exact List.mem_cons.mp h
    · split at h
      · rcases List.mem_cons.mp h with h | h
        · exact .inl h
        · exact .inr (List.mem_cons_of_mem _ h)
      · rcases List.mem_cons.mp h with rfl | h
        · exact .inr List.mem_cons_self
        · exact (ih h).imp_right (List.mem_cons_of_mem _)

/-- Sorting adds no entries. -/
theorem mem_of_mem_ofList {entries : List (String × α)} {entry : String × α}
    (h : entry ∈ ofList entries) : entry ∈ entries := by
  suffices ∀ acc : List (String × α),
      entry ∈ entries.foldl (fun sorted e => insert e.1 e.2 sorted) acc →
        entry ∈ acc ∨ entry ∈ entries by
    rcases this [] h with hnil | hmem
    · simp at hnil
    · exact hmem
  clear h
  intro acc h
  induction entries generalizing acc with
  | nil => exact .inl h
  | cons first rest ih =>
    rcases ih _ h with hacc | hrest
    · rcases mem_insert hacc with rfl | hacc
      · exact .inr List.mem_cons_self
      · exact .inl hacc
    · exact .inr (List.mem_cons_of_mem _ hrest)

theorem get?_eq_none_iff {key : String} {entries : List (String × α)} :
    get? key entries = none ↔ key ∉ entries.map Prod.fst := by
  induction entries with
  | nil => simp
  | cons entry rest ih =>
    rw [get?_cons, List.map_cons, List.mem_cons, not_or, ← ih]
    by_cases hkey : key = entry.1 <;> simp [hkey]

/-- In sorted entries no name is found again behind its entry. -/
theorem Sorted.get?_tail {key : String} {value : α} {entries : List (String × α)}
    (h : Sorted ((key, value) :: entries)) : get? key entries = none := by
  refine get?_eq_none_iff.mpr fun hmem => ?_
  exact String.lt_irrefl key ((List.pairwise_cons.mp h).1 key hmem)

theorem Sorted.tail {entry : String × α} {entries : List (String × α)}
    (h : Sorted (entry :: entries)) : Sorted entries :=
  (List.pairwise_cons.mp h).2

theorem Sorted.get?_eq_some_iff {key : String} {value : α} {entries : List (String × α)}
    (h : Sorted entries) : get? key entries = some value ↔ (key, value) ∈ entries := by
  induction entries with
  | nil => simp
  | cons entry rest ih =>
    obtain ⟨k, v⟩ := entry
    rw [get?_cons, List.mem_cons, Prod.mk.injEq]
    by_cases hkey : key = k
    · subst hkey
      have hrest : (key, value) ∉ rest := fun hmem =>
        String.lt_irrefl key ((List.pairwise_cons.mp h).1 key (List.mem_map_of_mem hmem))
      simp [hrest, eq_comm]
    · simp [hkey, ih h.tail]

/-- An entry whose key is beyond all others is put behind them. -/
theorem insert_eq_append {key : String} {value : α} {entries : List (String × α)}
    (h : ∀ entry ∈ entries, entry.1 < key) : insert key value entries = entries ++ [(key, value)] := by
  induction entries with
  | nil => rfl
  | cons first rest ih =>
    obtain ⟨k, v⟩ := first
    obtain ⟨hk, hrest⟩ := List.forall_mem_cons.mp h
    have hnot : ¬ key < k := String.lt_asymm hk
    have hne : key ≠ k := fun heq => String.lt_irrefl k (heq ▸ hk)
    rw [insert, if_neg hnot, if_neg hne, ih hrest]
    rfl

/-- Sorting leaves sorted entries alone. -/
theorem ofList_eq_self {entries : List (String × α)} (h : Sorted entries) :
    ofList entries = entries := by
  suffices ∀ acc : List (String × α), Sorted (acc ++ entries) →
      entries.foldl (fun sorted e => insert e.1 e.2 sorted) acc = acc ++ entries from
    this [] h
  clear h
  intro acc h
  induction entries generalizing acc with
  | nil => exact (List.append_nil acc).symm
  | cons first rest ih =>
    obtain ⟨k, v⟩ := first
    have hbefore : ∀ entry ∈ acc, entry.1 < k := by
      intro entry hentry
      rw [Sorted, List.map_append, List.pairwise_append] at h
      exact h.2.2 entry.1 (List.mem_map_of_mem hentry) k List.mem_cons_self
    simp only [List.foldl_cons, insert_eq_append hbefore]
    rw [ih (acc ++ [(k, v)]) (by simpa using h), List.append_assoc]
    rfl

end Keyed

namespace Json

/-! ## Canonical values -/

/-- The members of every object are sorted by name, each name once. -/
inductive IsCanonical : Json → Prop where
  | null : IsCanonical null
  | bool (b : Bool) : IsCanonical (bool b)
  | num (n : Number) : IsCanonical (num n)
  | str (s : String) : IsCanonical (str s)
  | arr {items : List Json} (h : ∀ v ∈ items, IsCanonical v) : IsCanonical (arr items)
  | obj {members : List (String × Json)} (hsorted : Keyed.Sorted members)
      (h : ∀ entry ∈ members, IsCanonical entry.2) : IsCanonical (obj members)

theorem isCanonical_object {members : List (String × Json)}
    (h : ∀ entry ∈ members, IsCanonical entry.2) : IsCanonical (object members) :=
  .obj (Keyed.sorted_ofList members) fun entry hentry => h entry (Keyed.mem_of_mem_ofList hentry)

/-- The values between the brackets of a value. -/
def parts : Json → List Json
  | arr items => items
  | obj members => members.map Prod.snd
  | _ => []

theorem IsCanonical.of_mem_parts {v part : Json} (h : IsCanonical v) (hpart : part ∈ v.parts) :
    IsCanonical part := by
  cases h with
  | null | bool | num | str => cases hpart
  | arr h => exact h part hpart
  | obj _ h =>
    obtain ⟨entry, hentry, rfl⟩ := List.mem_map.mp hpart
    exact h entry hentry

theorem canonicalItems_eq_map (items : List Json) : canonicalItems items = items.map canonical := by
  induction items with
  | nil => rfl
  | cons v rest ih => rw [canonicalItems, ih, List.map_cons]

theorem canonicalMembers_eq_map (members : List (String × Json)) :
    canonicalMembers members = members.map fun entry => (entry.1, canonical entry.2) := by
  induction members with
  | nil => rfl
  | cons entry rest ih => rw [canonicalMembers, ih, List.map_cons]

theorem IsCanonical.canonical_eq {v : Json} (h : IsCanonical v) : canonical v = v := by
  induction h with
  | null | bool | num | str => rfl
  | @arr items _ ih =>
    rw [canonical, canonicalItems_eq_map, List.map_congr_left ih, List.map_id']
  | @obj members hsorted _ ih =>
    have hmembers : members.map (fun entry => (entry.1, canonical entry.2)) = members := by
      rw [List.map_congr_left fun entry hentry => by rw [ih entry hentry], List.map_id']
    rw [canonical, canonicalMembers_eq_map, hmembers, object, Keyed.ofList_eq_self hsorted]

mutual

theorem isCanonical_canonical : ∀ v : Json, IsCanonical (canonical v)
  | null => .null
  | bool b => .bool b
  | num n => .num n
  | str s => .str s
  | arr items => .arr (isCanonical_of_mem_canonicalItems items)
  | obj members => isCanonical_object (isCanonical_of_mem_canonicalMembers members)

theorem isCanonical_of_mem_canonicalItems : ∀ items : List Json,
    ∀ v ∈ canonicalItems items, IsCanonical v
  | [] => fun _ hmem => absurd hmem (by simp [canonicalItems])
  | v :: rest => List.forall_mem_cons.mpr
      ⟨isCanonical_canonical v, isCanonical_of_mem_canonicalItems rest⟩

theorem isCanonical_of_mem_canonicalMembers : ∀ members : List (String × Json),
    ∀ entry ∈ canonicalMembers members, IsCanonical entry.2
  | [] => fun _ hmem => absurd hmem (by simp [canonicalMembers])
  | (_, v) :: rest => List.forall_mem_cons.mpr
      ⟨isCanonical_canonical v, isCanonical_of_mem_canonicalMembers rest⟩

end

theorem canonical_eq_iff {v : Json} : canonical v = v ↔ IsCanonical v := by
  constructor
  · intro h
    exact h ▸ isCanonical_canonical v
  · intro h
    exact h.canonical_eq

instance : DecidablePred IsCanonical := fun _ => decidable_of_iff _ canonical_eq_iff

/-! ## Members -/

theorem get?_reverse_eq_some_iff {α : Type} {key : String} {entries : List (String × α)} {a : α} :
    Keyed.get? key entries.reverse = some a ↔
      ∃ before after, entries = before ++ (key, a) :: after ∧ ∀ entry ∈ after, entry.1 ≠ key := by
  rw [Keyed.get?, List.lookup_eq_some_iff]
  constructor
  · rintro ⟨after, before, hentries, hafter⟩
    refine ⟨before.reverse, after.reverse, ?_, ?_⟩
    · rw [← List.reverse_reverse entries, hentries]
      simp
    · intro entry hentry
      exact (bne_iff_ne.mp (hafter entry (List.mem_reverse.mp hentry))).symm
  · rintro ⟨before, after, rfl, hafter⟩
    refine ⟨after.reverse, before.reverse, by simp, ?_⟩
    intro entry hentry
    exact bne_iff_ne.mpr (hafter entry (List.mem_reverse.mp hentry)).symm

/-- In an object in canonical form the last member of each name is found. -/
theorem get?_canonical_obj (key : String) (members : List (String × Json)) :
    (canonical (.obj members)).get? key = (Keyed.get? key members.reverse).map canonical := by
  rw [canonical, get?_object, canonicalMembers_eq_map, ← List.map_reverse]
  induction members.reverse with
  | nil => rfl
  | cons entry entries ih =>
    rw [List.map_cons, Keyed.get?_cons, ih, Keyed.get?_cons]
    split <;> rfl

theorem canonical_eq_str_iff {v : Json} {s : String} : canonical v = .str s ↔ v = .str s := by
  cases v <;> simp [canonical, object]

/-! ## Depth -/

theorem depthItems_le_iff {items : List Json} {n : Nat} :
    depthItems items ≤ n ↔ ∀ v ∈ items, depth v ≤ n := by
  induction items with
  | nil => simp [depthItems]
  | cons v rest ih => rw [depthItems, Nat.max_le, ih, List.forall_mem_cons]

theorem depthMembers_le_iff {members : List (String × Json)} {n : Nat} :
    depthMembers members ≤ n ↔ ∀ entry ∈ members, depth entry.2 ≤ n := by
  induction members with
  | nil => simp [depthMembers]
  | cons entry rest ih => rw [depthMembers, Nat.max_le, ih, List.forall_mem_cons]

theorem depth_object_le {members : List (String × Json)} {n : Nat}
    (h : ∀ entry ∈ members, depth entry.2 ≤ n) : depth (object members) ≤ n + 1 := by
  have hmembers : depthMembers (Keyed.ofList members) ≤ n :=
    depthMembers_le_iff.mpr fun entry hentry => h entry (Keyed.mem_of_mem_ofList hentry)
  rw [object, depth]
  exact Nat.succ_le_succ hmembers

end Json

end ToolAgent
