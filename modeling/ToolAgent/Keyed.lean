/-!
# Sorted association lists

Lists of named entries in the order of their names, each name once. `insert` keeps that shape, and
an entry put in last replaces an earlier one of its name.
-/

namespace ToolAgent.Keyed

variable {α : Type}

def insert (key : String) (value : α) : List (String × α) → List (String × α)
  | [] => [(key, value)]
  | (k, v) :: rest =>
    if key < k then (key, value) :: (k, v) :: rest
    else if key = k then (key, value) :: rest
    else (k, v) :: insert key value rest

/-- The entries in order, the last of each name. -/
def ofList (entries : List (String × α)) : List (String × α) :=
  entries.foldl (fun sorted (k, v) => insert k v sorted) []

/-- The entry of that name. -/
def get? (key : String) (entries : List (String × α)) : Option α :=
  entries.lookup key

def Sorted (entries : List (String × α)) : Prop :=
  (entries.map Prod.fst).Pairwise (· < ·)

theorem sorted_nil : Sorted ([] : List (String × α)) :=
  List.Pairwise.nil

theorem mem_keys_insert {key x : String} {value : α} {entries : List (String × α)}
    (h : x ∈ (insert key value entries).map Prod.fst) : x = key ∨ x ∈ entries.map Prod.fst := by
  induction entries with
  | nil => simpa [insert] using h
  | cons e rest ih =>
    obtain ⟨k, v⟩ := e
    simp only [insert] at h
    split at h
    · simpa using h
    · split at h
      · rename_i hk
        subst hk
        simp only [List.map_cons, List.mem_cons] at h ⊢
        exact h.imp_right .inr
      · simp only [List.map_cons, List.mem_cons] at h ⊢
        rcases h with h | h
        · exact .inr (.inl h)
        · exact (ih h).imp_right .inr

theorem lt_of_not_lt_of_ne {a b : String} (h : ¬ a < b) (hne : a ≠ b) : b < a := by
  have hle : b ≤ a := String.not_lt.mp h
  exact Std.lt_of_le_of_ne hle (Ne.symm hne)

theorem Sorted.insert {entries : List (String × α)} (h : Sorted entries) (key : String)
    (value : α) : Sorted (Keyed.insert key value entries) := by
  induction entries with
  | nil => simp [Sorted, Keyed.insert]
  | cons e rest ih =>
    obtain ⟨k, v⟩ := e
    simp only [Sorted, List.map_cons, List.pairwise_cons] at h
    simp only [Keyed.insert]
    split
    · rename_i hlt
      simp only [Sorted, List.map_cons, List.pairwise_cons]
      refine ⟨?_, h⟩
      intro x hx
      rcases List.mem_cons.mp hx with rfl | hx
      · exact hlt
      · exact String.lt_trans hlt (h.1 x hx)
    · split
      · rename_i hk
        subst hk
        exact List.pairwise_cons.mpr h
      · rename_i hnlt hne
        refine List.pairwise_cons.mpr ⟨?_, ih h.2⟩
        intro x hx
        rcases mem_keys_insert hx with rfl | hx
        · exact lt_of_not_lt_of_ne hnlt hne
        · exact h.1 x hx

theorem sorted_ofList (entries : List (String × α)) : Sorted (ofList entries) := by
  suffices ∀ acc : List (String × α), Sorted acc →
      Sorted (entries.foldl (fun sorted (k, v) => Keyed.insert k v sorted) acc) from
    this [] sorted_nil
  induction entries with
  | nil => exact fun _ h => h
  | cons e rest ih => exact fun acc h => ih _ (h.insert e.1 e.2)

@[simp] theorem get?_nil (name : String) : get? name ([] : List (String × α)) = none := rfl

@[simp] theorem get?_cons (name key : String) (value : α) (entries : List (String × α)) :
    get? name ((key, value) :: entries) = if name = key then some value else get? name entries := by
  by_cases h : name = key
  · simp [get?, h]
  · simp [get?, List.lookup_cons, h, beq_eq_false_iff_ne.mpr h]

theorem get?_insert (name key : String) (value : α) (entries : List (String × α)) :
    get? name (insert key value entries) =
      if name = key then some value else get? name entries := by
  induction entries with
  | nil => exact get?_cons name key value []
  | cons e rest ih =>
    obtain ⟨k, v⟩ := e
    rw [insert]
    split
    · rw [get?_cons name key]
    · split
      · rename_i hk
        subst hk
        rw [get?_cons, get?_cons]
        by_cases hname : name = key <;> simp [hname]
      · rename_i hne
        rw [get?_cons, ih, get?_cons]
        by_cases hname : name = key <;> simp [hname, hne]

/-- Of the entries of one name the last one is found. -/
theorem get?_ofList (name : String) (entries : List (String × α)) :
    get? name (ofList entries) = get? name entries.reverse := by
  have hfold (entries : List (String × α)) :
      get? name (entries.foldr (fun (k, v) sorted => insert k v sorted) []) =
        get? name entries := by
    induction entries with
    | nil => rfl
    | cons e rest ih => rw [List.foldr_cons, get?_insert, ih, get?_cons]
  rw [← hfold entries.reverse, List.foldr_reverse, ofList]

@[simp] theorem get?_append (name : String) (entries more : List (String × α)) :
    get? name (entries ++ more) = (get? name entries).or (get? name more) :=
  List.lookup_append

end ToolAgent.Keyed
