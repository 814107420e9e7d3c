import ToolAgent.Proofs.Json.Canonical
import ToolAgent.Json.Decoder

/-!
# Values of a known type

What a decoder makes of a list or an object is made of what it makes of the values in it. The list
decoder gives back a list whose elements it can read back (`Decoder.fit_list_map`), and so does the
decoder of objects (`Decoder.fit_members_map`). Each field of a record holds a default, or what its
decoder makes of one of the values of the object or array (`Fields.Comes`). A record whose members
are known by name is read from them in whatever order they come (`Decoder.fit_record_object`).
-/

namespace ToolAgent.Json

variable {α β τ σ : Type}

namespace Decoder

/-! ## Lists and objects -/

theorem mapM_map_eq_ok {f : β → Except Misfit α} {g : α → β} {as : List α}
    (h : ∀ a ∈ as, f (g a) = .ok a) : (as.map g).mapM f = .ok as := by
  induction as with
  | nil => rfl
  | cons a as ih =>
    obtain ⟨ha, has⟩ := List.forall_mem_cons.mp h
    rw [List.map_cons, List.mapM_cons, ha, ih has]
    rfl

theorem exists_of_mem_of_mapM_eq_ok {f : β → Except Misfit α} {bs : List β} {as : List α}
    (h : bs.mapM f = .ok as) {a : α} (ha : a ∈ as) : ∃ b ∈ bs, f b = .ok a := by
  induction bs generalizing as with
  | nil =>
    cases h
    cases ha
  | cons b bs ih =>
    rw [List.mapM_cons] at h
    obtain ⟨first, hfirst, h⟩ := bind_eq_ok_iff.mp h
    obtain ⟨others, hothers, h⟩ := bind_eq_ok_iff.mp h
    obtain rfl : first :: others = as := Except.ok.inj h
    rcases List.mem_cons.mp ha with rfl | ha
    · exact ⟨b, List.mem_cons_self, hfirst⟩
    · obtain ⟨b', hmem, hb'⟩ := ih hothers ha
      exact ⟨b', List.mem_cons_of_mem _ hmem, hb'⟩

theorem fit_list_map {d : Decoder α} {toJson : α → Json} {as : List α}
    (h : ∀ a ∈ as, d.fit (toJson a) = .ok a) : d.list.fit (.arr (as.map toJson)) = .ok as :=
  mapM_map_eq_ok h

theorem fit_members_map {d : Decoder α} {toJson : α → Json} {entries : List (String × α)}
    (h : ∀ entry ∈ entries, d.fit (toJson entry.2) = .ok entry.2) :
    d.members.fit (.obj (entries.map fun entry => (entry.1, toJson entry.2))) = .ok entries := by
  refine mapM_map_eq_ok ?_
  intro entry hentry
  simp only [h entry hentry]
  rfl

/-- Each element of a list is made of an element of the array. -/
theorem exists_of_mem_of_fit_list {d : Decoder α} {v : Json} {as : List α}
    (h : d.list.fit v = .ok as) {a : α} (ha : a ∈ as) : ∃ part ∈ v.parts, d.fit part = .ok a := by
  cases v with
  | arr items => exact exists_of_mem_of_mapM_eq_ok h ha
  | null | bool | num | str | obj => cases h

theorem fit_option_of_ne_null {d : Decoder α} {v : Json} (h : v ≠ .null) :
    d.option.fit v = (d.fit v).map some := by
  cases v with
  | null => exact absurd rfl h
  | bool | num | str | arr | obj => rfl

/-- Null has no elements. -/
theorem exists_of_mem_of_fit_nullable_list {d : Decoder α} {v : Json} {as : List α}
    (h : (d.list.nullable []).fit v = .ok as) {a : α} (ha : a ∈ as) :
    ∃ part ∈ v.parts, d.fit part = .ok a := by
  obtain ⟨found, hfound, rfl⟩ := map_eq_ok_iff.mp h
  by_cases hv : v = .null
  · subst hv
    obtain rfl : none = found := Except.ok.inj hfound
    cases ha
  · rw [fit_option_of_ne_null hv] at hfound
    obtain ⟨listed, hlist, rfl⟩ := map_eq_ok_iff.mp hfound
    exact exists_of_mem_of_fit_list hlist ha

end Decoder

/-! ## Records -/

namespace Fields

/-- Each field holds its default, or what its decoder makes of one of the values. -/
def Comes (values : List Json) : {τ σ : Type} → Fields τ σ → τ → Prop
  | _, _, nil, () => True
  | _, _, cons f rest, (a, more) =>
    (f.absent = some a ∨ f.pastEnd = some a ∨ ∃ v ∈ values, f.decoder.fit v = .ok a) ∧
      rest.Comes values more

/-- A field that must be there and may be any value is one of the values. -/
theorem Comes.mem_of_any {values : List Json} {name : String} {rest : Fields τ σ} {v : Json}
    {more : τ} (h : (cons (.required name .any) rest).Comes values (v, more)) : v ∈ values := by
  rcases h.1 with hnone | hnone | ⟨v', hmem, hv⟩
  · cases hnone
  · cases hnone
  · obtain rfl : v' = v := Except.ok.inj hv
    exact hmem

/-- Each slot that is taken holds what the decoder of its field makes of one of the values. -/
def Holds (values : List Json) : {τ σ : Type} → Fields τ σ → σ → Prop
  | _, _, nil, () => True
  | _, _, cons f rest, (slot, slots) =>
    (∀ a, slot = some a → ∃ v ∈ values, f.decoder.fit v = .ok a) ∧ rest.Holds values slots

/-- A member goes into the free slot of its field. -/
theorem put_of_fit {f : RecordField α} {rest : Fields τ σ} {key : String} {v : Json} {a : α}
    (hname : f.isNamed key = true) (h : f.decoder.fit v = .ok a) (slots : σ) :
    (cons f rest).put key v (none, slots) = .ok (some a, slots) := by
  rw [put, if_pos hname, h]
  rfl

theorem put_of_isNamed_eq_false {f : RecordField α} {rest : Fields τ σ} {key : String} {v : Json}
    {slots slots' : σ} (hname : f.isNamed key = false) (h : rest.put key v slots = .ok slots')
    (slot : Option α) : (cons f rest).put key v (slot, slots) = .ok (slot, slots') := by
  rw [put, if_neg (by simp [hname]), h]
  rfl

theorem putAll_append {fs : Fields τ σ} {members more : List (String × Json)} {slots slots' : σ}
    (h : fs.putAll members slots = .ok slots') :
    fs.putAll (members ++ more) slots = fs.putAll more slots' := by
  induction members generalizing slots with
  | nil =>
    obtain rfl : slots = slots' := Except.ok.inj h
    rfl
  | cons entry members ih =>
    obtain ⟨taken, hput, hmembers⟩ := bind_eq_ok_iff.mp h
    rw [List.cons_append, putAll, hput]
    exact ih hmembers

variable {values : List Json}

theorem holds_empty (values : List Json) : {τ σ : Type} → (fs : Fields τ σ) →
    fs.Holds values fs.empty
  | _, _, nil => trivial
  | _, _, cons _ rest => ⟨by simp, holds_empty values rest⟩

theorem Holds.put {key : String} {v : Json} (hv : v ∈ values) : {τ σ : Type} →
    {fs : Fields τ σ} → {slots slots' : σ} → fs.Holds values slots →
    fs.put key v slots = .ok slots' → fs.Holds values slots'
  | _, _, nil, (), (), _, _ => trivial
  | _, _, cons f rest, (slot, slots), _, hholds, h => by
    obtain ⟨hslot, hslots⟩ := hholds
    rw [Fields.put] at h
    split at h
    · split at h
      · cases h
      · obtain ⟨a, ha, rfl⟩ := map_eq_ok_iff.mp h
        refine ⟨?_, hslots⟩
        rintro _ ⟨⟩
        exact ⟨v, hv, ha⟩
    · obtain ⟨more, hmore, rfl⟩ := map_eq_ok_iff.mp h
      exact ⟨hslot, Holds.put hv hslots hmore⟩

theorem Holds.putAll {fs : Fields τ σ} {members : List (String × Json)}
    (hvalues : ∀ entry ∈ members, entry.2 ∈ values) {slots slots' : σ} (hslots : fs.Holds values slots)
    (h : fs.putAll members slots = .ok slots') : fs.Holds values slots' := by
  induction members generalizing slots with
  | nil =>
    obtain rfl : slots = slots' := Except.ok.inj h
    exact hslots
  | cons entry members ih =>
    obtain ⟨hentry, hmembers⟩ := List.forall_mem_cons.mp hvalues
    obtain ⟨more, hmore, h⟩ := bind_eq_ok_iff.mp h
    exact ih hmembers (hslots.put hentry hmore) h

theorem Holds.finish : {τ σ : Type} → {fs : Fields τ σ} → {slots : σ} → {t : τ} →
    fs.Holds values slots → fs.finish slots = .ok t → fs.Comes values t
  | _, _, nil, (), (), _, _ => trivial
  | _, _, cons f rest, (slot, slots), _, hholds, h => by
    obtain ⟨hslot, hslots⟩ := hholds
    rw [Fields.finish] at h
    split at h
    · cases h
    · rename_i a ha
      obtain ⟨more, hmore, rfl⟩ := map_eq_ok_iff.mp h
      refine ⟨?_, hslots.finish hmore⟩
      cases slot with
      | none => exact .inl ha
      | some b =>
        obtain rfl : b = a := Option.some.inj ha
        exact .inr (.inr (hslot b rfl))

/-- A record made of an object. -/
theorem comes_of_ofMembers {fs : Fields τ σ} {members : List (String × Json)} {t : τ}
    (h : fs.ofMembers members = .ok t) : fs.Comes (members.map Prod.snd) t := by
  obtain ⟨slots, hput, hfinish⟩ := bind_eq_ok_iff.mp h
  have hslots : fs.Holds (members.map Prod.snd) slots :=
    (holds_empty _ fs).putAll (fun _ hentry => List.mem_map_of_mem hentry) hput
  exact hslots.finish hfinish

/-- A record made of an array. -/
theorem comes_of_ofItems {expected : String} : {τ σ : Type} → {fs : Fields τ σ} →
    {index : Nat} → {items extra : List Json} → {t : τ} → (∀ v ∈ items, v ∈ values) →
    fs.ofItems expected index items = .ok (t, extra) → fs.Comes values t
  | _, _, nil, _, _, _, (), _, _ => trivial
  | _, _, cons f rest, index, [], _, _, hvalues, h => by
    rw [ofItems] at h
    split at h
    · cases h
    · rename_i a ha
      obtain ⟨⟨more, extra⟩, hmore, h⟩ := map_eq_ok_iff.mp h
      cases h
      exact ⟨.inr (.inl ha), comes_of_ofItems hvalues hmore⟩
  | _, _, cons f rest, index, v :: items, _, _, hvalues, h => by
    obtain ⟨hv, hitems⟩ := List.forall_mem_cons.mp hvalues
    obtain ⟨a, ha, h⟩ := bind_eq_ok_iff.mp h
    obtain ⟨⟨more, extra⟩, hmore, h⟩ := bind_eq_ok_iff.mp h
    cases h
    exact ⟨.inr (.inr ⟨v, hv, ha⟩), comes_of_ofItems hitems hmore⟩

end Fields

/-- A record made of an object or an array. -/
theorem Decoder.comes_of_fit_record {name : String} {fs : Fields τ σ} {v : Json} {t : τ}
    (h : (record name fs).fit v = .ok t) : fs.Comes v.parts t := by
  cases v with
  | obj members => exact Fields.comes_of_ofMembers h
  | arr items =>
    obtain ⟨⟨t', extra⟩, hitems, h⟩ := bind_eq_ok_iff.mp h
    cases extra with
    | nil =>
      obtain rfl : t' = t := Except.ok.inj h
      exact Fields.comes_of_ofItems (fun _ => id) hitems
    | cons => cases h
  | null | bool | num | str => cases h

/-! ## Members in any order -/

namespace Fields

def names : {τ σ : Type} → Fields τ σ → List String
  | _, _, nil => []
  | _, _, cons f rest => f.name :: rest.names

/-- The names of the fields differ, and none has another name beside. -/
def HaveOwnNames : {τ σ : Type} → Fields τ σ → Prop
  | _, _, nil => True
  | _, _, cons f rest => f.alias? = none ∧ f.name ∉ rest.names ∧ rest.HaveOwnNames

/-- What is in the slots and the members that are to come make up the record. -/
def MakeUp (members : List (String × Json)) : {τ σ : Type} → Fields τ σ → σ → τ → Prop
  | _, _, nil, (), () => True
  | _, _, cons f rest, (slot, slots), (a, more) =>
    (match Keyed.get? f.name members with
      | some v => slot = none ∧ f.decoder.fit v = .ok a
      | none => slot.or f.absent = some a) ∧
      rest.MakeUp members slots more

section

variable {key : String} {v : Json} {members : List (String × Json)}

/-- A member of another name makes no difference. -/
theorem MakeUp.of_cons : {τ σ : Type} → {fs : Fields τ σ} → {slots : σ} → {t : τ} →
    key ∉ fs.names → fs.MakeUp ((key, v) :: members) slots t → fs.MakeUp members slots t
  | _, _, nil, (), (), _, _ => trivial
  | _, _, cons f rest, (slot, slots), (a, more), hkey, h => by
    obtain ⟨hname, hnames⟩ := List.ne_and_not_mem_of_not_mem_cons hkey
    obtain ⟨hfirst, hrest⟩ := h
    rw [Keyed.get?_cons, if_neg hname.symm] at hfirst
    exact ⟨hfirst, hrest.of_cons hnames⟩

/-- The next member can be put into its slot, if there is no other of its name. -/
theorem MakeUp.put (hkey : Keyed.get? key members = none) : {τ σ : Type} → {fs : Fields τ σ} →
    {slots : σ} → {t : τ} → fs.HaveOwnNames → fs.MakeUp ((key, v) :: members) slots t →
    ∃ slots', fs.put key v slots = .ok slots' ∧ fs.MakeUp members slots' t
  | _, _, nil, (), (), _, _ => ⟨(), rfl, trivial⟩
  | _, _, cons f rest, (slot, slots), (a, more), hnames, h => by
    obtain ⟨halias, hother, hothers⟩ := hnames
    obtain ⟨hfirst, hrest⟩ := h
    rw [Keyed.get?_cons] at hfirst
    by_cases hname : f.name = key
    · subst hname
      rw [if_pos rfl] at hfirst
      obtain ⟨rfl, hfit⟩ := hfirst
      have hnamed : f.isNamed f.name = true := by simp [RecordField.isNamed]
      refine ⟨_, put_of_fit hnamed hfit slots, ?_, hrest.of_cons hother⟩
      rw [hkey]
      rfl
    · rw [if_neg hname] at hfirst
      have hnamed : f.isNamed key = false := by
        simp [RecordField.isNamed, halias, Ne.symm hname]
      obtain ⟨slots', hput, hmore⟩ := hrest.put hkey hothers
      exact ⟨_, put_of_isNamed_eq_false hnamed hput slot, hfirst, hmore⟩

theorem MakeUp.finish_eq : {τ σ : Type} → {fs : Fields τ σ} → {slots : σ} → {t : τ} →
    fs.MakeUp [] slots t → fs.finish slots = .ok t
  | _, _, nil, (), (), _ => rfl
  | _, _, cons f rest, (slot, slots), (a, more), h => by
    obtain ⟨hfirst, hrest⟩ := h
    have hslot : slot.or f.absent = some a := hfirst
    rw [finish, hslot]
    simp only [hrest.finish_eq]
    rfl

end

theorem MakeUp.ofMembers_eq {fs : Fields τ σ} {members : List (String × Json)} {t : τ}
    (hnames : fs.HaveOwnNames) (hsorted : Keyed.Sorted members)
    (h : fs.MakeUp members fs.empty t) : fs.ofMembers members = .ok t := by
  suffices ∀ slots, fs.MakeUp members slots t →
      (fs.putAll members slots).bind fs.finish = .ok t from this fs.empty h
  clear h
  induction members with
  | nil => exact fun slots h => h.finish_eq
  | cons entry members ih =>
    intro slots h
    obtain ⟨slots', hput, hmore⟩ := h.put hsorted.get?_tail hnames
    rw [putAll, hput]
    exact ih hsorted.tail slots' hmore

/-- A field that may be left out, with a value exactly if it is set. -/
theorem MakeUp.optional {name : String} {d : Decoder α} {toJson : α → Json} {rest : Fields τ σ}
    {members : List (String × Json)} {a : Option α} {more : τ}
    (hget : Keyed.get? name members = a.map toJson)
    (hfit : ∀ b, a = some b → toJson b ≠ .null ∧ d.fit (toJson b) = .ok b)
    (hrest : rest.MakeUp members rest.empty more) :
    (cons (.optional name d) rest).MakeUp members (none, rest.empty) (a, more) := by
  refine ⟨?_, hrest⟩
  have hname : (RecordField.optional name d).name = name := rfl
  rw [hname, hget]
  cases a with
  | none => rfl
  | some b =>
    obtain ⟨hne, hfit⟩ := hfit b rfl
    refine ⟨rfl, ?_⟩
    show d.option.fit (toJson b) = _
    rw [Decoder.fit_option_of_ne_null hne, hfit]
    rfl

end Fields

/-- A record made of an object, whatever the order in which its members were given. -/
theorem Decoder.fit_record_object {name : String} {fs : Fields τ σ} {members : List (String × Json)}
    {t : τ} (hnames : fs.HaveOwnNames) (h : fs.MakeUp (Keyed.ofList members) fs.empty t) :
    (record name fs).fit (object members) = .ok t :=
  h.ofMembers_eq hnames (Keyed.sorted_ofList members)

end ToolAgent.Json
