import ToolAgent.Proofs.Json.Ends
import ToolAgent.Proofs.Json.NumberSpellings

/-!
# How values are spelled

The texts of a value (`Spelled`): each value has its bytes, and blanks may stand around it. The
value lists the members of its objects as the text does, in order and as often as they occur.
Exactly the texts are read whose brackets nest no deeper than they may, and what is read is the
value in canonical form (`parse_eq_ok_iff_spelled`).
-/

namespace ToolAgent.Json

/-! ## Texts of values -/

/-- A member of an object, with the bytes of its key and of its value. -/
structure SpelledMember where
  key : String
  keyText : Bytes
  value : Json
  valueText : Bytes

namespace SpelledMember

def entry (member : SpelledMember) : String × Json := (member.key, member.value)

def bytes (member : SpelledMember) : Bytes := member.keyText ++ ascii ':' :: member.valueText

end SpelledMember

/-- The bytes spell the value. Elements and members have commas between them. A number is spelled
only if it is not out of range. -/
inductive Spelled : Json → Bytes → Prop where
  | null : Spelled .null (['n', 'u', 'l', 'l'].map ascii)
  | yes : Spelled (.bool true) (['t', 'r', 'u', 'e'].map ascii)
  | no : Spelled (.bool false) (['f', 'a', 'l', 's', 'e'].map ascii)
  | positive {bs : Bytes} {n : Number} (hbs : IsNumeral bs)
      (hn : number false bs = .ok (n, [])) : Spelled (.num n) bs
  | negative {bs : Bytes} {n : Number} (hbs : IsNumeral bs)
      (hn : number true bs = .ok (n, [])) : Spelled (.num n) (ascii '-' :: bs)
  | str {s : String} {bs : Bytes} (h : Escaped bs (Bytes.ofString s)) :
      Spelled (.str s) (ascii '"' :: (bs ++ [ascii '"']))
  | arrNil {blanks : Bytes} (h : IsBlanks blanks) :
      Spelled (.arr []) (ascii '[' :: (blanks ++ [ascii ']']))
  | arrCons {first : Json × Bytes} {more : List (Json × Bytes)}
      (h : ∀ item ∈ first :: more, Spelled item.1 item.2) :
      Spelled (.arr ((first :: more).map Prod.fst))
        (ascii '[' :: (first.2 ++ (more.flatMap fun item => ascii ',' :: item.2) ++ [ascii ']']))
  | objNil {blanks : Bytes} (h : IsBlanks blanks) :
      Spelled (.obj []) (ascii '\x7b' :: (blanks ++ [ascii '\x7d']))
  | objCons {first : SpelledMember} {more : List SpelledMember}
      (hkeys : ∀ member ∈ first :: more, Spelled (.str member.key) member.keyText)
      (hvalues : ∀ member ∈ first :: more, Spelled member.value member.valueText) :
      Spelled (.obj ((first :: more).map SpelledMember.entry))
        (ascii '\x7b' :: (first.bytes ++ (more.flatMap fun member => ascii ',' :: member.bytes) ++
          [ascii '\x7d']))
  | before {b : UInt8} {v : Json} {bs : Bytes} (hb : isSpace b = true) (h : Spelled v bs) :
      Spelled v (b :: bs)
  | after {b : UInt8} {v : Json} {bs : Bytes} (hb : isSpace b = true) (h : Spelled v bs) :
      Spelled v (bs ++ [b])

namespace Spelled

variable {v : Json} {bs blanks : Bytes}

theorem blanks_append (hblanks : IsBlanks blanks) (h : Spelled v bs) :
    Spelled v (blanks ++ bs) := by
  induction blanks with
  | nil => exact h
  | cons b blanks ih =>
    obtain ⟨hb, hblanks⟩ := List.forall_mem_cons.mp hblanks
    exact .before hb (ih hblanks)

theorem append_blanks (hblanks : IsBlanks blanks) (h : Spelled v bs) :
    Spelled v (bs ++ blanks) := by
  induction blanks generalizing bs with
  | nil => rwa [List.append_nil]
  | cons b blanks ih =>
    obtain ⟨hb, hblanks⟩ := List.forall_mem_cons.mp hblanks
    rw [List.append_cons]
    exact ih hblanks (.after hb h)

/-- A string is spelled with quotes. -/
theorem exists_escaped {s : String} (h : Spelled (.str s) bs) :
    ∃ before inner after, IsBlanks before ∧ IsBlanks after ∧ Escaped inner (Bytes.ofString s) ∧
      bs = before ++ ascii '"' :: (inner ++ ascii '"' :: after) := by
  generalize hv : Json.str s = v at h
  induction h with
  | str h =>
    cases hv
    exact ⟨[], _, [], isBlanks_nil, isBlanks_nil, h, rfl⟩
  | @before b _ _ hb _ ih =>
    obtain ⟨before, inner, after, hbefore, hafter, hinner, rfl⟩ := ih hv
    exact ⟨b :: before, inner, after, List.forall_mem_cons.mpr ⟨hb, hbefore⟩, hafter, hinner, rfl⟩
  | @after b _ _ hb _ ih =>
    obtain ⟨before, inner, after, hbefore, hafter, hinner, rfl⟩ := ih hv
    refine ⟨before, inner, after ++ [b], hbefore, hafter.append ?_, hinner, by simp⟩
    exact List.forall_mem_singleton.mpr hb
  | null | yes | no | positive | negative | arrNil | arrCons | objNil | objCons => cases hv

end Spelled

/-- A numeral spells a number, with a sign or without one, unless that is out of range. -/
theorem IsNumeral.exists_spelled {bs : Bytes} (h : IsNumeral bs) (negative : Bool) :
    (∃ n, Spelled (.num n) (if negative then ascii '-' :: bs else bs)) ∨
      ∃ left, number negative bs = .error (.fault .numberOutOfRange left) := by
  refine (readsWhole_number h).imp_left ?_
  rintro ⟨n, hn⟩
  cases negative with
  | true => exact ⟨n, .negative h hn⟩
  | false => exact ⟨n, .positive h hn⟩

/-! ## Texts are read -/

section Reading

variable {α : Type} {item : Reader α} {first : Bool} {bound depth : Nat} {blanks bs : Bytes}

theorem isSpace_eq_false_of_isDigit {b : UInt8} (h : isDigit b = true) : isSpace b = false := by
  refine Bool.eq_false_iff.mpr fun hspace => ?_
  rcases eq_of_isSpace hspace with rfl | rfl | rfl | rfl <;> cases h

theorem elements_blanks (h : IsBlanks blanks) :
    elements item first (bound + 1) (blanks ++ bs) = elements item first (bound + 1) bs := by
  rw [elements, elements, nextElement, h.skipSpace_append, nextElement]

theorem entries_blanks (h : IsBlanks blanks) :
    entries item first (bound + 1) (blanks ++ bs) = entries item first (bound + 1) bs := by
  rw [entries, entries, nextKey, h.skipSpace_append, nextKey]

theorem endsNumber_commas (bytes : α → Bytes) (items : List α) {b : UInt8}
    (hb : b = ascii ']' ∨ b = ascii '\x7d') (rest : Bytes) :
    EndsNumber ((items.flatMap fun item => ascii ',' :: bytes item) ++ b :: rest) := by
  cases items with
  | nil =>
    refine endsNumber_cons ?_ rest
    rcases hb with rfl | rfl <;> decide
  | cons item items => exact endsNumber_cons (b := ascii ',') (by decide) _

theorem length_le_length_commas (bytes : α → Bytes) (items : List α) :
    items.length ≤ (items.flatMap fun item => ascii ',' :: bytes item).length := by
  induction items with
  | nil => exact Nat.le_refl 0
  | cons item items ih =>
    simp only [List.flatMap_cons, List.length_append, List.length_cons]
    omega

/-- The bytes are read as the value, whatever follows that is no part of a number. -/
def IsReadAs (depth : Nat) (v : Json) (bs : Bytes) : Prop :=
  ∀ rest, EndsNumber rest → ∃ blanks, IsBlanks blanks ∧
    value depth (bs ++ rest) = .ok (v.canonical, blanks ++ rest)

theorem elements_of_isReadAs {items : List (Json × Bytes)}
    (h : ∀ item ∈ items, IsReadAs depth item.1 item.2) (hblanks : IsBlanks blanks)
    (hbound : items.length < bound) (rest : Bytes) :
    elements (value depth) false bound
        (blanks ++ ((items.flatMap fun item => ascii ',' :: item.2) ++ ascii ']' :: rest)) =
      .ok (items.map fun item => item.1.canonical, rest) := by
  induction items generalizing blanks bound with
  | nil =>
    obtain ⟨bound, rfl⟩ := Nat.exists_eq_add_one.mpr hbound
    exact elements_blanks hblanks
  | cons item items ih =>
    obtain ⟨bound, rfl⟩ := Nat.exists_eq_add_one.mpr (Nat.zero_lt_of_lt hbound)
    obtain ⟨hitem, hitems⟩ := List.forall_mem_cons.mp h
    obtain ⟨behind, hbehind, hread⟩ :=
      hitem _ (endsNumber_commas Prod.snd items (.inl rfl) rest)
    rw [elements_blanks hblanks, List.flatMap_cons, List.cons_append, List.cons_append,
      List.append_assoc]
    exact elements_step (nextElement_of_value hread).2 ((value_skipSpace _ _).trans hread)
      (ih hitems hbehind (Nat.lt_of_succ_lt_succ hbound))

/-- A member is read, and the blanks behind its value are left to those that follow. -/
theorem entries_of_member {member : SpelledMember}
    (hkey : Spelled (.str member.key) member.keyText)
    (hvalue : IsReadAs depth member.value member.valueText) {rest : Bytes}
    (hrest : EndsNumber rest) :
    ∃ blanks, IsBlanks blanks ∧ ∀ {bound as left},
      entries (value depth) false bound (blanks ++ rest) = .ok (as, left) →
        entries (value depth) true (bound + 1) (member.bytes ++ rest) =
          .ok ((member.key, member.value.canonical) :: as, left) ∧
        entries (value depth) false (bound + 1) (ascii ',' :: (member.bytes ++ rest)) =
          .ok ((member.key, member.value.canonical) :: as, left) := by
  obtain ⟨before, inner, after, hbefore, hafter, hinner, htext⟩ := hkey.exists_escaped
  obtain ⟨blanks, hblanks, hread⟩ := hvalue rest hrest
  let atColon := after ++ ascii ':' :: (member.valueText ++ rest)
  let atKey := inner ++ ascii '"' :: atColon
  have hbytes : member.bytes ++ rest = before ++ ascii '"' :: atKey := by
    simp [SpelledMember.bytes, htext, atKey, atColon]
  have hnextFirst : nextKey true (before ++ ascii '"' :: atKey) = .ok (true, atKey) :=
    nextKey_eq_ok_iff.mpr ⟨before, hbefore, .inr (.inl ⟨rfl, rfl, rfl⟩)⟩
  have hnext : nextKey false (ascii ',' :: (before ++ ascii '"' :: atKey)) = .ok (true, atKey) :=
    nextKey_eq_ok_iff.mpr ⟨[], isBlanks_nil, .inr (.inr ⟨rfl, rfl, before, hbefore, rfl⟩)⟩
  have hstring : stringTail atKey = .ok (member.key, atColon) :=
    stringTail_eq_ok_iff.mpr ⟨inner, rfl, hinner⟩
  have hcolon : colon atColon = .ok (member.valueText ++ rest) :=
    colon_eq_ok_iff.mpr ⟨after, hafter, rfl⟩
  refine ⟨blanks, hblanks, fun hothers => ?_⟩
  rw [hbytes]
  exact ⟨entries_step hnextFirst hstring hcolon hread hothers,
    entries_step hnext hstring hcolon hread hothers⟩

theorem entries_of_isReadAs {members : List SpelledMember}
    (hkeys : ∀ member ∈ members, Spelled (.str member.key) member.keyText)
    (hvalues : ∀ member ∈ members, IsReadAs depth member.value member.valueText)
    (hblanks : IsBlanks blanks) (hbound : members.length < bound) (rest : Bytes) :
    entries (value depth) false bound
        (blanks ++
          ((members.flatMap fun member => ascii ',' :: member.bytes) ++ ascii '\x7d' :: rest)) =
      .ok (members.map fun member => (member.key, member.value.canonical), rest) := by
  induction members generalizing blanks bound with
  | nil =>
    obtain ⟨bound, rfl⟩ := Nat.exists_eq_add_one.mpr hbound
    exact entries_blanks hblanks
  | cons member members ih =>
    obtain ⟨bound, rfl⟩ := Nat.exists_eq_add_one.mpr (Nat.zero_lt_of_lt hbound)
    obtain ⟨hkey, hkeys⟩ := List.forall_mem_cons.mp hkeys
    obtain ⟨hvalue, hvalues⟩ := List.forall_mem_cons.mp hvalues
    obtain ⟨behind, hbehind, hread⟩ := entries_of_member hkey hvalue
      (endsNumber_commas SpelledMember.bytes members (.inr rfl) rest)
    have hothers := ih hkeys hvalues hbehind (Nat.lt_of_succ_lt_succ hbound)
    rw [entries_blanks hblanks, List.flatMap_cons, List.cons_append, List.cons_append,
      List.append_assoc]
    exact (hread hothers).2

/-! ## Values -/

section Values

variable {v : Json}

/-- The first byte decides how the value is read. -/
theorem isReadAs_cons {b : UInt8} (hb : isSpace b = false)
    (h : ∀ rest, EndsNumber rest → Reads depth b (bs ++ rest) v.canonical rest) :
    IsReadAs depth v (b :: bs) := by
  intro rest hrest
  have hskip := skipSpace_of_isSpace_eq_false hb (bs ++ rest)
  exact ⟨[], isBlanks_nil, value_eq_ok_iff.mpr ⟨b, bs ++ rest, hskip, h rest hrest⟩⟩

theorem number_append {negative : Bool} {n : Number} (h : number negative bs = .ok (n, []))
    {rest : Bytes} (hrest : EndsNumber rest) : number negative (bs ++ rest) = .ok (n, rest) := by
  obtain ⟨used, hused, hlocal⟩ := isLocal_number h
  obtain rfl : bs = used := hused.trans (List.append_nil used)
  exact hlocal rest hrest

theorem isReadAs_num {n : Number} (h : number false bs = .ok (n, [])) :
    IsReadAs depth (.num n) bs := by
  cases bs with
  | nil => cases h
  | cons b bs =>
    have hb : isDigit b = true := by
      obtain ⟨rfl, -⟩ | ⟨-, hb⟩ := head_of_number h
      · rfl
      · exact hb
    exact isReadAs_cons (isSpace_eq_false_of_isDigit hb) fun rest hrest =>
      .positive hb (number_append h hrest)

theorem isReadAs_str {s : String} (h : Escaped bs (Bytes.ofString s)) :
    IsReadAs depth (.str s) (ascii '"' :: (bs ++ [ascii '"'])) :=
  isReadAs_cons rfl fun _ _ => .str (stringTail_eq_ok_iff.mpr ⟨bs, List.append_assoc .., h⟩)

theorem isReadAs_arrNil (h : IsBlanks blanks) :
    IsReadAs (depth + 1) (.arr []) (ascii '[' :: (blanks ++ [ascii ']'])) := by
  refine isReadAs_cons rfl fun rest _ => .arr ?_
  rw [List.append_assoc, list, elements_blanks h]
  rfl

theorem isReadAs_objNil (h : IsBlanks blanks) :
    IsReadAs (depth + 1) (.obj []) (ascii '\x7b' :: (blanks ++ [ascii '\x7d'])) := by
  refine isReadAs_cons rfl fun rest _ => ?_
  have hmembers : members (value depth) (blanks ++ [ascii '\x7d'] ++ rest) = .ok ([], rest) := by
    rw [List.append_assoc, members, entries_blanks h]
    rfl
  exact .obj hmembers

theorem isReadAs_arrCons {first : Json × Bytes} {more : List (Json × Bytes)}
    (h : ∀ item ∈ first :: more, IsReadAs depth item.1 item.2) :
    IsReadAs (depth + 1) (.arr ((first :: more).map Prod.fst))
      (ascii '[' :: (first.2 ++ (more.flatMap fun item => ascii ',' :: item.2) ++
        [ascii ']'])) := by
  obtain ⟨hfirst, hmore⟩ := List.forall_mem_cons.mp h
  refine isReadAs_cons rfl fun rest _ => ?_
  let tail := (more.flatMap fun item => ascii ',' :: item.2) ++ ascii ']' :: rest
  obtain ⟨behind, hbehind, hread⟩ :=
    hfirst tail (endsNumber_commas Prod.snd more (.inl rfl) rest)
  have hbound : more.length < (first.2 ++ tail).length := by
    have hle := length_le_length_commas Prod.snd more
    simp only [tail, List.length_append, List.length_cons]
    omega
  have hlist : list (value depth) (first.2 ++ tail) =
      .ok ((first :: more).map fun item => item.1.canonical, rest) :=
    elements_step (nextElement_of_value hread).1 ((value_skipSpace _ _).trans hread)
      (elements_of_isReadAs hmore hbehind hbound rest)
  rw [List.append_assoc, List.append_assoc, canonical, canonicalItems_eq_map, List.map_map]
  exact .arr hlist

theorem isReadAs_objCons {first : SpelledMember} {more : List SpelledMember}
    (hkeys : ∀ member ∈ first :: more, Spelled (.str member.key) member.keyText)
    (hvalues : ∀ member ∈ first :: more, IsReadAs depth member.value member.valueText) :
    IsReadAs (depth + 1) (.obj ((first :: more).map SpelledMember.entry))
      (ascii '\x7b' :: (first.bytes ++ (more.flatMap fun member => ascii ',' :: member.bytes) ++
        [ascii '\x7d'])) := by
  obtain ⟨hkey, hkeys⟩ := List.forall_mem_cons.mp hkeys
  obtain ⟨hvalue, hvalues⟩ := List.forall_mem_cons.mp hvalues
  refine isReadAs_cons rfl fun rest _ => ?_
  let tail := (more.flatMap fun member => ascii ',' :: member.bytes) ++ ascii '\x7d' :: rest
  obtain ⟨behind, hbehind, hmember⟩ := entries_of_member hkey hvalue
    (endsNumber_commas SpelledMember.bytes more (.inr rfl) rest)
  have hbound : more.length < (first.bytes ++ tail).length := by
    have hle := length_le_length_commas SpelledMember.bytes more
    simp only [tail, List.length_append, List.length_cons]
    omega
  have hmembers : members (value depth) (first.bytes ++ tail) =
      .ok ((first :: more).map fun member => (member.key, member.value.canonical), rest) :=
    (hmember (entries_of_isReadAs hkeys hvalues hbehind hbound rest)).1
  rw [List.append_assoc, List.append_assoc, canonical, canonicalMembers_eq_map, List.map_map]
  exact .obj hmembers

theorem IsReadAs.before {b : UInt8} (hb : isSpace b = true) (h : IsReadAs depth v bs) :
    IsReadAs depth v (b :: bs) := by
  intro rest hrest
  obtain ⟨blanks, hblanks, hread⟩ := h rest hrest
  refine ⟨blanks, hblanks, ?_⟩
  rwa [← value_skipSpace, List.cons_append, skipSpace, List.dropWhile_cons_of_pos hb, ← skipSpace,
    value_skipSpace]

theorem IsReadAs.after {b : UInt8} (hb : isSpace b = true) (h : IsReadAs depth v bs) :
    IsReadAs depth v (bs ++ [b]) := by
  intro rest hrest
  obtain ⟨blanks, hblanks, hread⟩ := h (b :: rest) (endsNumber_of_isSpace hb rest)
  refine ⟨blanks ++ [b], hblanks.append (List.forall_mem_singleton.mpr hb), ?_⟩
  rwa [List.append_assoc, List.append_assoc]

/-- What is spelled is read, if it nests no deeper than it may. -/
theorem Spelled.isReadAs (h : Spelled v bs) (hdepth : v.depth ≤ depth) : IsReadAs depth v bs := by
  induction h generalizing depth with
  | null => exact isReadAs_cons rfl fun _ _ => .null rfl
  | yes => exact isReadAs_cons rfl fun _ _ => .yes rfl
  | no => exact isReadAs_cons rfl fun _ _ => .no rfl
  | positive _ hn => exact isReadAs_num hn
  | negative _ hn => exact isReadAs_cons rfl fun _ hrest => .negative (number_append hn hrest)
  | str h => exact isReadAs_str h
  | arrNil h =>
    obtain ⟨depth, rfl⟩ := Nat.exists_eq_add_one.mpr hdepth
    exact isReadAs_arrNil h
  | arrCons _ ih =>
    obtain ⟨depth, rfl⟩ := Nat.exists_eq_add_one.mpr (Nat.zero_lt_of_lt hdepth)
    have hparts := depthItems_le_iff.mp (Nat.le_of_succ_le_succ hdepth)
    exact isReadAs_arrCons fun item hitem => ih item hitem (hparts _ (List.mem_map_of_mem hitem))
  | objNil h =>
    obtain ⟨depth, rfl⟩ := Nat.exists_eq_add_one.mpr hdepth
    exact isReadAs_objNil h
  | objCons hkeys _ _ ih =>
    obtain ⟨depth, rfl⟩ := Nat.exists_eq_add_one.mpr (Nat.zero_lt_of_lt hdepth)
    have hparts := depthMembers_le_iff.mp (Nat.le_of_succ_le_succ hdepth)
    exact isReadAs_objCons hkeys fun member hmember =>
      ih member hmember (hparts _ (List.mem_map_of_mem hmember))
  | before hb _ ih => exact (ih hdepth).before hb
  | after hb _ ih => exact (ih hdepth).after hb

end Values

end Reading

/-! ## Nothing else is read -/

section Spelling

variable {bound depth : Nat} {bs found left : Bytes} {v : Json}

/-- The bytes up to the rest spell a value, and in canonical form it is this one. -/
def IsSpelledUpTo (depth : Nat) (v : Json) (bs left : Bytes) : Prop :=
  ∃ tree used, bs = used ++ left ∧ Spelled tree used ∧ tree.depth ≤ depth ∧ tree.canonical = v

/-- The blanks behind a value belong to its text, too. -/
theorem IsSpelledUpTo.exists_spelled {blanks rest lead : Bytes} (h : IsSpelledUpTo depth v bs left)
    (hlead : IsBlanks lead) (hblanks : IsBlanks blanks) (hleft : left = blanks ++ rest) :
    ∃ tree used, lead ++ bs = used ++ rest ∧ Spelled tree used ∧ tree.depth ≤ depth ∧
      tree.canonical = v := by
  obtain ⟨tree, used, rfl, hused, hdepth, hcanonical⟩ := h
  refine ⟨tree, lead ++ (used ++ blanks), ?_, ?_, hdepth, hcanonical⟩
  · rw [hleft, List.append_assoc, List.append_assoc]
  · exact (hused.append_blanks hblanks).blanks_append hlead

section Brackets

variable (hitem : ∀ {bs v left}, value depth bs = .ok (v, left) → IsSpelledUpTo depth v bs left)

include hitem

/-- The elements behind the first, and the blanks in front of them. -/
theorem exists_items_of_elements {vs : List Json}
    (h : elements (value depth) false bound bs = .ok (vs, left)) :
    ∃ (blanks : Bytes) (items : List (Json × Bytes)), IsBlanks blanks ∧
      bs = blanks ++ ((items.flatMap fun item => ascii ',' :: item.2) ++ ascii ']' :: left) ∧
      (∀ item ∈ items, Spelled item.1 item.2 ∧ item.1.depth ≤ depth) ∧
      items.map (fun item => item.1.canonical) = vs := by
  induction bound generalizing bs vs with
  | zero => cases h
  | succ bound ih =>
    rw [elements] at h
    obtain ⟨⟨isNext, found⟩, hnext, hfound⟩ := bind_eq_ok_iff.mp h
    obtain ⟨b, rest, before, rfl, -, hbefore, ⟨rfl, rfl, rfl⟩ | ⟨-, -, hfirst, -⟩ |
      ⟨rfl, -, -, after, hafter, rfl⟩⟩ := nextElement_eq_ok_iff.mp hnext
    · cases hfound
      exact ⟨before, [], hbefore, rfl, List.forall_mem_nil _, rfl⟩
    · cases hfirst
    · obtain ⟨⟨v, behind⟩, hv, hfound⟩ := bind_eq_ok_iff.mp hfound
      obtain ⟨⟨others, _⟩, hothers, hfound⟩ := bind_eq_ok_iff.mp hfound
      cases hfound
      obtain ⟨blanks, items, hblanks, hbehind, hitems, rfl⟩ := ih hothers
      obtain ⟨tree, used, hused, hspelled, hdepth, rfl⟩ :=
        (hitem hv).exists_spelled hafter hblanks hbehind
      refine ⟨before, (tree, used) :: items, hbefore, ?_,
        List.forall_mem_cons.mpr ⟨⟨hspelled, hdepth⟩, hitems⟩, rfl⟩
      rw [hused, List.flatMap_cons, List.cons_append, List.cons_append, List.append_assoc]

theorem isSpelledUpTo_arr {vs : List Json} (h : list (value depth) bs = .ok (vs, left)) :
    IsSpelledUpTo (depth + 1) (.arr vs) (ascii '[' :: bs) left := by
  rw [list, elements] at h
  obtain ⟨⟨isNext, found⟩, hnext, hfound⟩ := bind_eq_ok_iff.mp h
  obtain ⟨b, rest, blanks, rfl, -, hblanks, ⟨rfl, rfl, rfl⟩ | ⟨rfl, -, -, rfl⟩ |
    ⟨-, -, hfirst, -⟩⟩ := nextElement_eq_ok_iff.mp hnext
  · cases hfound
    refine ⟨.arr [], _, ?_, .arrNil hblanks, Nat.succ_le_succ (Nat.zero_le depth), rfl⟩
    rw [List.cons_append, List.append_assoc]
    rfl
  · obtain ⟨⟨v, behind⟩, hv, hfound⟩ := bind_eq_ok_iff.mp hfound
    obtain ⟨⟨others, _⟩, hothers, hfound⟩ := bind_eq_ok_iff.mp hfound
    cases hfound
    obtain ⟨between, items, hbetween, hbehind, hitems, rfl⟩ :=
      exists_items_of_elements hitem hothers
    obtain ⟨tree, used, hused, hspelled, hdepth, rfl⟩ :=
      (hitem hv).exists_spelled hblanks hbetween hbehind
    have hall : ∀ item ∈ (tree, used) :: items, Spelled item.1 item.2 ∧ item.1.depth ≤ depth :=
      List.forall_mem_cons.mpr ⟨⟨hspelled, hdepth⟩, hitems⟩
    refine ⟨_, _, ?_, .arrCons fun item hmem => (hall item hmem).1, ?_, ?_⟩
    · simp [hused]
    · refine Nat.succ_le_succ (depthItems_le_iff.mpr ?_)
      exact List.forall_mem_map.mpr fun item hmem => (hall item hmem).2
    · rw [canonical, canonicalItems_eq_map, List.map_map]
      rfl
  · cases hfirst

/-- A member, from the blanks in front of its key to those behind its value. -/
theorem exists_member_of_key {key : String} {lead behind blanks rest afterKey atValue : Bytes}
    (hlead : IsBlanks lead) (hkey : stringTail found = .ok (key, afterKey))
    (hcolon : colon afterKey = .ok atValue) (hv : value depth atValue = .ok (v, behind))
    (hblanks : IsBlanks blanks) (hbehind : behind = blanks ++ rest) :
    ∃ member : SpelledMember, lead ++ ascii '"' :: found = member.bytes ++ rest ∧
      Spelled (.str member.key) member.keyText ∧ Spelled member.value member.valueText ∧
      member.value.depth ≤ depth ∧ (member.key, member.value.canonical) = (key, v) := by
  obtain ⟨inner, rfl, hinner⟩ := stringTail_eq_ok_iff.mp hkey
  obtain ⟨between, hbetween, rfl⟩ := colon_eq_ok_iff.mp hcolon
  obtain ⟨tree, used, hused, hspelled, hdepth, rfl⟩ :=
    (hitem hv).exists_spelled isBlanks_nil hblanks hbehind
  obtain rfl : atValue = used ++ rest := hused
  have hkeyText := ((Spelled.str hinner).append_blanks hbetween).blanks_append hlead
  refine ⟨⟨key, _, tree, used⟩, ?_, hkeyText, hspelled, hdepth, rfl⟩
  simp [SpelledMember.bytes]

theorem exists_members_of_entries {vs : List (String × Json)}
    (h : entries (value depth) false bound bs = .ok (vs, left)) :
    ∃ (blanks : Bytes) (members : List SpelledMember), IsBlanks blanks ∧
      bs = blanks ++
        ((members.flatMap fun member => ascii ',' :: member.bytes) ++ ascii '\x7d' :: left) ∧
      (∀ member ∈ members, Spelled (.str member.key) member.keyText ∧
        Spelled member.value member.valueText ∧ member.value.depth ≤ depth) ∧
      members.map (fun member => (member.key, member.value.canonical)) = vs := by
  induction bound generalizing bs vs with
  | zero => cases h
  | succ bound ih =>
    rw [entries] at h
    obtain ⟨⟨isNext, found⟩, hnext, hfound⟩ := bind_eq_ok_iff.mp h
    obtain ⟨before, hbefore, ⟨rfl, rest, rfl, rfl⟩ | ⟨-, hfirst, -⟩ |
      ⟨rfl, -, after, hafter, rfl⟩⟩ := nextKey_eq_ok_iff.mp hnext
    · cases hfound
      exact ⟨before, [], hbefore, rfl, List.forall_mem_nil _, rfl⟩
    · cases hfirst
    · obtain ⟨⟨key, afterKey⟩, hkey, hfound⟩ := bind_eq_ok_iff.mp hfound
      obtain ⟨atValue, hcolon, hfound⟩ := bind_eq_ok_iff.mp hfound
      obtain ⟨⟨v, behind⟩, hv, hfound⟩ := bind_eq_ok_iff.mp hfound
      obtain ⟨⟨others, _⟩, hothers, hfound⟩ := bind_eq_ok_iff.mp hfound
      cases hfound
      obtain ⟨blanks, members, hblanks, hbehind, hmembers, rfl⟩ := ih hothers
      obtain ⟨member, hbytes, hkeyText, hvalueText, hdepth, heq⟩ :=
        exists_member_of_key hitem hafter hkey hcolon hv hblanks hbehind
      refine ⟨before, member :: members, hbefore, ?_,
        List.forall_mem_cons.mpr ⟨⟨hkeyText, hvalueText, hdepth⟩, hmembers⟩, by rw [← heq]; rfl⟩
      rw [hbytes, List.flatMap_cons, List.cons_append, List.cons_append, List.append_assoc]

theorem isSpelledUpTo_obj {vs : List (String × Json)}
    (h : members (value depth) bs = .ok (vs, left)) :
    IsSpelledUpTo (depth + 1) (object vs) (ascii '\x7b' :: bs) left := by
  rw [members, entries] at h
  obtain ⟨⟨isNext, found⟩, hnext, hfound⟩ := bind_eq_ok_iff.mp h
  obtain ⟨blanks, hblanks, ⟨rfl, rest, rfl, rfl⟩ | ⟨rfl, -, rfl⟩ | ⟨-, hfirst, -⟩⟩ :=
    nextKey_eq_ok_iff.mp hnext
  · cases hfound
    refine ⟨.obj [], _, ?_, .objNil hblanks, Nat.succ_le_succ (Nat.zero_le depth), rfl⟩
    rw [List.cons_append, List.append_assoc]
    rfl
  · obtain ⟨⟨key, afterKey⟩, hkey, hfound⟩ := bind_eq_ok_iff.mp hfound
    obtain ⟨atValue, hcolon, hfound⟩ := bind_eq_ok_iff.mp hfound
    obtain ⟨⟨v, behind⟩, hv, hfound⟩ := bind_eq_ok_iff.mp hfound
    obtain ⟨⟨others, _⟩, hothers, hfound⟩ := bind_eq_ok_iff.mp hfound
    cases hfound
    obtain ⟨between, members, hbetween, hbehind, hmembers, rfl⟩ :=
      exists_members_of_entries hitem hothers
    obtain ⟨member, hbytes, hkeyText, hvalueText, hdepth, heq⟩ :=
      exists_member_of_key hitem hblanks hkey hcolon hv hbetween hbehind
    have hall : ∀ part ∈ member :: members, Spelled (.str part.key) part.keyText ∧
        Spelled part.value part.valueText ∧ part.value.depth ≤ depth :=
      List.forall_mem_cons.mpr ⟨⟨hkeyText, hvalueText, hdepth⟩, hmembers⟩
    refine ⟨_, _, ?_, .objCons (fun part hmem => (hall part hmem).1)
      fun part hmem => (hall part hmem).2.1, ?_, ?_⟩
    · simp [hbytes]
    · refine Nat.succ_le_succ (depthMembers_le_iff.mpr ?_)
      exact List.forall_mem_map.mpr fun part hmem => (hall part hmem).2.2
    · rw [canonical, canonicalMembers_eq_map, List.map_map, ← heq]
      rfl
  · cases hfirst

end Brackets

/-- What is read is spelled by the bytes that are used, if that holds between brackets. -/
theorem Reads.isSpelledUpTo {b : UInt8} {rest : Bytes} (h : Reads depth b rest v left)
    (hitem : ∀ inner, depth = inner + 1 → ∀ {bs v left}, value inner bs = .ok (v, left) →
      IsSpelledUpTo inner v bs left) : IsSpelledUpTo depth v (b :: rest) left := by
  cases h with
  | null h => exact ⟨.null, _, by rw [(ident_append h).1]; rfl, .null, Nat.zero_le depth, rfl⟩
  | yes h => exact ⟨.bool true, _, by rw [(ident_append h).1]; rfl, .yes, Nat.zero_le depth, rfl⟩
  | no h => exact ⟨.bool false, _, by rw [(ident_append h).1]; rfl, .no, Nat.zero_le depth, rfl⟩
  | @str _ _ _ s h =>
    obtain ⟨inner, rfl, hinner⟩ := stringTail_eq_ok_iff.mp h
    exact ⟨.str s, _, by simp, .str hinner, Nat.zero_le depth, rfl⟩
  | @negative _ _ _ n h =>
    obtain ⟨used, rfl, hlocal⟩ := isLocal_number h
    have hused := hlocal [] endsNumber_nil
    rw [List.append_nil] at hused
    exact ⟨.num n, ascii '-' :: used, rfl, .negative (isNumeral_of_number hused) hused,
      Nat.zero_le depth, rfl⟩
  | @positive _ _ _ _ n hb h =>
    obtain ⟨used, hbytes, hlocal⟩ := isLocal_number h
    have hused := hlocal [] endsNumber_nil
    rw [List.append_nil] at hused
    exact ⟨.num n, used, hbytes, .positive (isNumeral_of_number hused) hused, Nat.zero_le depth,
      rfl⟩
  | arr h => exact isSpelledUpTo_arr (hitem _ rfl) h
  | obj h => exact isSpelledUpTo_obj (hitem _ rfl) h

/-- What is read is spelled. -/
theorem isSpelledUpTo_of_value (h : value depth bs = .ok (v, left)) :
    IsSpelledUpTo depth v bs left := by
  have hstep (depth : Nat) (hitem : ∀ inner, depth = inner + 1 → ∀ {bs v left},
      value inner bs = .ok (v, left) → IsSpelledUpTo inner v bs left) {bs : Bytes} {v : Json}
      {left : Bytes} (h : value depth bs = .ok (v, left)) : IsSpelledUpTo depth v bs left := by
    obtain ⟨b, rest, hskip, hreads⟩ := value_eq_ok_iff.mp h
    obtain ⟨-, blanks, hblanks, rfl⟩ := skipSpace_eq_cons_iff.mp hskip
    exact (hreads.isSpelledUpTo hitem).exists_spelled hblanks isBlanks_nil rfl
  induction depth generalizing bs v left with
  | zero => exact hstep 0 nofun h
  | succ depth ih =>
    refine hstep (depth + 1) ?_ h
    rintro _ ⟨⟩
    exact ih

end Spelling

/-! ## Texts -/

/-- The text spells the value, whose brackets nest no deeper than they may. -/
structure IsTextOf (text : String) (tree : Json) : Prop where
  spelled : Spelled tree (Bytes.ofString text)
  depth_le : tree.depth ≤ 127

/-- **What is read.** A text is read exactly if it spells a value that nests no deeper than it may,
and as that value in canonical form. No numeral is left out but those of numbers out of range. -/
theorem parse_eq_ok_iff_spelled :
    (∀ {text : String} {v : Json},
      parse text = .ok v ↔ ∃ tree, IsTextOf text tree ∧ tree.canonical = v) ∧
    ∀ {bs : Bytes}, IsNumeral bs → ∀ negative : Bool,
      (∃ n, Spelled (.num n) (if negative then ascii '-' :: bs else bs)) ∨
        ∃ left, number negative bs = .error (.fault .numberOutOfRange left) := by
  refine ⟨fun {text v} => ?_, IsNumeral.exists_spelled⟩
  rw [parse_eq_ok_iff]
  constructor
  · rintro ⟨left, hread, hleft⟩
    obtain ⟨tree, used, hbytes, hspelled, hdepth, hcanonical⟩ :=
      (isSpelledUpTo_of_value hread).exists_spelled isBlanks_nil (isBlanks_iff.mpr hleft)
        (List.append_nil left).symm
    obtain rfl : Bytes.ofString text = used := hbytes.trans (List.append_nil used)
    exact ⟨tree, ⟨hspelled, hdepth⟩, hcanonical⟩
  · rintro ⟨tree, ⟨hspelled, hdepth⟩, rfl⟩
    obtain ⟨blanks, hblanks, hread⟩ := hspelled.isReadAs hdepth [] endsNumber_nil
    rw [List.append_nil, List.append_nil] at hread
    exact ⟨blanks, hread, isBlanks_iff.mp hblanks⟩

end ToolAgent.Json
