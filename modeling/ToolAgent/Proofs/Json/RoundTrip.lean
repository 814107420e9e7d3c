import ToolAgent.Proofs.Json.Numerals
import ToolAgent.Proofs.Json.Strings

/-!
# Values read back

The text of a value is read as the value in canonical form (`parse_toText`), if its brackets nest no
deeper than the reader allows and the numbers in it read back. The proof follows the printer: a value
is read whatever follows it, and so are the elements and members behind the first.
-/

namespace ToolAgent.Json

open Utf8 (encode encode_nil encode_cons encode_append)

mutual

/-- The numbers in a value. -/
def numbers : Json → List Number
  | num n => [n]
  | arr items => numbersItems items
  | obj members => numbersMembers members
  | _ => []

def numbersItems : List Json → List Number
  | [] => []
  | v :: rest => numbers v ++ numbersItems rest

def numbersMembers : List (String × Json) → List Number
  | [] => []
  | (_, v) :: rest => numbers v ++ numbersMembers rest

end

/-! ## One step of a list -/

section Steps

variable {α : Type} {item : Reader α} {first : Bool} {bound : Nat} {bs bs' left : Bytes}

theorem elements_step {as : List α} {a : α} {found : Bytes}
    (hnext : nextElement first bs = .ok (true, found)) (hitem : item found = .ok (a, bs'))
    (hrest : elements item false bound bs' = .ok (as, left)) :
    elements item first (bound + 1) bs = .ok (a :: as, left) := by
  rw [elements, hnext]
  show (item found >>= _) = _
  rw [hitem]
  show (elements item false bound bs' >>= _) = _
  rw [hrest]
  rfl

theorem entries_step {as : List (String × α)} {key : String} {a : α} {found behind value : Bytes}
    (hnext : nextKey first bs = .ok (true, found)) (hkey : stringTail found = .ok (key, behind))
    (hcolon : colon behind = .ok value) (hitem : item value = .ok (a, bs'))
    (hrest : entries item false bound bs' = .ok (as, left)) :
    entries item first (bound + 1) bs = .ok ((key, a) :: as, left) := by
  rw [entries, hnext]
  show (stringTail found >>= _) = _
  rw [hkey]
  show (colon behind >>= _) = _
  rw [hcolon]
  show (item value >>= _) = _
  rw [hitem]
  show (entries item false bound bs' >>= _) = _
  rw [hrest]
  rfl

end Steps

theorem value_skipSpace (depth : Nat) (bs : Bytes) :
    value depth (skipSpace bs) = value depth bs := by
  rw [value.eq_def, value.eq_def depth bs]
  dsimp only
  rw [skipSpace_skipSpace]

/-- No value begins with the bracket that closes a list. -/
theorem Reads.ne_bracket {depth : Nat} {b : UInt8} {rest left : Bytes} {v : Json}
    (h : Reads depth b rest v left) : b ≠ ascii ']' := by
  cases h with
  | positive hb => exact ne_of_isDigit hb rfl
  | null | yes | no | str | negative | arr | obj => decide

theorem nextElement_of_value {depth : Nat} {bs : Bytes} {found : Json × Bytes}
    (h : value depth bs = .ok found) :
    nextElement true bs = .ok (true, skipSpace bs) ∧
      nextElement false (ascii ',' :: bs) = .ok (true, skipSpace bs) := by
  obtain ⟨b, rest, hskip, hreads⟩ := value_eq_ok_iff.mp h
  obtain ⟨hspace, before, hbefore, rfl⟩ := skipSpace_eq_cons_iff.mp hskip
  have hb := hreads.ne_bracket
  rw [hskip]
  constructor
  · exact nextElement_eq_ok_iff.mpr
      ⟨b, rest, before, rfl, hspace, hbefore, .inr (.inl ⟨rfl, hb, rfl, rfl⟩)⟩
  · exact nextElement_eq_ok_iff.mpr
      ⟨b, rest, [], rfl, hspace, isBlanks_nil, .inr (.inr ⟨rfl, hb, rfl, before, hbefore, rfl⟩)⟩

/-! ## Values -/

theorem length_le_length_encode (cs : List Char) : cs.length ≤ (encode cs).length := by
  induction cs with
  | nil => exact Nat.le_refl 0
  | cons c cs ih =>
    have hpos : 0 < (String.utf8EncodeChar c).length := by
      rw [String.length_utf8EncodeChar]
      exact c.utf8Size_pos
    rw [encode_cons, List.length_append, List.length_cons]
    omega

theorem length_lt_length_printItems (items : List Json) :
    items.length < (encode (printItems items)).length := by
  refine Nat.lt_of_lt_of_le ?_ (length_le_length_encode _)
  induction items with
  | nil => exact Nat.zero_lt_one
  | cons v rest ih =>
    simp only [printItems, List.length_append, List.length_cons]
    omega

theorem length_lt_length_printMembers (members : List (String × Json)) :
    members.length < (encode (printMembers members)).length := by
  refine Nat.lt_of_lt_of_le ?_ (length_le_length_encode _)
  induction members with
  | nil => exact Nat.zero_lt_one
  | cons entry rest ih =>
    simp only [printMembers, List.length_append, List.length_cons]
    omega

theorem endsNumber_cons {b : UInt8} (h : isDigit b = false ∧ b ≠ ascii '.' ∧ b ≠ ascii 'e' ∧
    b ≠ ascii 'E') (rest : Bytes) : EndsNumber (b :: rest) := by
  rintro _ ⟨⟩
  exact h

theorem endsNumber_printItems (items : List Json) (rest : Bytes) :
    EndsNumber (encode (printItems items) ++ rest) := by
  cases items with
  | nil => exact endsNumber_cons (b := ascii ']') (by decide) rest
  | cons v items => exact endsNumber_cons (b := ascii ',') (by decide) _

theorem endsNumber_printMembers (members : List (String × Json)) (rest : Bytes) :
    EndsNumber (encode (printMembers members) ++ rest) := by
  cases members with
  | nil => exact endsNumber_cons (b := ascii '\x7d') (by decide) rest
  | cons entry members => exact endsNumber_cons (b := ascii ',') (by decide) _

mutual

theorem value_print : ∀ (v : Json) {depth : Nat}, v.depth ≤ depth →
    (∀ n ∈ v.numbers, n.ReadsBack) → ∀ {rest : Bytes}, EndsNumber rest →
    value depth (encode v.print ++ rest) = .ok (v.canonical, rest)
  | null, _, _, _, _, _ => value_eq_ok_iff.mpr ⟨_, _, rfl, .null rfl⟩
  | bool true, _, _, _, _, _ => value_eq_ok_iff.mpr ⟨_, _, rfl, .yes rfl⟩
  | bool false, _, _, _, _, _ => value_eq_ok_iff.mpr ⟨_, _, rfl, .no rfl⟩
  | num n, depth, _, hnumbers, _, hrest =>
    value_print_num (hnumbers n List.mem_cons_self) depth hrest
  | str s, depth, _, _, rest, _ => by
    rw [print, encode_printString_append]
    exact value_eq_ok_iff.mpr ⟨_, _, rfl, .str (stringTail_printed s rest)⟩
  | arr items, 0, hdepth, _, _, _ => absurd hdepth (Nat.not_succ_le_zero _)
  | obj members, 0, hdepth, _, _, _ => absurd hdepth (Nat.not_succ_le_zero _)
  | arr [], depth + 1, _, _, rest, _ => value_eq_ok_iff.mpr ⟨_, _, rfl, .arr rfl⟩
  | arr (v :: items), depth + 1, hdepth, hnumbers, rest, _ => by
    have hparts : v.depth ≤ depth ∧ depthItems items ≤ depth :=
      Nat.max_le.mp (Nat.le_of_succ_le_succ hdepth)
    have hfirst := value_print v hparts.1 (fun n hn => hnumbers n (List.mem_append_left _ hn))
      (endsNumber_printItems items rest)
    have hothers (bound : Nat) (hbound : items.length < bound) :=
      elements_printItems items hparts.2 (fun n hn => hnumbers n (List.mem_append_right _ hn))
        hbound rest
    have hbytes : encode (arr (v :: items)).print ++ rest =
        ascii '[' :: (encode v.print ++ (encode (printItems items) ++ rest)) := by
      rw [print, encode_append, List.append_assoc]
      rfl
    have hbound : items.length < (encode v.print ++ (encode (printItems items) ++ rest)).length := by
      have hlt := length_lt_length_printItems items
      simp only [List.length_append]
      omega
    rw [hbytes]
    refine value_eq_ok_iff.mpr ⟨_, _, rfl, .arr ?_⟩
    exact elements_step (nextElement_of_value hfirst).1 ((value_skipSpace _ _).trans hfirst)
      (hothers _ hbound)
  | obj [], depth + 1, _, _, rest, _ => value_eq_ok_iff.mpr ⟨_, _, rfl, .obj rfl⟩
  | obj ((k, v) :: members), depth + 1, hdepth, hnumbers, rest, _ => by
    have hparts : v.depth ≤ depth ∧ depthMembers members ≤ depth :=
      Nat.max_le.mp (Nat.le_of_succ_le_succ hdepth)
    have hfirst := value_print v hparts.1 (fun n hn => hnumbers n (List.mem_append_left _ hn))
      (endsNumber_printMembers members rest)
    have hothers (bound : Nat) (hbound : members.length < bound) :=
      entries_printMembers members hparts.2 (fun n hn => hnumbers n (List.mem_append_right _ hn))
        hbound rest
    let behind := ascii ':' :: (encode v.print ++ (encode (printMembers members) ++ rest))
    have hbytes : encode (obj ((k, v) :: members)).print ++ rest =
        ascii '\x7b' :: (encode (printString k) ++ behind) := by
      rw [print, encode_append, encode_append, List.append_assoc, List.append_assoc]
      rfl
    have hbound : members.length < (encode (printString k) ++ behind).length := by
      have hlt := length_lt_length_printMembers members
      simp only [behind, List.length_append, List.length_cons]
      omega
    rw [hbytes]
    refine value_eq_ok_iff.mpr ⟨_, _, rfl, .obj ?_⟩
    rw [encode_printString_append] at hbound ⊢
    exact entries_step rfl (stringTail_printed k behind) rfl hfirst (hothers _ hbound)

theorem elements_printItems : ∀ (items : List Json) {depth bound : Nat},
    depthItems items ≤ depth → (∀ n ∈ numbersItems items, n.ReadsBack) → items.length < bound →
    ∀ rest : Bytes, elements (value depth) false bound (encode (printItems items) ++ rest) =
      .ok (canonicalItems items, rest)
  | _, _, 0, _, _, hbound, _ => absurd hbound (Nat.not_lt_zero _)
  | [], _, bound + 1, _, _, _, rest => rfl
  | v :: items, depth, bound + 1, hdepth, hnumbers, hbound, rest => by
    have hparts : v.depth ≤ depth ∧ depthItems items ≤ depth := Nat.max_le.mp hdepth
    have hfirst := value_print v hparts.1 (fun n hn => hnumbers n (List.mem_append_left _ hn))
      (endsNumber_printItems items rest)
    have hothers := elements_printItems items hparts.2
      (fun n hn => hnumbers n (List.mem_append_right _ hn)) (Nat.lt_of_succ_lt_succ hbound) rest
    have hbytes : encode (printItems (v :: items)) ++ rest =
        ascii ',' :: (encode v.print ++ (encode (printItems items) ++ rest)) := by
      rw [printItems, encode_append, List.append_assoc]
      rfl
    rw [hbytes]
    exact elements_step (nextElement_of_value hfirst).2 ((value_skipSpace _ _).trans hfirst) hothers

theorem entries_printMembers : ∀ (members : List (String × Json)) {depth bound : Nat},
    depthMembers members ≤ depth → (∀ n ∈ numbersMembers members, n.ReadsBack) →
    members.length < bound → ∀ rest : Bytes,
    entries (value depth) false bound (encode (printMembers members) ++ rest) =
      .ok (canonicalMembers members, rest)
  | _, _, 0, _, _, hbound, _ => absurd hbound (Nat.not_lt_zero _)
  | [], _, bound + 1, _, _, _, rest => rfl
  | (k, v) :: members, depth, bound + 1, hdepth, hnumbers, hbound, rest => by
    have hparts : v.depth ≤ depth ∧ depthMembers members ≤ depth := Nat.max_le.mp hdepth
    have hfirst := value_print v hparts.1 (fun n hn => hnumbers n (List.mem_append_left _ hn))
      (endsNumber_printMembers members rest)
    have hothers := entries_printMembers members hparts.2
      (fun n hn => hnumbers n (List.mem_append_right _ hn)) (Nat.lt_of_succ_lt_succ hbound) rest
    let behind := ascii ':' :: (encode v.print ++ (encode (printMembers members) ++ rest))
    have hbytes : encode (printMembers ((k, v) :: members)) ++ rest =
        ascii ',' :: (encode (printString k) ++ behind) := by
      rw [printMembers, encode_append, encode_append, List.append_assoc, List.append_assoc]
      rfl
    rw [hbytes, encode_printString_append]
    exact entries_step rfl (stringTail_printed k behind) rfl hfirst hothers

end

/-- **Values read back.** -/
theorem parse_toText {v : Json} (hdepth : v.depth ≤ depthLimit)
    (hnumbers : ∀ n ∈ v.numbers, n.ReadsBack) : parse v.toText = .ok v.canonical := by
  have hread := value_print v hdepth hnumbers endsNumber_nil
  rw [List.append_nil] at hread
  refine parse_eq_ok_iff.mpr ⟨[], ?_, rfl⟩
  rwa [Bytes.ofString, toText, String.toList_ofList]

end ToolAgent.Json
