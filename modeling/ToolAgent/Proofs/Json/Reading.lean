import Mathlib.Data.List.DropRight
import ToolAgent.Json.Parser
import ToolAgent.Proofs.Json.Canonical
import ToolAgent.Proofs.Json.Strings
import ToolAgent.Proofs.Text.WellFormed
import ToolAgent.Text.Blank

/-!
# How values are read

Between brackets, blanks may stand in front of what comes next (`nextElement_eq_ok_iff`,
`nextKey_eq_ok_iff`, `colon_eq_ok_iff`). The first byte of a value decides how it is read (`Reads`),
and `value` reads in no other way (`value_eq_ok_iff`). From that it follows that what is read is
canonical and nests brackets no deeper than it may (`isCanonical_of_parse`, `depth_le_of_parse`).
-/

namespace ToolAgent.Json

variable {α : Type}

/-! ## Blanks -/

theorem skipSpace_skipSpace (bs : Bytes) : skipSpace (skipSpace bs) = skipSpace bs :=
  List.dropWhile_idempotent ..

theorem skipSpace_of_isSpace_eq_false {b : UInt8} (h : isSpace b = false) (rest : Bytes) :
    skipSpace (b :: rest) = b :: rest := by
  rw [skipSpace, List.dropWhile_cons_of_neg (by simp [h])]

def IsBlanks (bs : Bytes) : Prop := ∀ b ∈ bs, isSpace b = true

theorem IsBlanks.append {bs more : Bytes} (h : IsBlanks bs) (hmore : IsBlanks more) :
    IsBlanks (bs ++ more) :=
  List.forall_mem_append.mpr ⟨h, hmore⟩

theorem isBlanks_nil : IsBlanks [] := List.forall_mem_nil _

theorem IsBlanks.skipSpace_append {blanks : Bytes} (h : IsBlanks blanks) (rest : Bytes) :
    skipSpace (blanks ++ rest) = skipSpace rest :=
  List.dropWhile_append_of_pos h

theorem isBlanks_iff {bs : Bytes} : IsBlanks bs ↔ skipSpace bs = [] :=
  List.dropWhile_eq_nil_iff.symm

/-- What is skipped are blanks, and what is left begins with something else. -/
theorem skipSpace_eq_cons_iff {bs rest : Bytes} {b : UInt8} :
    skipSpace bs = b :: rest ↔
      isSpace b = false ∧ ∃ blanks, IsBlanks blanks ∧ bs = blanks ++ b :: rest := by
  constructor
  · intro h
    refine ⟨?_, bs.takeWhile isSpace, fun _ hb => List.mem_takeWhile_imp hb, ?_⟩
    · have hhead := List.head?_dropWhile_not isSpace bs
      rw [skipSpace] at h
      rwa [h] at hhead
    · rw [← h, skipSpace, List.takeWhile_append_dropWhile]
  · rintro ⟨hb, blanks, hblanks, rfl⟩
    rw [hblanks.skipSpace_append, skipSpace_of_isSpace_eq_false hb]

theorem readAll_eq_ok_iff {read : Reader α} {bs : Bytes} {a : α} :
    readAll read bs = .ok a ↔ ∃ left, read bs = .ok (a, left) ∧ skipSpace left = [] := by
  rw [readAll, bind_eq_ok_iff]
  constructor
  · rintro ⟨⟨found, left⟩, hread, h⟩
    cases hskip : skipSpace left with
    | nil =>
      simp only [hskip] at h
      cases h
      exact ⟨left, hread, hskip⟩
    | cons b rest =>
      simp only [hskip] at h
      cases h
  · rintro ⟨left, hread, hskip⟩
    refine ⟨(a, left), hread, ?_⟩
    simp only [hskip]
    rfl

theorem parse_eq_ok_iff {text : String} {v : Json} :
    parse text = .ok v ↔
      ∃ left, value depthLimit (Bytes.ofString text) = .ok (v, left) ∧ skipSpace left = [] := by
  rw [← readAll_eq_ok_iff, parse, parseBytes, mapError_eq_ok_iff]

/-! ## The first byte -/

/-- How a value is read that begins with that byte, and what is left behind it. -/
inductive Reads : (depth : Nat) → UInt8 → Bytes → Json → Bytes → Prop where
  | null {depth : Nat} {rest left : Bytes} (h : ident ['u', 'l', 'l'] rest = .ok left) :
      Reads depth (ascii 'n') rest .null left
  | yes {depth : Nat} {rest left : Bytes} (h : ident ['r', 'u', 'e'] rest = .ok left) :
      Reads depth (ascii 't') rest (.bool true) left
  | no {depth : Nat} {rest left : Bytes} (h : ident ['a', 'l', 's', 'e'] rest = .ok left) :
      Reads depth (ascii 'f') rest (.bool false) left
  | str {depth : Nat} {rest left : Bytes} {s : String} (h : stringTail rest = .ok (s, left)) :
      Reads depth (ascii '"') rest (.str s) left
  | negative {depth : Nat} {rest left : Bytes} {n : Number}
      (h : number true rest = .ok (n, left)) : Reads depth (ascii '-') rest (.num n) left
  | positive {depth : Nat} {b : UInt8} {rest left : Bytes} {n : Number} (hb : isDigit b = true)
      (h : number false (b :: rest) = .ok (n, left)) : Reads depth b rest (.num n) left
  | arr {depth : Nat} {rest left : Bytes} {items : List Json}
      (h : list (value depth) rest = .ok (items, left)) :
      Reads (depth + 1) (ascii '[') rest (.arr items) left
  | obj {depth : Nat} {rest left : Bytes} {entries : List (String × Json)}
      (h : members (value depth) rest = .ok (entries, left)) :
      Reads (depth + 1) (ascii '\x7b') rest (object entries) left

theorem scalar_eq_ok {depth : Nat} {b : UInt8} {rest left : Bytes} {v : Json}
    (h : scalar b rest = .ok (v, left)) : Reads depth b rest v left := by
  rw [scalar] at h
  split at h
  · rename_i hb
    subst hb
    obtain ⟨found, hfound, h⟩ := bind_eq_ok_iff.mp h
    cases h
    exact .null hfound
  split at h
  · rename_i hb
    subst hb
    obtain ⟨found, hfound, h⟩ := bind_eq_ok_iff.mp h
    cases h
    exact .yes hfound
  split at h
  · rename_i hb
    subst hb
    obtain ⟨found, hfound, h⟩ := bind_eq_ok_iff.mp h
    cases h
    exact .no hfound
  split at h
  · rename_i hb
    subst hb
    obtain ⟨found, hfound, h⟩ := map_eq_ok_iff.mp h
    cases h
    exact .str hfound
  split at h
  · rename_i hb
    subst hb
    obtain ⟨found, hfound, h⟩ := map_eq_ok_iff.mp h
    cases h
    exact .negative hfound
  split at h
  · rename_i hb
    obtain ⟨found, hfound, h⟩ := map_eq_ok_iff.mp h
    cases h
    exact .positive hb hfound
  · cases h

theorem ne_of_isDigit {b : UInt8} (hb : isDigit b = true) {c : Char}
    (hc : isDigit (ascii c) = false) : b ≠ ascii c := by
  rintro rfl
  rw [hc] at hb
  cases hb

theorem value_eq_ok_iff {depth : Nat} {bs left : Bytes} {v : Json} :
    value depth bs = .ok (v, left) ↔
      ∃ b rest, skipSpace bs = b :: rest ∧ Reads depth b rest v left := by
  constructor
  · intro h
    rw [value.eq_def] at h
    cases hskip : skipSpace bs with
    | nil =>
      simp only [hskip] at h
      cases h
    | cons b rest =>
      simp only [hskip] at h
      refine ⟨b, rest, rfl, ?_⟩
      split at h
      · rename_i hb
        cases depth with
        | zero => cases h
        | succ depth =>
          dsimp only at h
          split at h
          · rename_i hlist
            subst hlist
            obtain ⟨found, hfound, h⟩ := map_eq_ok_iff.mp h
            cases h
            exact .arr hfound
          · rename_i hlist
            obtain rfl : b = ascii '\x7b' := by simpa [hlist] using hb
            obtain ⟨found, hfound, h⟩ := map_eq_ok_iff.mp h
            cases h
            exact .obj hfound
      · exact scalar_eq_ok h
  · rintro ⟨b, rest, hskip, h⟩
    rw [value.eq_def]
    simp only [hskip]
    cases h with
    | null h | yes h | no h =>
      show (ident _ rest >>= _) = _
      rw [h]
      rfl
    | str h =>
      show (stringTail rest).map _ = _
      rw [h]
      rfl
    | negative h =>
      show (number true rest).map _ = _
      rw [h]
      rfl
    | positive hb h =>
      have hne {c : Char} (hc : isDigit (ascii c) = false) : b ≠ ascii c := ne_of_isDigit hb hc
      have hlist : b ≠ ascii '[' := ne_of_isDigit hb rfl
      have hmap : b ≠ ascii '\x7b' := ne_of_isDigit hb rfl
      rw [if_neg (by simp [hlist, hmap]), scalar, if_neg (hne rfl), if_neg (hne rfl),
        if_neg (hne rfl), if_neg (hne rfl), if_neg (hne rfl), if_pos hb, h]
      rfl
    | arr h =>
      show (list (value _) rest).map _ = _
      rw [h]
      rfl
    | obj h =>
      show (members (value _) rest).map _ = _
      rw [h]
      rfl

/-! ## Between brackets -/

section Brackets

variable {first isNext : Bool} {bs found : Bytes}

/-- What stands in front of an element, or of the bracket that closes the list. -/
theorem nextElement_eq_ok_iff :
    nextElement first bs = .ok (isNext, found) ↔
      ∃ b rest before, found = b :: rest ∧ isSpace b = false ∧ IsBlanks before ∧
        ((isNext = false ∧ b = ascii ']' ∧ bs = before ++ found) ∨
          (isNext = true ∧ b ≠ ascii ']' ∧ first = true ∧ bs = before ++ found) ∨
          (isNext = true ∧ b ≠ ascii ']' ∧ first = false ∧
            ∃ after, IsBlanks after ∧ bs = before ++ ascii ',' :: (after ++ found))) := by
  constructor
  · intro h
    rw [nextElement] at h
    cases hskip : skipSpace bs with
    | nil =>
      rw [hskip] at h
      cases h
    | cons b rest =>
      obtain ⟨hb, before, hbefore, rfl⟩ := skipSpace_eq_cons_iff.mp hskip
      simp only [hskip] at h
      split at h
      · rename_i hclose
        cases h
        exact ⟨b, rest, before, rfl, hb, hbefore, .inl ⟨rfl, hclose, rfl⟩⟩
      split at h
      · rename_i hclose hfirst
        cases h
        exact ⟨b, rest, before, rfl, hb, hbefore, .inr (.inl ⟨rfl, hclose, hfirst, rfl⟩)⟩
      split at h
      · rename_i hfirst hcomma
        cases hskip' : skipSpace rest with
        | nil =>
          rw [hskip'] at h
          cases h
        | cons c more =>
          obtain ⟨hc, after, hafter, rfl⟩ := skipSpace_eq_cons_iff.mp hskip'
          simp only [hskip'] at h
          split at h
          · cases h
          · rename_i hclose
            cases h
            have hbs : before ++ b :: (after ++ c :: more) =
                before ++ ascii ',' :: (after ++ c :: more) := by rw [hcomma]
            exact ⟨c, more, before, rfl, hc, hbefore,
              .inr (.inr ⟨rfl, hclose, Bool.eq_false_iff.mpr hfirst, after, hafter, hbs⟩)⟩
      · cases h
  · rintro ⟨b, rest, before, rfl, hb, hbefore, ⟨rfl, rfl, rfl⟩ | ⟨rfl, hclose, rfl, rfl⟩ |
      ⟨rfl, hclose, rfl, after, hafter, rfl⟩⟩
    · rw [nextElement, hbefore.skipSpace_append]
      rfl
    · have hskip : skipSpace (before ++ b :: rest) = b :: rest :=
        skipSpace_eq_cons_iff.mpr ⟨hb, before, hbefore, rfl⟩
      simp only [nextElement, hskip, if_neg hclose, if_true]
    · have hskip : skipSpace (after ++ b :: rest) = b :: rest :=
        skipSpace_eq_cons_iff.mpr ⟨hb, after, hafter, rfl⟩
      have hcomma : skipSpace (before ++ ascii ',' :: (after ++ b :: rest)) =
          ascii ',' :: (after ++ b :: rest) :=
        skipSpace_eq_cons_iff.mpr ⟨rfl, before, hbefore, rfl⟩
      have hopen : ascii ',' ≠ ascii ']' := by decide
      simp only [nextElement, hcomma, hskip, if_neg hclose, if_neg hopen, Bool.false_eq_true,
        if_false, if_true]

theorem nextKey_key_eq_ok_iff :
    nextKey.key bs = .ok (isNext, found) ↔ isNext = true ∧ bs = ascii '"' :: found := by
  constructor
  · intro h
    cases bs with
    | nil => cases h
    | cons b rest =>
      rw [nextKey.key] at h
      split at h
      · rename_i hb
        cases h
        exact ⟨rfl, by rw [hb]⟩
      split at h <;> cases h
  · rintro ⟨rfl, rfl⟩
    rfl

/-- What stands in front of the text of a key, or of the brace that closes the object. -/
theorem nextKey_eq_ok_iff :
    nextKey first bs = .ok (isNext, found) ↔
      ∃ before, IsBlanks before ∧
        ((isNext = false ∧ ∃ left, found = ascii '\x7d' :: left ∧ bs = before ++ found) ∨
          (isNext = true ∧ first = true ∧ bs = before ++ ascii '"' :: found) ∨
          (isNext = true ∧ first = false ∧
            ∃ after, IsBlanks after ∧
              bs = before ++ ascii ',' :: (after ++ ascii '"' :: found))) := by
  constructor
  · intro h
    rw [nextKey] at h
    cases hskip : skipSpace bs with
    | nil =>
      rw [hskip] at h
      cases h
    | cons b rest =>
      obtain ⟨-, before, hbefore, rfl⟩ := skipSpace_eq_cons_iff.mp hskip
      refine ⟨before, hbefore, ?_⟩
      simp only [hskip] at h
      split at h
      · rename_i hclose
        cases h
        exact .inl ⟨rfl, rest, by rw [hclose], rfl⟩
      split at h
      · rename_i hfirst
        obtain ⟨hnext, hfound⟩ := nextKey_key_eq_ok_iff.mp h
        exact .inr (.inl ⟨hnext, hfirst, by rw [hfound]⟩)
      split at h
      · rename_i hfirst hcomma
        obtain ⟨hnext, hfound⟩ := nextKey_key_eq_ok_iff.mp h
        obtain ⟨-, after, hafter, rfl⟩ := skipSpace_eq_cons_iff.mp hfound
        exact .inr (.inr ⟨hnext, Bool.eq_false_iff.mpr hfirst, after, hafter, by rw [hcomma]⟩)
      · cases h
  · rintro ⟨before, hbefore, ⟨rfl, left, rfl, rfl⟩ | ⟨rfl, rfl, rfl⟩ |
      ⟨rfl, rfl, after, hafter, rfl⟩⟩
    · rw [nextKey, hbefore.skipSpace_append]
      rfl
    · rw [nextKey, hbefore.skipSpace_append]
      rfl
    · rw [nextKey, hbefore.skipSpace_append]
      show nextKey.key (skipSpace (after ++ ascii '"' :: found)) = _
      rw [hafter.skipSpace_append]
      rfl

theorem colon_eq_ok_iff :
    colon bs = .ok found ↔ ∃ before, IsBlanks before ∧ bs = before ++ ascii ':' :: found := by
  constructor
  · intro h
    rw [colon] at h
    cases hskip : skipSpace bs with
    | nil =>
      rw [hskip] at h
      cases h
    | cons b rest =>
      obtain ⟨-, before, hbefore, rfl⟩ := skipSpace_eq_cons_iff.mp hskip
      simp only [hskip] at h
      split at h
      · rename_i hb
        cases h
        exact ⟨before, hbefore, by rw [hb]⟩
      · cases h
  · rintro ⟨before, hbefore, rfl⟩
    rw [colon, hbefore.skipSpace_append]
    rfl

end Brackets

/-! ## What is read -/

section Brackets

variable {item : Reader α} {first : Bool} {bound : Nat} {bs left : Bytes}

theorem exists_of_mem_of_elements {as : List α} (h : elements item first bound bs = .ok (as, left))
    {a : α} (ha : a ∈ as) : ∃ bs left, item bs = .ok (a, left) := by
  induction bound generalizing first bs as with
  | zero => cases h
  | succ bound ih =>
    rw [elements] at h
    obtain ⟨⟨more, bs'⟩, -, h⟩ := bind_eq_ok_iff.mp h
    cases more with
    | false =>
      cases h
      cases ha
    | true =>
      obtain ⟨⟨found, bs''⟩, hfound, h⟩ := bind_eq_ok_iff.mp h
      obtain ⟨⟨others, _⟩, hothers, h⟩ := bind_eq_ok_iff.mp h
      cases h
      rcases List.mem_cons.mp ha with rfl | ha
      · exact ⟨bs', bs'', hfound⟩
      · exact ih hothers ha

theorem exists_of_mem_of_entries {as : List (String × α)}
    (h : entries item first bound bs = .ok (as, left)) {entry : String × α} (ha : entry ∈ as) :
    ∃ bs left, item bs = .ok (entry.2, left) := by
  induction bound generalizing first bs as with
  | zero => cases h
  | succ bound ih =>
    rw [entries] at h
    obtain ⟨⟨more, bs'⟩, -, h⟩ := bind_eq_ok_iff.mp h
    cases more with
    | false =>
      cases h
      cases ha
    | true =>
      obtain ⟨⟨key, bs''⟩, -, h⟩ := bind_eq_ok_iff.mp h
      obtain ⟨rest, -, h⟩ := bind_eq_ok_iff.mp h
      obtain ⟨⟨found, _⟩, hfound, h⟩ := bind_eq_ok_iff.mp h
      obtain ⟨⟨others, _⟩, hothers, h⟩ := bind_eq_ok_iff.mp h
      cases h
      rcases List.mem_cons.mp ha with rfl | ha
      · exact ⟨rest, _, hfound⟩
      · exact ih hothers ha

end Brackets

/-- What is read is canonical and nests no deeper than it may, if that holds between brackets. -/
theorem Reads.isCanonical {depth : Nat} {b : UInt8} {rest left : Bytes} {v : Json}
    (h : Reads depth b rest v left)
    (hparts : ∀ inner, depth = inner + 1 → ∀ {bs left : Bytes} {part : Json},
      value inner bs = .ok (part, left) → part.IsCanonical ∧ part.depth ≤ inner) :
    v.IsCanonical ∧ v.depth ≤ depth := by
  cases h with
  | null => exact ⟨.null, Nat.zero_le depth⟩
  | yes | no => exact ⟨.bool _, Nat.zero_le depth⟩
  | str => exact ⟨.str _, Nat.zero_le depth⟩
  | negative | positive => exact ⟨.num _, Nat.zero_le depth⟩
  | @arr inner _ _ items hlist =>
    have hitems : ∀ item ∈ items, item.IsCanonical ∧ item.depth ≤ inner := by
      intro item hitem
      obtain ⟨_, _, hread⟩ := exists_of_mem_of_elements hlist hitem
      exact hparts inner rfl hread
    refine ⟨.arr fun item hitem => (hitems item hitem).1, ?_⟩
    rw [Json.depth]
    exact Nat.succ_le_succ (depthItems_le_iff.mpr fun item hitem => (hitems item hitem).2)
  | @obj inner _ _ entries hmembers =>
    have hentries : ∀ entry ∈ entries, entry.2.IsCanonical ∧ entry.2.depth ≤ inner := by
      intro entry hentry
      obtain ⟨_, _, hread⟩ := exists_of_mem_of_entries hmembers hentry
      exact hparts inner rfl hread
    exact ⟨isCanonical_object fun entry hentry => (hentries entry hentry).1,
      depth_object_le fun entry hentry => (hentries entry hentry).2⟩

theorem isCanonical_of_value {depth : Nat} {bs left : Bytes} {v : Json}
    (h : value depth bs = .ok (v, left)) : v.IsCanonical ∧ v.depth ≤ depth := by
  induction depth generalizing bs left v with
  | zero =>
    obtain ⟨b, rest, -, hreads⟩ := value_eq_ok_iff.mp h
    exact hreads.isCanonical nofun
  | succ depth ih =>
    obtain ⟨b, rest, -, hreads⟩ := value_eq_ok_iff.mp h
    refine hreads.isCanonical ?_
    rintro _ ⟨⟩ bs left part hpart
    exact ih hpart

theorem isCanonical_of_parse {text : String} {v : Json} (h : parse text = .ok v) :
    v.IsCanonical := by
  obtain ⟨left, hread, -⟩ := parse_eq_ok_iff.mp h
  exact (isCanonical_of_value hread).1

theorem depth_le_of_parse {text : String} {v : Json} (h : parse text = .ok v) :
    v.depth ≤ depthLimit := by
  obtain ⟨left, hread, -⟩ := parse_eq_ok_iff.mp h
  exact (isCanonical_of_value hread).2

/-- A value begins with a byte that is neither blank nor part of a longer character. -/
theorem allBlank_eq_false_of_parse {text : String} {v : Json} (h : parse text = .ok v) :
    Text.allBlank text = false := by
  obtain ⟨left, hread, -⟩ := parse_eq_ok_iff.mp h
  obtain ⟨b, rest, hskip, hreads⟩ := value_eq_ok_iff.mp hread
  have hmem : b ∈ Bytes.ofString text := by
    have hdrop : b ∈ skipSpace (Bytes.ofString text) := hskip ▸ List.mem_cons_self
    exact (List.dropWhile_sublist _).subset hdrop
  have hfirst : b.toNat < 0x80 ∧ Text.isBlank (Char.ofNat b.toNat) = false := by
    cases hreads with
    | null | yes | no | str | negative | arr | obj => decide
    | positive hb =>
      have hdigit : 48 ≤ b.toNat ∧ b.toNat ≤ 57 := by
        simpa [isDigit, UInt8.le_iff_toNat_le] using hb
      obtain ⟨hlow, hhigh⟩ := hdigit
      generalize b.toNat = n at hlow hhigh
      interval_cases n <;> decide
  have hchar : Char.ofNat b.toNat ∈ text.toList := Utf8.mem_of_mem_encode hfirst.1 hmem
  rw [Text.allBlank, List.all_eq_false]
  exact ⟨_, hchar, by simp [hfirst.2]⟩

/-! ## The length of a string -/

/-- A character takes at most four bytes. -/
theorem length_encodeNat_le (n : Nat) : (encodeNat n).length ≤ 4 := by
  rw [encodeNat, String.length_utf8EncodeChar]
  exact Char.utf8Size_le_four _

/-- No escape is shorter than what it stands for. -/
theorem Escaped.length_le {bs bytes : Bytes} (h : Escaped bs bytes) :
    bytes.length ≤ bs.length := by
  induction h with
  | nil => exact Nat.le_refl 0
  | plain _ _ ih => exact Nat.succ_le_succ ih
  | letter _ _ ih => exact Nat.succ_le_succ (Nat.le_succ_of_le ih)
  | @quad a b c d n =>
    have hlength := length_encodeNat_le n
    simp only [List.length_append, List.length_cons]
    omega
  | @pair a b c d a' b' c' d' high low =>
    have hlength := length_encodeNat_le (joinSurrogates high low)
    simp only [List.length_append, List.length_cons]
    omega

theorem length_of_stringTail {bs left : Bytes} {s : String} (h : stringTail bs = .ok (s, left)) :
    (Bytes.ofString s).length ≤ bs.length := by
  obtain ⟨inner, rfl, hinner⟩ := stringTail_eq_ok_iff.mp h
  have hle := hinner.length_le
  rw [List.length_append]
  omega

/-- The quotes of a string are not part of it. -/
theorem length_lt_of_parse_str {text s : String} (h : parse text = .ok (.str s)) :
    (Bytes.ofString s).length < (Bytes.ofString text).length := by
  obtain ⟨left, hread, -⟩ := parse_eq_ok_iff.mp h
  obtain ⟨b, rest, hskip, hreads⟩ := value_eq_ok_iff.mp hread
  have hdrop : (b :: rest).length ≤ (Bytes.ofString text).length := by
    rw [← hskip]
    exact (List.dropWhile_sublist _).length_le
  generalize hv : Json.str s = v at hreads
  cases hreads with
  | str hs =>
    cases hv
    have hle := length_of_stringTail hs
    rw [List.length_cons] at hdrop
    omega
  | null | yes | no | negative | positive | arr | obj => cases hv

end ToolAgent.Json
