import ToolAgent.Proofs.Json.Numbers
import ToolAgent.Proofs.Json.Reading
import ToolAgent.Proofs.Json.RoundTrip

/-!
# Where a value ends

A string, a list or an object ends with a byte that says so, and a literal with its last letter. So
such a value is read whatever follows it (`value_append`); only a number may go on. A text that
begins with another text therefore has the value of that one, unless it is a number
(`eq_of_parse_of_prefix`).
-/

namespace ToolAgent.Json

variable {α : Type}

/-! ## Readers -/

/-- What is read is read whatever follows, if something is left there with which no number goes
on. -/
def IsBounded (read : Reader α) : Prop :=
  ∀ ⦃bs : Bytes⦄ ⦃a : α⦄ ⦃left : Bytes⦄, read bs = .ok (a, left) → left <:+ bs ∧
    (left ≠ [] → EndsNumber left → ∀ more, read (bs ++ more) = .ok (a, left ++ more))

/-- What is read ends with the byte and is read whatever follows. -/
def IsClosedBy (b : UInt8) (read : Reader α) : Prop :=
  ∀ ⦃bs : Bytes⦄ ⦃a : α⦄ ⦃left : Bytes⦄, read bs = .ok (a, left) → b :: left <:+ bs ∧
    ∀ more, read (bs ++ more) = .ok (a, left ++ more)

theorem eq_of_isSpace {b : UInt8} (h : isSpace b = true) :
    b = 0x20 ∨ b = 0x09 ∨ b = 0x0A ∨ b = 0x0D := by
  simpa only [isSpace, Bool.or_eq_true, decide_eq_true_eq, or_assoc] using h

theorem skipSpace_append {bs rest : Bytes} {b : UInt8} (h : skipSpace bs = b :: rest)
    (more : Bytes) : skipSpace (bs ++ more) = b :: (rest ++ more) := by
  rw [skipSpace] at h ⊢
  rw [List.dropWhile_append, h]
  rfl

theorem skipSpace_suffix (bs : Bytes) : skipSpace bs <:+ bs := List.dropWhile_suffix _

theorem ident_append {cs : List Char} {bs left : Bytes} (h : ident cs bs = .ok left) :
    bs = cs.map ascii ++ left ∧ ∀ more, ident cs (bs ++ more) = .ok (left ++ more) := by
  induction cs generalizing bs with
  | nil =>
    obtain rfl := Except.ok.inj h
    exact ⟨rfl, fun _ => rfl⟩
  | cons c cs ih =>
    cases bs with
    | nil => cases h
    | cons b bs =>
      rw [ident] at h
      split at h
      · rename_i hb
        obtain ⟨rfl, hmore⟩ := ih h
        refine ⟨by rw [hb]; rfl, fun more => ?_⟩
        rw [List.cons_append, ident, if_pos hb]
        exact hmore more
      · cases h

theorem isBounded_number (negative : Bool) : IsBounded (number negative) := by
  intro bs n left h
  obtain ⟨used, rfl, hrest⟩ := isLocal_number h
  refine ⟨List.suffix_append used left, fun hne hends more => ?_⟩
  have hmore : EndsNumber (left ++ more) := by
    intro b hb
    refine hends b ?_
    rwa [List.head?_append_of_ne_nil _ hne] at hb
  rw [List.append_assoc]
  exact hrest _ hmore

/-! ## Strings -/

theorem isClosedBy_stringTail : IsClosedBy (ascii '"') stringTail := by
  intro bs s left h
  obtain ⟨inner, rfl, hinner⟩ := stringTail_eq_ok_iff.mp h
  refine ⟨List.suffix_append inner _, fun more => ?_⟩
  exact stringTail_eq_ok_iff.mpr ⟨inner, List.append_assoc .., hinner⟩

/-! ## Between brackets -/

theorem endsNumber_of_isSpace {b : UInt8} (h : isSpace b = true) (rest : Bytes) :
    EndsNumber (b :: rest) := by
  refine endsNumber_cons ?_ rest
  rcases eq_of_isSpace h with rfl | rfl | rfl | rfl <;> decide

/-- A number ends at a bracket or a comma, and at blanks in front of it. -/
theorem endsNumber_of_isBlanks {blanks : Bytes} (h : IsBlanks blanks) {b : UInt8}
    (hb : b = ascii ']' ∨ b = ascii '\x7d' ∨ b = ascii ',') (rest : Bytes) :
    blanks ++ b :: rest ≠ [] ∧ EndsNumber (blanks ++ b :: rest) := by
  refine ⟨List.append_ne_nil_of_right_ne_nil _ (List.cons_ne_nil b rest), ?_⟩
  cases blanks with
  | nil =>
    refine endsNumber_cons ?_ rest
    rcases hb with rfl | rfl | rfl <;> decide
  | cons c blanks => exact endsNumber_of_isSpace (h c List.mem_cons_self) _

section Brackets

variable {item : Reader α} {first : Bool} {bound : Nat} {bs found left : Bytes}

theorem nextElement_append {isNext : Bool} (h : nextElement first bs = .ok (isNext, found)) :
    found <:+ bs ∧ (isNext = false → ∃ tail, found = ascii ']' :: tail) ∧
      ∀ more, nextElement first (bs ++ more) = .ok (isNext, found ++ more) := by
  simp only [nextElement_eq_ok_iff] at h ⊢
  obtain ⟨b, rest, before, rfl, hb, hbefore, ⟨rfl, rfl, rfl⟩ | ⟨rfl, hopen, rfl, rfl⟩ |
    ⟨rfl, hopen, rfl, after, hafter, rfl⟩⟩ := h
  · refine ⟨List.suffix_append before _, fun _ => ⟨rest, rfl⟩, fun more => ?_⟩
    exact ⟨_, rest ++ more, before, rfl, hb, hbefore, .inl ⟨rfl, rfl, List.append_assoc ..⟩⟩
  · refine ⟨List.suffix_append before _, nofun, fun more => ?_⟩
    exact ⟨b, rest ++ more, before, rfl, hb, hbefore,
      .inr (.inl ⟨rfl, hopen, rfl, List.append_assoc ..⟩)⟩
  · refine ⟨⟨before ++ ascii ',' :: after, by simp⟩, nofun, fun more => ?_⟩
    exact ⟨b, rest ++ more, before, rfl, hb, hbefore,
      .inr (.inr ⟨rfl, hopen, rfl, after, hafter, by simp⟩)⟩

theorem endsNumber_of_nextElement {next : Bool × Bytes} (h : nextElement false bs = .ok next) :
    bs ≠ [] ∧ EndsNumber bs := by
  obtain ⟨b, rest, before, hfound, -, hbefore, ⟨-, hclose, rfl⟩ | ⟨-, -, hfirst, -⟩ |
    ⟨-, -, -, after, -, rfl⟩⟩ := nextElement_eq_ok_iff.mp h
  · rw [hfound]
    exact endsNumber_of_isBlanks hbefore (.inl hclose) rest
  · cases hfirst
  · exact endsNumber_of_isBlanks hbefore (.inr (.inr rfl)) _

theorem endsNumber_of_elements {as : List α} (h : elements item false bound bs = .ok (as, left)) :
    bs ≠ [] ∧ EndsNumber bs := by
  cases bound with
  | zero => cases h
  | succ bound =>
    rw [elements] at h
    obtain ⟨next, hnext, -⟩ := bind_eq_ok_iff.mp h
    exact endsNumber_of_nextElement hnext

/-- The elements of a list; there may be more room for them than there are. -/
theorem elements_append (hitem : IsBounded item) {as : List α}
    (h : elements item first bound bs = .ok (as, left)) :
    ascii ']' :: left <:+ bs ∧ ∀ {bound'}, bound ≤ bound' → ∀ more,
      elements item first bound' (bs ++ more) = .ok (as, left ++ more) := by
  induction bound generalizing first bs as with
  | zero => cases h
  | succ bound ih =>
    rw [elements] at h
    obtain ⟨⟨isNext, found⟩, hnext, h⟩ := bind_eq_ok_iff.mp h
    obtain ⟨hfound, hclose, hnextMore⟩ := nextElement_append hnext
    cases isNext with
    | false =>
      obtain ⟨tail, rfl⟩ := hclose rfl
      cases h
      refine ⟨hfound, fun {bound'} hle more => ?_⟩
      cases bound' with
      | zero => cases hle
      | succ bound' =>
        rw [elements, hnextMore more]
        rfl
    | true =>
      obtain ⟨⟨a, behind⟩, ha, h⟩ := bind_eq_ok_iff.mp h
      obtain ⟨⟨others, _⟩, hothers, h⟩ := bind_eq_ok_iff.mp h
      cases h
      obtain ⟨hbehind, haMore⟩ := hitem ha
      obtain ⟨hne, hends⟩ := endsNumber_of_elements hothers
      obtain ⟨hsuffix, hothersMore⟩ := ih hothers
      refine ⟨hsuffix.trans (hbehind.trans hfound), fun {bound'} hle more => ?_⟩
      cases bound' with
      | zero => cases hle
      | succ bound' =>
        exact elements_step (hnextMore more) (haMore hne hends more)
          (hothersMore (Nat.le_of_succ_le_succ hle) more)

theorem isClosedBy_list (hitem : IsBounded item) : IsClosedBy (ascii ']') (list item) := by
  intro bs as left h
  obtain ⟨hsuffix, hmore⟩ := elements_append hitem h
  refine ⟨hsuffix, fun more => hmore ?_ more⟩
  rw [List.length_append]
  omega

theorem nextKey_append {isNext : Bool} (h : nextKey first bs = .ok (isNext, found)) :
    found <:+ bs ∧ (isNext = false → ∃ tail, found = ascii '\x7d' :: tail) ∧
      ∀ more, nextKey first (bs ++ more) = .ok (isNext, found ++ more) := by
  simp only [nextKey_eq_ok_iff] at h ⊢
  obtain ⟨before, hbefore, ⟨rfl, left, rfl, rfl⟩ | ⟨rfl, rfl, rfl⟩ |
    ⟨rfl, rfl, after, hafter, rfl⟩⟩ := h
  · refine ⟨List.suffix_append before _, fun _ => ⟨left, rfl⟩, fun more => ?_⟩
    exact ⟨before, hbefore, .inl ⟨rfl, left ++ more, rfl, List.append_assoc ..⟩⟩
  · refine ⟨⟨before ++ [ascii '"'], by simp⟩, nofun, fun more => ?_⟩
    exact ⟨before, hbefore, .inr (.inl ⟨rfl, rfl, List.append_assoc ..⟩)⟩
  · refine ⟨⟨before ++ ascii ',' :: (after ++ [ascii '"']), by simp⟩, nofun, fun more => ?_⟩
    exact ⟨before, hbefore, .inr (.inr ⟨rfl, rfl, after, hafter, by simp⟩)⟩

theorem endsNumber_of_nextKey {next : Bool × Bytes} (h : nextKey false bs = .ok next) :
    bs ≠ [] ∧ EndsNumber bs := by
  obtain ⟨before, hbefore, ⟨-, left, hclose, rfl⟩ | ⟨-, hfirst, -⟩ | ⟨-, -, after, -, rfl⟩⟩ :=
    nextKey_eq_ok_iff.mp h
  · rw [hclose]
    exact endsNumber_of_isBlanks hbefore (.inr (.inl rfl)) left
  · cases hfirst
  · exact endsNumber_of_isBlanks hbefore (.inr (.inr rfl)) _

theorem colon_append (h : colon bs = .ok found) :
    found <:+ bs ∧ ∀ more, colon (bs ++ more) = .ok (found ++ more) := by
  obtain ⟨before, hbefore, rfl⟩ := colon_eq_ok_iff.mp h
  refine ⟨⟨before ++ [ascii ':'], by simp⟩, fun more => ?_⟩
  exact colon_eq_ok_iff.mpr ⟨before, hbefore, List.append_assoc ..⟩

theorem endsNumber_of_entries {as : List (String × α)}
    (h : entries item false bound bs = .ok (as, left)) : bs ≠ [] ∧ EndsNumber bs := by
  cases bound with
  | zero => cases h
  | succ bound =>
    rw [entries] at h
    obtain ⟨next, hnext, -⟩ := bind_eq_ok_iff.mp h
    exact endsNumber_of_nextKey hnext

theorem entries_append (hitem : IsBounded item) {as : List (String × α)}
    (h : entries item first bound bs = .ok (as, left)) :
    ascii '\x7d' :: left <:+ bs ∧ ∀ {bound'}, bound ≤ bound' → ∀ more,
      entries item first bound' (bs ++ more) = .ok (as, left ++ more) := by
  induction bound generalizing first bs as with
  | zero => cases h
  | succ bound ih =>
    rw [entries] at h
    obtain ⟨⟨isNext, found⟩, hnext, h⟩ := bind_eq_ok_iff.mp h
    obtain ⟨hfound, hclose, hnextMore⟩ := nextKey_append hnext
    cases isNext with
    | false =>
      obtain ⟨tail, rfl⟩ := hclose rfl
      cases h
      refine ⟨hfound, fun {bound'} hle more => ?_⟩
      cases bound' with
      | zero => cases hle
      | succ bound' =>
        rw [entries, hnextMore more]
        rfl
    | true =>
      obtain ⟨⟨key, afterKey⟩, hkey, h⟩ := bind_eq_ok_iff.mp h
      obtain ⟨atValue, hcolon, h⟩ := bind_eq_ok_iff.mp h
      obtain ⟨⟨a, behind⟩, ha, h⟩ := bind_eq_ok_iff.mp h
      obtain ⟨⟨others, _⟩, hothers, h⟩ := bind_eq_ok_iff.mp h
      cases h
      obtain ⟨hafterKey, hkeyMore⟩ := isClosedBy_stringTail hkey
      obtain ⟨hatValue, hcolonMore⟩ := colon_append hcolon
      obtain ⟨hbehind, haMore⟩ := hitem ha
      obtain ⟨hne, hends⟩ := endsNumber_of_entries hothers
      obtain ⟨hsuffix, hothersMore⟩ := ih hothers
      have hfound' : behind <:+ bs := hbehind.trans (hatValue.trans
        ((List.suffix_cons _ afterKey).trans (hafterKey.trans hfound)))
      refine ⟨hsuffix.trans hfound', fun {bound'} hle more => ?_⟩
      cases bound' with
      | zero => cases hle
      | succ bound' =>
        exact entries_step (hnextMore more) (hkeyMore more) (hcolonMore more)
          (haMore hne hends more) (hothersMore (Nat.le_of_succ_le_succ hle) more)

theorem isClosedBy_members (hitem : IsBounded item) : IsClosedBy (ascii '\x7d') (members item) := by
  intro bs as left h
  obtain ⟨hsuffix, hmore⟩ := entries_append hitem h
  refine ⟨hsuffix, fun more => hmore ?_ more⟩
  rw [List.length_append]
  omega

end Brackets

/-! ## Values -/

/-- A byte that is a character of its own. -/
def IsAscii (b : UInt8) : Prop := b.toNat < 0x80

instance : DecidablePred IsAscii := fun b => inferInstanceAs (Decidable (b.toNat < 0x80))

theorem isAscii_of_isSpace {b : UInt8} (h : isSpace b = true) : IsAscii b := by
  rcases eq_of_isSpace h with rfl | rfl | rfl | rfl <;> decide

section Values

variable {depth : Nat} {b : UInt8} {rest left : Bytes} {v : Json}

theorem Reads.append_of_num {n : Number} (h : Reads depth b rest (.num n) left) :
    left <:+ b :: rest ∧ (left ≠ [] → EndsNumber left →
      ∀ more, Reads depth b (rest ++ more) (.num n) (left ++ more)) := by
  generalize hv : Json.num n = v at h
  cases h with
  | negative h =>
    obtain ⟨hsuffix, hmore⟩ := isBounded_number true h
    refine ⟨hsuffix.trans (List.suffix_cons _ rest), fun hne hends more => ?_⟩
    exact .negative (hmore hne hends more)
  | positive hb h =>
    obtain ⟨hsuffix, hmore⟩ := isBounded_number false h
    exact ⟨hsuffix, fun hne hends more => .positive hb (hmore hne hends more)⟩
  | null | yes | no | str | arr | obj => cases hv

/-- Any other value than a number ends with a byte of its own, and is read whatever follows. -/
theorem Reads.append_of_ne_num (h : Reads depth b rest v left) (hv : ∀ n, v ≠ .num n)
    (hinner : ∀ inner, depth = inner + 1 → IsBounded (value inner)) :
    (∃ last, IsAscii last ∧ last :: left <:+ b :: rest) ∧
      ∀ more, Reads depth b (rest ++ more) v (left ++ more) := by
  cases h with
  | null h =>
    obtain ⟨rfl, hmore⟩ := ident_append h
    have hsuffix : ascii 'l' :: left <:+ _ := ⟨[ascii 'n', ascii 'u', ascii 'l'], rfl⟩
    exact ⟨⟨_, by decide, hsuffix⟩, fun more => .null (hmore more)⟩
  | yes h =>
    obtain ⟨rfl, hmore⟩ := ident_append h
    have hsuffix : ascii 'e' :: left <:+ _ := ⟨[ascii 't', ascii 'r', ascii 'u'], rfl⟩
    exact ⟨⟨_, by decide, hsuffix⟩, fun more => .yes (hmore more)⟩
  | no h =>
    obtain ⟨rfl, hmore⟩ := ident_append h
    have hsuffix : ascii 'e' :: left <:+ _ := ⟨[ascii 'f', ascii 'a', ascii 'l', ascii 's'], rfl⟩
    exact ⟨⟨_, by decide, hsuffix⟩, fun more => .no (hmore more)⟩
  | str h =>
    obtain ⟨hsuffix, hmore⟩ := isClosedBy_stringTail h
    exact ⟨⟨_, by decide, hsuffix.trans (List.suffix_cons _ rest)⟩, fun more => .str (hmore more)⟩
  | negative | positive => exact absurd rfl (hv _)
  | arr h =>
    obtain ⟨hsuffix, hmore⟩ := isClosedBy_list (hinner _ rfl) h
    exact ⟨⟨_, by decide, hsuffix.trans (List.suffix_cons _ rest)⟩, fun more => .arr (hmore more)⟩
  | obj h =>
    obtain ⟨hsuffix, hmore⟩ := isClosedBy_members (hinner _ rfl) h
    exact ⟨⟨_, by decide, hsuffix.trans (List.suffix_cons _ rest)⟩, fun more => .obj (hmore more)⟩

theorem isBounded_value (depth : Nat) : IsBounded (value depth) := by
  have hstep (depth : Nat) (hinner : ∀ inner, depth = inner + 1 → IsBounded (value inner)) :
      IsBounded (value depth) := by
    intro bs v left h
    obtain ⟨b, rest, hskip, hreads⟩ := value_eq_ok_iff.mp h
    have hbs : b :: rest <:+ bs := hskip ▸ skipSpace_suffix bs
    by_cases hv : ∃ n, v = .num n
    · obtain ⟨n, rfl⟩ := hv
      obtain ⟨hsuffix, hmore⟩ := hreads.append_of_num
      refine ⟨hsuffix.trans hbs, fun hne hends more => ?_⟩
      exact value_eq_ok_iff.mpr ⟨b, rest ++ more, skipSpace_append hskip more, hmore hne hends more⟩
    · obtain ⟨⟨last, -, hsuffix⟩, hmore⟩ := hreads.append_of_ne_num (not_exists.mp hv) hinner
      refine ⟨(List.suffix_cons last left).trans (hsuffix.trans hbs), fun _ _ more => ?_⟩
      exact value_eq_ok_iff.mpr ⟨b, rest ++ more, skipSpace_append hskip more, hmore more⟩
  induction depth with
  | zero => exact hstep 0 nofun
  | succ depth ih =>
    refine hstep (depth + 1) ?_
    rintro _ ⟨⟩
    exact ih

/-- **A value that is no number is read whatever follows it.** -/
theorem value_append {bs : Bytes} (h : value depth bs = .ok (v, left)) (hv : ∀ n, v ≠ .num n) :
    (∃ last, IsAscii last ∧ last :: left <:+ bs) ∧
      ∀ more, value depth (bs ++ more) = .ok (v, left ++ more) := by
  obtain ⟨b, rest, hskip, hreads⟩ := value_eq_ok_iff.mp h
  obtain ⟨⟨last, hlast, hsuffix⟩, hmore⟩ :=
    hreads.append_of_ne_num hv fun inner _ => isBounded_value inner
  refine ⟨⟨last, hlast, hsuffix.trans (hskip ▸ skipSpace_suffix bs)⟩, fun more => ?_⟩
  exact value_eq_ok_iff.mpr ⟨b, rest ++ more, skipSpace_append hskip more, hmore more⟩

end Values

/-! ## Texts -/

/-- A text that begins with the text of another value, which is no number, has the same value. -/
theorem eq_of_parse_of_prefix {start text : String} {v w : Json} (hstart : parse start = .ok v)
    (htext : parse text = .ok w) (hfront : start.toList <+: text.toList) (hv : ∀ n, v ≠ .num n) :
    v = w := by
  obtain ⟨left, hread, -⟩ := parse_eq_ok_iff.mp hstart
  obtain ⟨left', hread', -⟩ := parse_eq_ok_iff.mp htext
  obtain ⟨more, hmore⟩ := hfront
  rw [Bytes.ofString, ← hmore, Utf8.encode_append] at hread'
  have heq := (value_append hread hv).2 (Utf8.encode more)
  exact (Prod.mk.inj (Except.ok.inj (heq.symm.trans hread'))).1

/-- The last character of a value that is no number is one byte long. -/
theorem isAscii_of_parse {text : String} {v : Json} (h : parse text = .ok v) (hv : ∀ n, v ≠ .num n)
    {b : UInt8} (hb : (Bytes.ofString text).getLast? = some b) : IsAscii b := by
  obtain ⟨left, hread, hspace⟩ := parse_eq_ok_iff.mp h
  obtain ⟨⟨last, hlast, used, hused⟩, -⟩ := value_append hread hv
  rw [← hused, List.getLast?_append_of_ne_nil _ (List.cons_ne_nil last left)] at hb
  rcases List.mem_cons.mp (List.mem_of_getLast? hb) with rfl | hmem
  · exact hlast
  · exact isAscii_of_isSpace (List.dropWhile_eq_nil_iff.mp hspace b hmem)

end ToolAgent.Json
