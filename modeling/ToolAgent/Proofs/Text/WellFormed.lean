import ToolAgent.Proofs.Text.Utf8

/-!
# Well-formed UTF-8

Bytes are read as characters only if they are what these characters are written with
(`decode?_eq_some_iff`). The scanner keeps track of it: a character that has begun `IsFaithful`, and
the pieces that it finds make up the bytes again (`flatMap_bytes_scan`).
-/

namespace ToolAgent

namespace Utf8

/-! ## Characters by the number of their bytes -/

theorem val_ofNat {v : Nat} (h : v.isValidChar) : (Char.ofNat v).val.toNat = v := by
  rw [Char.ofNat, dif_pos h]
  rfl

theorem utf8EncodeChar_two {v : Nat} (hlow : 0x80 ≤ v) (hhigh : v < 0x800) :
    String.utf8EncodeChar (Char.ofNat v) =
      [.ofNat (v / 64 + 0xC0), .ofNat (v % 64 + 0x80)] := by
  have hv : (Char.ofNat v).val.toNat = v := val_ofNat (.inl (by omega))
  simp only [String.utf8EncodeChar, hv]
  rw [if_neg (by omega), if_pos (by omega)]
  have h : v / 64 % 0x20 = v / 64 := by omega
  rw [h]

theorem utf8EncodeChar_three {v : Nat} (hlow : 0x800 ≤ v) (hhigh : v < 0x10000)
    (hvalid : v < 0xD800 ∨ 0xDFFF < v) :
    String.utf8EncodeChar (Char.ofNat v) =
      [.ofNat (v / 4096 + 0xE0), .ofNat (v / 64 % 64 + 0x80), .ofNat (v % 64 + 0x80)] := by
  have hv : (Char.ofNat v).val.toNat = v := val_ofNat (by unfold Nat.isValidChar; omega)
  simp only [String.utf8EncodeChar, hv]
  rw [if_neg (by omega), if_neg (by omega), if_pos (by omega)]
  have h : v / 4096 % 0x10 = v / 4096 := by omega
  rw [h]

theorem utf8EncodeChar_four {v : Nat} (hlow : 0x10000 ≤ v) (hhigh : v < 0x110000) :
    String.utf8EncodeChar (Char.ofNat v) =
      [.ofNat (v / 262144 + 0xF0), .ofNat (v / 4096 % 64 + 0x80), .ofNat (v / 64 % 64 + 0x80),
        .ofNat (v % 64 + 0x80)] := by
  have hv : (Char.ofNat v).val.toNat = v := val_ofNat (by unfold Nat.isValidChar; omega)
  simp only [String.utf8EncodeChar, hv]
  rw [if_neg (by omega), if_neg (by omega), if_neg (by omega)]
  have h : v / 262144 % 0x08 = v / 262144 := by omega
  rw [h]

/-! ## Characters in progress -/

/-- However the character goes on, it is written with the bytes it is read from. -/
def FaithfulAfter : (after : Nat) → Partial → Prop
  | 0, p => ∀ b, p.accepts b = true → String.utf8EncodeChar (Char.ofNat (p.add b)) = p.held ++ [b]
  | n + 1, p => ∀ b, p.accepts b = true →
    FaithfulAfter n { held := p.held ++ [b], bits := p.add b, after := n }

def Partial.IsFaithful (p : Partial) : Prop := FaithfulAfter p.after p

theorem faithful_last {p : Partial}
    (h : ∀ n, p.low.toNat ≤ n → n ≤ p.high.toNat →
      String.utf8EncodeChar (Char.ofNat (p.bits * 64 + (n - 0x80))) = p.held ++ [.ofNat n]) :
    FaithfulAfter 0 p := by
  intro b hb
  simp only [Partial.accepts, Bool.and_eq_true, decide_eq_true_eq, UInt8.le_iff_toNat_le] at hb
  have hread := h b.toNat hb.1 hb.2
  rwa [UInt8.ofNat_toNat] at hread

theorem faithful_more {p : Partial} {after : Nat}
    (h : ∀ n, p.low.toNat ≤ n → n ≤ p.high.toNat →
      FaithfulAfter after
        { held := p.held ++ [.ofNat n], bits := p.bits * 64 + (n - 0x80), after := after }) :
    FaithfulAfter (after + 1) p := by
  intro b hb
  simp only [Partial.accepts, Bool.and_eq_true, decide_eq_true_eq, UInt8.le_iff_toNat_le] at hb
  have hread := h b.toNat hb.1 hb.2
  rwa [UInt8.ofNat_toNat] at hread

theorem exists_faithful_two {n : Nat} (h : 0xC2 ≤ n) (h' : n < 0xE0) :
    ∃ p, lead (.ofNat n) = .begun p ∧ p.held = [.ofNat n] ∧ p.IsFaithful := by
  obtain ⟨p, hp, hheld, hbits, hafter, hlow, hhigh⟩ := lead_two h h'
  refine ⟨p, hp, hheld, ?_⟩
  rw [Partial.IsFaithful, hafter]
  refine faithful_last ?_
  intro m hm hm'
  rw [hlow] at hm
  rw [hhigh] at hm'
  rw [hbits, hheld, utf8EncodeChar_two (by omega) (by omega)]
  have h₁ : ((n - 0xC0) * 64 + (m - 0x80)) / 64 + 0xC0 = n := by omega
  have h₂ : ((n - 0xC0) * 64 + (m - 0x80)) % 64 + 0x80 = m := by omega
  rw [h₁, h₂]
  rfl

theorem exists_faithful_three {n : Nat} (h : 0xE0 ≤ n) (h' : n < 0xF0) :
    ∃ p, lead (.ofNat n) = .begun p ∧ p.held = [.ofNat n] ∧ p.IsFaithful := by
  obtain ⟨p, hp, hheld, hbits, hafter, hlow, hhigh⟩ := lead_three h h'
  refine ⟨p, hp, hheld, ?_⟩
  rw [Partial.IsFaithful, hafter]
  refine faithful_more ?_
  intro m hm hm'
  refine faithful_last ?_
  intro k (hk : 0x80 ≤ k) (hk' : k ≤ 0xBF)
  rw [hlow] at hm
  rw [hhigh] at hm'
  -- the bounds on the second byte keep out what takes two bytes, and surrogates
  have hm₁ : 0x80 ≤ m ∧ m ≤ 0xBF ∧ (n = 0xE0 → 0xA0 ≤ m) ∧ (n = 0xED → m ≤ 0x9F) := by
    split_ifs at hm hm' <;> omega
  rw [hbits, hheld]
  dsimp only
  rw [utf8EncodeChar_three (by omega) (by omega) (by omega)]
  have h₁ : (((n - 0xE0) * 64 + (m - 0x80)) * 64 + (k - 0x80)) / 4096 + 0xE0 = n := by omega
  have h₂ : (((n - 0xE0) * 64 + (m - 0x80)) * 64 + (k - 0x80)) / 64 % 64 + 0x80 = m := by omega
  have h₃ : (((n - 0xE0) * 64 + (m - 0x80)) * 64 + (k - 0x80)) % 64 + 0x80 = k := by omega
  rw [h₁, h₂, h₃]
  rfl

theorem exists_faithful_four {n : Nat} (h : 0xF0 ≤ n) (h' : n < 0xF5) :
    ∃ p, lead (.ofNat n) = .begun p ∧ p.held = [.ofNat n] ∧ p.IsFaithful := by
  obtain ⟨p, hp, hheld, hbits, hafter, hlow, hhigh⟩ := lead_four h h'
  refine ⟨p, hp, hheld, ?_⟩
  rw [Partial.IsFaithful, hafter]
  refine faithful_more ?_
  intro m hm hm'
  refine faithful_more ?_
  intro k (hk : 0x80 ≤ k) (hk' : k ≤ 0xBF)
  refine faithful_last ?_
  intro l (hl : 0x80 ≤ l) (hl' : l ≤ 0xBF)
  rw [hlow] at hm
  rw [hhigh] at hm'
  -- the bounds on the second byte keep out what takes three bytes, and what is no character
  have hm₁ : 0x80 ≤ m ∧ m ≤ 0xBF ∧ (n = 0xF0 → 0x90 ≤ m) ∧ (n = 0xF4 → m ≤ 0x8F) := by
    split_ifs at hm hm' <;> omega
  rw [hbits, hheld]
  dsimp only
  rw [utf8EncodeChar_four (by omega) (by omega)]
  have h₁ : ((((n - 0xF0) * 64 + (m - 0x80)) * 64 + (k - 0x80)) * 64 + (l - 0x80)) / 262144 +
      0xF0 = n := by
    omega
  have h₂ : ((((n - 0xF0) * 64 + (m - 0x80)) * 64 + (k - 0x80)) * 64 + (l - 0x80)) / 4096 % 64 +
      0x80 = m := by
    omega
  have h₃ : ((((n - 0xF0) * 64 + (m - 0x80)) * 64 + (k - 0x80)) * 64 + (l - 0x80)) / 64 % 64 +
      0x80 = k := by
    omega
  have h₄ : ((((n - 0xF0) * 64 + (m - 0x80)) * 64 + (k - 0x80)) * 64 + (l - 0x80)) % 64 +
      0x80 = l := by
    omega
  rw [h₁, h₂, h₃, h₄]
  rfl

/-- What the first byte of a character tells. -/
theorem lead_spec (b : UInt8) :
    (∃ c, lead b = .whole c ∧ String.utf8EncodeChar c = [b]) ∨ lead b = .illFormed ∨
      ∃ p, lead b = .begun p ∧ p.held = [b] ∧ p.IsFaithful := by
  obtain ⟨n, hn, rfl⟩ : ∃ n < 0x100, b = .ofNat n := ⟨b.toNat, b.toNat_lt, UInt8.ofNat_toNat.symm⟩
  by_cases hone : n < 0x80
  · refine .inl ⟨_, lead_one hone, ?_⟩
    have hv : (Char.ofNat n).val.toNat = n := val_ofNat (.inl (by omega))
    simp only [String.utf8EncodeChar, hv]
    rw [if_pos (by omega)]
  by_cases htwo : 0xC2 ≤ n ∧ n < 0xE0
  · exact .inr (.inr (exists_faithful_two htwo.1 htwo.2))
  by_cases hthree : 0xE0 ≤ n ∧ n < 0xF0
  · exact .inr (.inr (exists_faithful_three hthree.1 hthree.2))
  by_cases hfour : 0xF0 ≤ n ∧ n < 0xF5
  · exact .inr (.inr (exists_faithful_four hfour.1 hfour.2))
  -- what is left goes on a character, or is in none
  have hill : n < 0xC2 ∨ 0xF5 ≤ n := by omega
  refine .inr (.inl ?_)
  unfold lead
  rw [UInt8.toNat_ofNat_of_lt' hn]
  rcases hill with hlow | hhigh
  · rw [if_neg hone, if_pos hlow]
  · rw [if_neg hone, if_neg (by omega), if_neg (by omega), if_neg (by omega), if_neg (by omega),
      if_neg (by omega), if_neg (by omega), if_neg (by omega), if_neg (by omega)]

/-! ## Pieces -/

/-- The bytes that a piece stands for. -/
def Piece.bytes : Piece → Bytes
  | .char c => String.utf8EncodeChar c
  | .illFormed bytes => bytes

/-- A character that is broken off is a piece of its own. -/
theorem scan_broken {p : Partial} {b : UInt8} (h : p.accepts b = false) (bs : Bytes) :
    scan (some p) (b :: bs) = .illFormed p.held :: scan none (b :: bs) := by
  simp only [scan, h, Bool.false_eq_true, if_false]
  cases lead b <;> rfl

/-- The pieces make up the bytes that are scanned. -/
theorem flatMap_bytes_scan {p? : Option Partial} (h : ∀ p, p? = some p → p.IsFaithful)
    (bs : Bytes) :
    (scan p? bs).flatMap Piece.bytes = (p?.map Partial.held).getD [] ++ bs := by
  induction bs generalizing p? with
  | nil =>
    cases p? with
    | none => rfl
    | some p => simp [scan, Piece.bytes]
  | cons b bs ih =>
    have hfresh : (scan none (b :: bs)).flatMap Piece.bytes = b :: bs := by
      rcases lead_spec b with ⟨c, hc, hbytes⟩ | hill | ⟨p, hp, hheld, hfaithful⟩
      · simp [scan, hc, Piece.bytes, hbytes, ih]
      · simp [scan, hill, Piece.bytes, ih]
      · rw [scan_begun hp, ih (by simpa using hfaithful), Option.map_some, Option.getD_some, hheld]
        rfl
    cases p? with
    | none => exact hfresh
    | some p =>
      have hp : FaithfulAfter p.after p := h p rfl
      cases hb : p.accepts b with
      | false =>
        rw [scan_broken hb, List.flatMap_cons, hfresh]
        rfl
      | true =>
        cases hafter : p.after with
        | zero =>
          rw [hafter] at hp
          rw [scan_last hb hafter, List.flatMap_cons, Piece.bytes, hp b hb, ih (by simp)]
          simp
        | succ n =>
          rw [hafter] at hp
          let next : Partial := { held := p.held ++ [b], bits := p.add b, after := n }
          have hnext : ∀ q, some next = some q → q.IsFaithful := by
            rintro _ ⟨⟩
            exact hp b hb
          rw [scan_more hb hafter, ih hnext]
          exact List.append_assoc p.held [b] bs

/-! ## Decoding -/

theorem decode?_encode (cs : List Char) : decode? (encode cs) = some cs := by
  rw [decode?, scan_encode]
  induction cs with
  | nil => rfl
  | cons c cs ih =>
    rw [List.map_cons, List.mapM_cons, ih]
    rfl

theorem eq_map_char_of_mapM {pieces : List Piece} {cs : List Char}
    (h : pieces.mapM Piece.char? = some cs) : pieces = cs.map .char := by
  induction pieces generalizing cs with
  | nil =>
    obtain rfl : [] = cs := Option.some.inj h
    rfl
  | cons piece pieces ih =>
    rw [List.mapM_cons] at h
    obtain ⟨c, hc, h⟩ := Option.bind_eq_some_iff.mp h
    obtain ⟨rest, hrest, h⟩ := Option.bind_eq_some_iff.mp h
    obtain rfl : c :: rest = cs := Option.some.inj h
    cases piece with
    | char c' =>
      obtain rfl : c' = c := Option.some.inj hc
      rw [List.map_cons, ← ih hrest]
    | illFormed => cases hc

/-- No other bytes than the encoded ones are read as these characters. -/
theorem decode?_eq_some_iff {bs : Bytes} {cs : List Char} :
    decode? bs = some cs ↔ bs = encode cs := by
  constructor
  · intro h
    have hbytes : (scan none bs).flatMap Piece.bytes = bs := by
      simpa using @flatMap_bytes_scan none (by simp) bs
    rw [eq_map_char_of_mapM h, List.flatMap_map] at hbytes
    exact hbytes.symm
  · rintro rfl
    exact decode?_encode cs

end Utf8

namespace Bytes

theorem toString?_eq_some_iff {bs : Bytes} {s : String} :
    toString? bs = some s ↔ bs = ofString s := by
  rw [toString?, Option.map_eq_some_iff, ofString]
  constructor
  · rintro ⟨cs, hcs, rfl⟩
    rw [String.toList_ofList]
    exact Utf8.decode?_eq_some_iff.mp hcs
  · rintro rfl
    exact ⟨s.toList, Utf8.decode?_encode _, String.ofList_toList⟩

end Bytes

end ToolAgent
