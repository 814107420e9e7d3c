import Mathlib.Tactic.IntervalCases
import ToolAgent.Text.Utf8

/-!
# Reading UTF-8 back

The scanner finds the characters of encoded text one after the other (`scan_encode_append`), so that
both decoders give back what was encoded. A byte below `0x80` in encoded text is a character of its
own (`mem_of_mem_encode`), which is why text may be cut at such bytes before it is decoded.
-/

namespace ToolAgent

namespace Utf8

/-! ## One character -/

theorem accepts_ofNat {p : Partial} {n : Nat} (hn : n < 0x100) (hlow : p.low.toNat ≤ n)
    (hhigh : n ≤ p.high.toNat) : p.accepts (.ofNat n) = true := by
  simp only [Partial.accepts, Bool.and_eq_true, decide_eq_true_eq, UInt8.le_iff_toNat_le,
    UInt8.toNat_ofNat_of_lt' hn]
  exact ⟨hlow, hhigh⟩

theorem add_ofNat {p : Partial} {n : Nat} (hn : n < 0x100) :
    p.add (.ofNat n) = p.bits * 64 + (n - 0x80) := by
  unfold Partial.add
  rw [UInt8.toNat_ofNat_of_lt' hn]

theorem scan_begun {b : UInt8} {p : Partial} (h : lead b = .begun p) (bs : Bytes) :
    scan none (b :: bs) = scan (some p) bs := by
  simp only [scan, h]

theorem scan_last {p : Partial} {b : UInt8} (h : p.accepts b = true) (hafter : p.after = 0)
    (bs : Bytes) : scan (some p) (b :: bs) = .char (Char.ofNat (p.add b)) :: scan none bs := by
  simp only [scan, h, hafter, if_true]

theorem scan_more {p : Partial} {b : UInt8} {n : Nat} (h : p.accepts b = true)
    (hafter : p.after = n + 1) (bs : Bytes) :
    scan (some p) (b :: bs) =
      scan (some { held := p.held ++ [b], bits := p.add b, after := n }) bs := by
  simp only [scan, h, hafter, if_true]

theorem lead_one {n : Nat} (h : n < 0x80) : lead (.ofNat n) = .whole (Char.ofNat n) := by
  simp only [lead, UInt8.toNat_ofNat_of_lt' (show n < UInt8.size from h.trans (by decide)), h,
    if_true]

theorem lead_two {n : Nat} (h : 0xC2 ≤ n) (h' : n < 0xE0) :
    ∃ p, lead (.ofNat n) = .begun p ∧ p.held = [.ofNat n] ∧ p.bits = n - 0xC0 ∧
      p.after = 0 ∧ p.low.toNat = 0x80 ∧ p.high.toNat = 0xBF := by
  interval_cases n <;> exact ⟨_, rfl, rfl, rfl, rfl, rfl, rfl⟩

/-- The second byte is bounded so that no character is written with more bytes than it takes, and
that none is a surrogate. -/
theorem lead_three {n : Nat} (h : 0xE0 ≤ n) (h' : n < 0xF0) :
    ∃ p, lead (.ofNat n) = .begun p ∧ p.held = [.ofNat n] ∧ p.bits = n - 0xE0 ∧ p.after = 1 ∧
      p.low.toNat = (if n = 0xE0 then 0xA0 else 0x80) ∧
      p.high.toNat = (if n = 0xED then 0x9F else 0xBF) := by
  interval_cases n <;> exact ⟨_, rfl, rfl, rfl, rfl, rfl, rfl⟩

theorem lead_four {n : Nat} (h : 0xF0 ≤ n) (h' : n < 0xF5) :
    ∃ p, lead (.ofNat n) = .begun p ∧ p.held = [.ofNat n] ∧ p.bits = n - 0xF0 ∧ p.after = 2 ∧
      p.low.toNat = (if n = 0xF0 then 0x90 else 0x80) ∧
      p.high.toNat = (if n = 0xF4 then 0x8F else 0xBF) := by
  interval_cases n <;> exact ⟨_, rfl, rfl, rfl, rfl, rfl, rfl⟩

/-- The scanner finds an encoded character at the front of any bytes. -/
theorem scan_utf8EncodeChar (c : Char) (bs : Bytes) :
    scan none (String.utf8EncodeChar c ++ bs) = .char c :: scan none bs := by
  have hvalid : c.val.toNat < 0xD800 ∨ 0xDFFF < c.val.toNat ∧ c.val.toNat < 0x110000 := c.valid
  have hc : Char.ofNat c.val.toNat = c := Char.ofNat_toNat c
  simp only [String.utf8EncodeChar]
  generalize c.val.toNat = v at hvalid hc
  split_ifs with h₁ h₂ h₃
  · simp only [List.cons_append, List.nil_append, scan, lead_one (Nat.lt_succ_of_le h₁), hc]
  · obtain ⟨p, hp, -, hbits, hafter, hlow, hhigh⟩ :=
      lead_two (n := v / 64 % 0x20 + 0xc0) (by omega) (by omega)
    simp only [List.cons_append, List.nil_append]
    rw [scan_begun hp, scan_last (accepts_ofNat (by omega) (by omega) (by omega)) hafter,
      add_ofNat (by omega)]
    have hv : p.bits * 64 + (v % 0x40 + 0x80 - 0x80) = v := by omega
    rw [hv, hc]
  · obtain ⟨p, hp, -, hbits, hafter, hlow, hhigh⟩ :=
      lead_three (n := v / 4096 % 0x10 + 0xe0) (by omega) (by omega)
    have hlow' : p.low.toNat ≤ v / 64 % 0x40 + 0x80 := by rw [hlow]; split_ifs <;> omega
    have hhigh' : v / 64 % 0x40 + 0x80 ≤ p.high.toNat := by rw [hhigh]; split_ifs <;> omega
    simp only [List.cons_append, List.nil_append]
    rw [scan_begun hp, scan_more (accepts_ofNat (by omega) hlow' hhigh') hafter,
      scan_last (accepts_ofNat (by omega) (by simp) (by simp; omega)) rfl,
      add_ofNat (by omega), add_ofNat (by omega)]
    have hv : (p.bits * 64 + (v / 64 % 0x40 + 0x80 - 0x80)) * 64 + (v % 0x40 + 0x80 - 0x80) =
        v := by
      omega
    rw [hv, hc]
  · obtain ⟨p, hp, -, hbits, hafter, hlow, hhigh⟩ :=
      lead_four (n := v / 262144 % 0x08 + 0xf0) (by omega) (by omega)
    have hlow' : p.low.toNat ≤ v / 4096 % 0x40 + 0x80 := by rw [hlow]; split_ifs <;> omega
    have hhigh' : v / 4096 % 0x40 + 0x80 ≤ p.high.toNat := by rw [hhigh]; split_ifs <;> omega
    simp only [List.cons_append, List.nil_append]
    rw [scan_begun hp, scan_more (accepts_ofNat (by omega) hlow' hhigh') hafter,
      scan_more (accepts_ofNat (by omega) (by simp) (by simp; omega)) rfl,
      scan_last (accepts_ofNat (by omega) (by simp) (by simp; omega)) rfl,
      add_ofNat (by omega), add_ofNat (by omega),
      add_ofNat (by omega)]
    have hv : ((p.bits * 64 + (v / 4096 % 0x40 + 0x80 - 0x80)) * 64 +
        (v / 64 % 0x40 + 0x80 - 0x80)) * 64 + (v % 0x40 + 0x80 - 0x80) = v := by
      omega
    rw [hv, hc]

/-! ## Text -/

theorem scan_encode_append (cs : List Char) (bs : Bytes) :
    scan none (encode cs ++ bs) = cs.map .char ++ scan none bs := by
  induction cs with
  | nil => rfl
  | cons c cs ih =>
    rw [encode_cons, List.append_assoc, scan_utf8EncodeChar, ih]
    rfl

theorem scan_encode (cs : List Char) : scan none (encode cs) = cs.map .char := by
  simpa [scan] using scan_encode_append cs []

theorem decodeLossy_encode (cs : List Char) : decodeLossy (encode cs) = cs := by
  rw [decodeLossy, scan_encode, List.map_map]
  exact List.map_id'' (fun _ => rfl) cs

/-- A byte below `0x80` is the whole of a character. -/
theorem eq_ofNat_of_mem_utf8EncodeChar {c : Char} {b : UInt8} (hb : b.toNat < 0x80)
    (h : b ∈ String.utf8EncodeChar c) : c = Char.ofNat b.toNat := by
  have hc : Char.ofNat c.val.toNat = c := Char.ofNat_toNat c
  simp only [String.utf8EncodeChar] at h
  generalize c.val.toNat = v at h hc
  split_ifs at h
  · obtain rfl := List.mem_singleton.mp h
    rw [UInt8.toNat_ofNat', Nat.mod_eq_of_lt (by omega), hc]
  all_goals
    simp only [List.mem_cons, List.not_mem_nil, or_false] at h
    exfalso
  · rcases h with rfl | rfl <;> rw [UInt8.toNat_ofNat'] at hb <;> omega
  · rcases h with rfl | rfl | rfl <;> rw [UInt8.toNat_ofNat'] at hb <;> omega
  · rcases h with rfl | rfl | rfl | rfl <;> rw [UInt8.toNat_ofNat'] at hb <;> omega

theorem mem_of_mem_encode {cs : List Char} {b : UInt8} (hb : b.toNat < 0x80) (h : b ∈ encode cs) :
    Char.ofNat b.toNat ∈ cs := by
  obtain ⟨c, hc, hmem⟩ := List.mem_flatMap.mp h
  exact eq_ofNat_of_mem_utf8EncodeChar hb hmem ▸ hc

theorem head?_of_head?_encode {cs : List Char} {b : UInt8} (hb : b.toNat < 0x80)
    (h : (encode cs).head? = some b) : cs.head? = some (Char.ofNat b.toNat) := by
  cases cs with
  | nil => simp at h
  | cons c cs =>
    obtain ⟨first, others, hc⟩ := List.exists_cons_of_ne_nil (String.utf8EncodeChar_ne_nil (c := c))
    obtain rfl : first = b := by simpa [hc] using h
    have hchar : c = Char.ofNat first.toNat := eq_ofNat_of_mem_utf8EncodeChar hb (by simp [hc])
    rw [List.head?_cons, ← hchar]

theorem encode_intercalate (sep : List Char) (texts : List (List Char)) :
    encode (sep.intercalate texts) = (encode sep).intercalate (texts.map encode) := by
  induction texts with
  | nil => rfl
  | cons text texts ih =>
    cases texts with
    | nil => simp
    | cons other texts => simp_all [List.intercalate_cons_cons]

end Utf8

namespace Bytes

theorem ofString_append (s t : String) : ofString (s ++ t) = ofString s ++ ofString t := by
  rw [ofString, String.toList_append, Utf8.encode_append]
  rfl

theorem ofString_intercalate (sep : String) (texts : List String) :
    ofString (sep.intercalate texts) = (ofString sep).intercalate (texts.map ofString) := by
  simp only [ofString, String.toList_intercalate, Utf8.encode_intercalate, List.map_map]
  rfl

theorem toStringLossy_ofString (s : String) : toStringLossy (ofString s) = s := by
  rw [toStringLossy, ofString, Utf8.decodeLossy_encode, String.ofList_toList]

end Bytes

end ToolAgent
