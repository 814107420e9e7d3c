import Mathlib.Data.List.Infix
import ToolAgent.Proofs.Completion.Streaming
import ToolAgent.Proofs.Json.Ends
import ToolAgent.Proofs.Text.Beginnings

/-!
# Beginnings of completions

No payload takes back what has been accumulated before it: the text and the calls only grow
(`Accumulator.Begins.takeAll`). A payload that has been cut cannot be read, or adds nothing, or
means what it means as a whole (`Payload.isIdle_or_eq_of_begins`).
-/

namespace ToolAgent

/-- The call has begun like this: more may have been added to its name and to its arguments. -/
structure PendingCall.Begins (begun call : PendingCall) : Prop where
  index : begun.index = call.index
  name : begun.name.toList <+: call.name.toList
  arguments : begun.arguments.toList <+: call.arguments.toList

namespace PendingCall.Begins

variable {first call last : PendingCall}

theorem refl (call : PendingCall) : Begins call call :=
  ⟨rfl, List.prefix_rfl, List.prefix_rfl⟩

theorem trans (h : Begins first call) (h' : Begins call last) : Begins first last :=
  ⟨h.index.trans h'.index, h.name.trans h'.name, h.arguments.trans h'.arguments⟩

theorem add (h : Begins first call) (fragment : Json) : Begins first (call.add fragment) := by
  refine h.trans ⟨rfl, ?_, ?_⟩ <;>
    · rw [PendingCall.add, String.toList_append]
      exact List.prefix_append ..

end PendingCall.Begins

/-- The calls have begun like these: more may have been added to each, and others may have begun
behind them. -/
inductive PendingCall.AllBegin : List PendingCall → List PendingCall → Prop where
  | nil (calls : List PendingCall) : AllBegin [] calls
  | cons {first call : PendingCall} {begun calls : List PendingCall} (h : Begins first call)
      (hrest : AllBegin begun calls) : AllBegin (first :: begun) (call :: calls)

namespace PendingCall.AllBegin

variable {begun calls : List PendingCall}

theorem refl (calls : List PendingCall) : AllBegin calls calls := by
  induction calls with
  | nil => exact .nil []
  | cons call calls ih => exact .cons (.refl call) ih

theorem exists_mem (h : AllBegin begun calls) {first : PendingCall} (hfirst : first ∈ begun) :
    ∃ call ∈ calls, Begins first call := by
  induction h with
  | nil => simp at hfirst
  | cons hcall _ ih =>
    obtain rfl | hmem := List.mem_cons.mp hfirst
    · exact ⟨_, List.mem_cons_self, hcall⟩
    · obtain ⟨call, hcall, hbegins⟩ := ih hmem
      exact ⟨call, List.mem_cons_of_mem _ hcall, hbegins⟩

theorem addTo (h : AllBegin begun calls) (index : Nat) (fragment : Json) :
    AllBegin begun (Accumulator.addTo index fragment calls) := by
  induction h with
  | nil => exact .nil _
  | cons hcall hrest ih =>
    rw [Accumulator.addTo]
    split
    · exact .cons (hcall.add fragment) hrest
    · exact .cons hcall ih

theorem foldl (h : AllBegin begun calls) (fragments : List Json) :
    AllBegin begun (fragments.foldl Accumulator.addFragment calls) := by
  induction fragments generalizing calls with
  | nil => exact h
  | cons fragment fragments ih => exact ih (h.addTo _ fragment)

end PendingCall.AllBegin

namespace Accumulator

/-- What has been accumulated began like this. -/
structure Begins (begun acc : Accumulator) : Prop where
  content : begun.content.toList <+: acc.content.toList
  calls : PendingCall.AllBegin begun.calls acc.calls

namespace Begins

variable {begun acc acc' : Accumulator}

theorem refl (acc : Accumulator) : Begins acc acc := ⟨List.prefix_rfl, .refl _⟩

theorem addChunk (h : Begins begun acc) (chunk : Json) : Begins begun (acc.addChunk chunk) := by
  constructor
  · rw [content_addChunk, String.toList_append]
    exact h.content.trans (List.prefix_append ..)
  · rw [calls_addChunk]
    exact h.calls.foldl _

/-- No payload takes anything back. -/
theorem take (h : Begins begun acc) (payload : Payload) : Begins begun (acc.take payload) := by
  cases payload with
  | chunk value => exact h.addChunk value
  | done | failed => exact ⟨h.content, h.calls⟩
  | blank | unreadable | reported => exact h

theorem takeAll (h : Begins begun acc) {texts : List String}
    (htexts : acc.takeAll texts = .ok acc') : Begins begun acc' := by
  induction texts generalizing acc with
  | nil =>
    obtain rfl := Except.ok.inj htexts
    exact h
  | cons text texts ih =>
    rw [takeAll_cons] at htexts
    split at htexts
    · cases htexts
    · exact ih (h.take _) htexts

end Begins

end Accumulator

/-! ## One call for each index -/

namespace Accumulator

variable {acc acc' : Accumulator}

theorem nodup_foldl_addFragment {calls : List PendingCall}
    (h : (calls.map PendingCall.index).Nodup) (fragments : List Json) :
    ((fragments.foldl addFragment calls).map PendingCall.index).Nodup := by
  induction fragments generalizing calls with
  | nil => exact h
  | cons fragment fragments ih => exact ih (nodup_addTo h _ fragment)

theorem nodup_take (h : (acc.calls.map PendingCall.index).Nodup) (payload : Payload) :
    ((acc.take payload).calls.map PendingCall.index).Nodup := by
  cases payload with
  | chunk value =>
    rw [take, calls_addChunk]
    exact nodup_foldl_addFragment h _
  | blank | done | failed | unreadable | reported => exact h

/-- However many fragments have come, there is one call for each index. -/
theorem nodup_takeAll (h : (acc.calls.map PendingCall.index).Nodup) {texts : List String}
    (htexts : acc.takeAll texts = .ok acc') : (acc'.calls.map PendingCall.index).Nodup := by
  induction texts generalizing acc with
  | nil =>
    obtain rfl := Except.ok.inj htexts
    exact h
  | cons text texts ih =>
    rw [takeAll_cons] at htexts
    split at htexts
    · cases htexts
    · exact ih (nodup_take h _) htexts

end Accumulator

/-! ## Idle payloads -/

/-- The payload adds nothing to a completion: it holds nothing, or a marker, or a number. -/
inductive Payload.IsIdle : Payload → Prop where
  | blank : IsIdle .blank
  | done : IsIdle .done
  | num (n : Number) : IsIdle (.chunk (.num n))

theorem Accumulator.begins_take_of_isIdle {payload : Payload} (h : payload.IsIdle)
    (acc : Accumulator) : Begins (acc.take payload) acc := by
  cases h with
  | blank | done | num => exact ⟨List.prefix_rfl, .refl _⟩

open Payload (IsHarmless)

namespace Payload

variable {start text : String}

theorem isBlank_iff : IsBlank text ↔ Text.trimChars text.toList = [] := by
  rw [IsBlank, Text.trim, ← String.toList_inj, String.toList_ofList]
  rfl

theorem parse_eq_none_of_prefix_marker {cs : List Char} (h : cs <+: doneMarker.toList) :
    (Json.parse (String.ofList cs)).toOption = none := by
  have hall : ∀ cs ∈ doneMarker.toList.inits, (Json.parse (String.ofList cs)).toOption = none := by
    decide +kernel
  exact hall cs ((List.mem_inits cs _).mpr h)

/-- **A payload that has been cut is never taken for another one.** If both it and the whole payload
are harmless, it adds nothing or means the same. -/
theorem isIdle_or_eq_of_begins (hbegins : Begins start.toList text.toList)
    (hstart : IsHarmless start) (htext : IsHarmless text) :
    (ofText start).IsIdle ∨ ofText start = ofText text := by
  cases hstart with
  | blank h => exact .inl (ofText_of_isBlank h ▸ .blank)
  | done h => exact .inl (ofText_of_isDone h ▸ .done)
  | @chunk v h =>
    by_cases hnum : ∃ n, v = .num n
    · obtain ⟨n, rfl⟩ := hnum
      exact .inl (ofText_of_isChunk h ▸ .num n)
    have hv : ∀ n, v ≠ .num n := not_exists.mp hnum
    obtain hfront | ⟨before, hcut⟩ := Text.trimChars_of_begins hbegins
    · cases htext with
      | blank htext =>
        have hblank : IsBlank start := by
          rw [isBlank_iff] at htext ⊢
          exact List.prefix_nil.mp (htext ▸ hfront)
        exact .inl (ofText_of_isBlank hblank ▸ .blank)
      | done htext =>
        rw [IsDone, Text.trim, ← String.toList_inj, String.toList_ofList] at htext
        have hnone := parse_eq_none_of_prefix_marker (htext ▸ hfront)
        rw [← Text.trim, h.1] at hnone
        cases hnone
      | @chunk w hw =>
        have htrim : (Text.trim start).toList <+: (Text.trim text).toList := by
          rwa [Text.trim, Text.trim, String.toList_ofList, String.toList_ofList]
        have heq : v = w := Json.eq_of_parse_of_prefix h.1 hw.1 htrim hv
        exact .inr (by rw [ofText_of_isChunk h, ofText_of_isChunk hw, heq])
    · -- no value ends in the middle of a character
      have hbytes : (Bytes.ofString (Text.trim start)).getLast? = some 0xBD := by
        rw [Bytes.ofString, Text.trim, String.toList_ofList, hcut, Utf8.encode_append,
          List.getLast?_append]
        rfl
      exact absurd (Json.isAscii_of_parse h.1 hv hbytes) (by decide)

end Payload

namespace Accumulator

variable {acc acc₁ acc₂ : Accumulator}

/-- What comes of payloads that go on is more than what comes of the first one after it was cut. -/
theorem begins_of_takeAll {start text : String} {after : List String}
    (hbegins : ToolAgent.Begins start.toList text.toList) (hstart : acc.takeAll [start] = .ok acc₁)
    (htext : acc.takeAll (text :: after) = .ok acc₂) : acc₁.Begins acc₂ := by
  have hharmless : IsHarmless start := exists_takeAll_iff.mp ⟨acc₁, hstart⟩ start List.mem_cons_self
  have hharmless' : IsHarmless text := exists_takeAll_iff.mp ⟨acc₂, htext⟩ text List.mem_cons_self
  rw [takeAll_cons, Payload.failure?_of_isHarmless hharmless] at hstart
  rw [takeAll_cons, Payload.failure?_of_isHarmless hharmless'] at htext
  obtain rfl := Except.ok.inj hstart
  obtain hidle | heq := Payload.isIdle_or_eq_of_begins hbegins hharmless hharmless'
  · exact ((begins_take_of_isIdle hidle acc).take _).takeAll htext
  · rw [heq]
    exact (Begins.refl _).takeAll htext

end Accumulator

end ToolAgent
