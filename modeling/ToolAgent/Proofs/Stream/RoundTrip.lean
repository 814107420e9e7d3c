import Mathlib.Data.List.Basic
import ToolAgent.Proofs.Stream.Framing

/-!
# Payloads sent as events

A payload is written as an event with a line of data for each of its own lines; an empty payload is
one empty line. Around these lines, and between the events, there may be lines that hold no data,
events without data and blank lines (`Writes`). It is the payloads without carriage returns that can
be written so, and a reader that is given the bytes in any pieces finds them again, all of them and
nothing else (`EventReader.pushAll_of_writes`).
-/

namespace ToolAgent.Stream

/-! ## The lines of a payload -/

/-- The lines of a payload, of which there is one at least. -/
def payloadLines (payload : String) : List String :=
  (payload.toList.splitOn '\n').map String.ofList

theorem payloadLines_ne_nil (payload : String) : payloadLines payload ≠ [] := by
  rw [payloadLines, ne_eq, List.map_eq_nil_iff]
  exact List.splitOn_ne_nil _ payload.toList

theorem intercalate_payloadLines (payload : String) :
    "\n".intercalate (payloadLines payload) = payload := by
  refine String.toList_injective ?_
  rw [String.toList_intercalate, payloadLines, List.map_map]
  simp only [Function.comp_def, String.toList_ofList, List.map_id']
  exact List.intercalate_splitOn '\n'

theorem not_mem_of_mem_splitOn {sep : Char} {cs part : List Char} (h : part ∈ cs.splitOn sep) :
    sep ∉ part := by
  induction cs generalizing part with
  | nil =>
    rw [List.splitOn_nil, List.mem_singleton] at h
    simp [h]
  | cons c cs ih =>
    obtain ⟨first, others, hcs⟩ := List.exists_cons_of_ne_nil (List.splitOn_ne_nil sep cs)
    rw [hcs] at ih
    rw [List.splitOn_cons_eq_if_modifyHead, hcs, List.modifyHead_cons] at h
    split at h
    · obtain rfl | hmem := List.mem_cons.mp h
      · simp
      · exact ih hmem
    · rename_i hc
      obtain rfl | hmem := List.mem_cons.mp h
      · have hfirst : sep ∉ first := ih List.mem_cons_self
        have hne : sep ≠ c := fun heq => hc (by simp [heq])
        simp [hne, hfirst]
      · exact ih (List.mem_cons_of_mem _ hmem)

theorem exists_mem_splitOn_iff {sep c : Char} (hc : c ≠ sep) {cs : List Char} :
    (∃ part ∈ cs.splitOn sep, c ∈ part) ↔ c ∈ cs := by
  induction cs with
  | nil => simp
  | cons d cs ih =>
    obtain ⟨first, others, hcs⟩ := List.exists_cons_of_ne_nil (List.splitOn_ne_nil sep cs)
    rw [hcs] at ih
    rw [List.splitOn_cons_eq_if_modifyHead, hcs, List.modifyHead_cons, List.mem_cons, ← ih]
    split
    · rename_i hd
      have hne : c ≠ d := fun heq => hc (heq.trans (by simpa using hd))
      simp [hne]
    · simp [or_assoc]

theorem lineFeed_not_mem_of_mem_payloadLines {payload text : String}
    (h : text ∈ payloadLines payload) : '\n' ∉ text.toList := by
  obtain ⟨part, hpart, rfl⟩ := List.mem_map.mp h
  rw [String.toList_ofList]
  exact not_mem_of_mem_splitOn hpart

theorem carriageReturn_not_mem_iff {payload : String} :
    '\r' ∉ payload.toList ↔ ∀ text ∈ payloadLines payload, '\r' ∉ text.toList := by
  have hsplit : (∃ part ∈ payload.toList.splitOn '\n', '\r' ∈ part) ↔ '\r' ∈ payload.toList :=
    exists_mem_splitOn_iff (by decide)
  rw [← hsplit, payloadLines, List.forall_mem_map]
  simp only [String.toList_ofList, not_exists, not_and]

/-! ## Writing payloads -/

/-- The texts of the lines of data. -/
def Event.texts (event : Event) : List String := (event.lines.map Prod.fst).filterMap Line.text?

/-- The events carry the payloads, in order, and nothing else. -/
inductive Writes : List String → List Event → Prop where
  | nil : Writes [] []
  /-- An event without data, which may be no more than a blank line. -/
  | silent {payloads : List String} {events : List Event} {event : Event} (h : event.texts = [])
      (hrest : Writes payloads events) : Writes payloads (event :: events)
  | payload {payload : String} {payloads : List String} {events : List Event} {event : Event}
      (h : event.texts = payloadLines payload) (hrest : Writes payloads events) :
      Writes (payload :: payloads) (event :: events)

namespace Writes

variable {payloads : List String} {events : List Event}

theorem filterMap_payload? (h : Writes payloads events) :
    events.filterMap Event.payload? = payloads := by
  induction h with
  | nil => rfl
  | @silent payloads events event htexts hrest ih =>
    have hnone : event.payload? = none := by
      rw [Event.payload?, ← Event.texts, htexts]
    rw [List.filterMap_cons_none hnone, ih]
  | @payload payload payloads events event htexts hrest ih =>
    obtain ⟨text, texts, hlines⟩ := List.exists_cons_of_ne_nil (payloadLines_ne_nil payload)
    have hsome : event.payload? = some payload := by
      rw [Event.payload?, ← Event.texts, htexts, hlines]
      simp only
      rw [← hlines, intercalate_payloadLines]
    rw [List.filterMap_cons_some hsome, ih]

/-- No line of data holds a carriage return. -/
theorem carriageReturn_not_mem (h : Writes payloads events) :
    ∀ payload ∈ payloads, '\r' ∉ payload.toList := by
  induction h with
  | nil => simp
  | silent _ _ ih => exact ih
  | @payload payload payloads events event htexts _ ih =>
    refine List.forall_mem_cons.mpr ⟨?_, ih⟩
    rw [carriageReturn_not_mem_iff, ← htexts]
    intro text htext
    obtain ⟨line, -, hline⟩ := List.mem_filterMap.mp htext
    cases line with
    | data spaced text' oneLine _ =>
      obtain rfl : text' = text := by simpa [Line.text?] using hline
      exact oneLine.2
    | other => simp [Line.text?] at hline

end Writes

/-- Each line of the payload behind a colon and a space. -/
def Event.ofPayload (payload : String) (h : '\r' ∉ payload.toList) : Event where
  lines := (payloadLines payload).attach.map fun text =>
    (.data true text.1
      ⟨lineFeed_not_mem_of_mem_payloadLines text.2, carriageReturn_not_mem_iff.mp h _ text.2⟩
      (by simp), .lf)
  close := .lf

theorem Event.texts_ofPayload (payload : String) (h : '\r' ∉ payload.toList) :
    (Event.ofPayload payload h).texts = payloadLines payload := by
  rw [texts, ofPayload, List.map_map, List.filterMap_map]
  have hattach : (payloadLines payload).attach.filterMap (fun text => some text.1) =
      payloadLines payload := by
    rw [List.filterMap_eq_map', List.attach_map_subtype_val]
  exact hattach

theorem exists_writes_iff {payloads : List String} :
    (∃ events, Writes payloads events) ↔ ∀ payload ∈ payloads, '\r' ∉ payload.toList := by
  constructor
  · rintro ⟨events, h⟩
    exact h.carriageReturn_not_mem
  · intro h
    induction payloads with
    | nil => exact ⟨[], .nil⟩
    | cons payload payloads ih =>
      obtain ⟨hpayload, hpayloads⟩ := List.forall_mem_cons.mp h
      obtain ⟨events, hevents⟩ := ih hpayloads
      exact ⟨_, .payload (Event.texts_ofPayload payload hpayload) hevents⟩

/-! ## Reading them back -/

namespace EventReader

/-- **Events and their payloads.** The payloads that can be written are those without carriage
returns. In whatever pieces the bytes of the events arrive, the reader gives exactly the payloads
that were written, in order. Lines without data behind the last event add nothing to them, and
nothing is left to give when the stream ends. -/
theorem pushAll_of_writes {payloads : List String} :
    ((∃ events, Writes payloads events) ↔ ∀ payload ∈ payloads, '\r' ∉ payload.toList) ∧
    ∀ (events : List Event) (trailer : List (Line × LineEnd)) (pieces : List Bytes),
      Writes payloads events → (∀ line ∈ trailer, line.1.text? = none) →
      pieces.flatten = streamBytes events ++ linesBytes trailer →
      (({} : EventReader).pushAll pieces).1 = payloads ∧
        (({} : EventReader).pushAll pieces).2.finish.1 = none := by
  refine ⟨exists_writes_iff, ?_⟩
  intro events trailer pieces hwrites htrailer hpieces
  obtain ⟨found, rest, hsplit, hfound, hrest⟩ := exists_split_streamBytes (.inl rfl) events
  -- the lines behind the last event end no event
  have hlines : Unbroken (rest ++ fedLines (trailer.map Prod.fst)) := unbroken_fedLines hrest _
  have hall : Split (withoutReturns pieces.flatten) found
      (rest ++ fedLines (trailer.map Prod.fst)) := by
    rw [hpieces, withoutReturns_append, withoutReturns_linesBytes]
    simpa using hsplit.append (Split.of_unbroken hlines)
  have htexts : (trailer.map Prod.fst).filterMap Line.text? = [] := by
    rw [List.filterMap_map, List.filterMap_eq_nil_iff]
    exact htrailer
  have hnone : payload? (rest ++ fedLines (trailer.map Prod.fst)) = none := by
    have hdata := @filterMap_lineData?_fedLines rest [] hrest (trailer.map Prod.fst) (by decide)
    rw [List.append_nil, htexts] at hdata
    rw [payload?, hdata]
    rfl
  rw [pushAll_eq_of_split unbroken_nil (by simpa using hall)]
  exact ⟨hfound.trans hwrites.filterMap_payload?, hnone⟩

/-- Comments and fields around and between the lines of a payload, blank lines in front of an empty
payload and of one that looks like a field, both line ends, and every byte on its own. -/
theorem pushAll_of_single_bytes :
    let payloads := ["a\n\n ü", "", "data: b"]
    let bytes := Bytes.ofString <|
      ": hi\n\r\n" ++ "data: a\r\nid: 7\ndata:\ndata:  ü\r\n\r\n" ++ "\n\n\n" ++ "data:\n\r\n" ++
        "\r\n" ++ "data:data: b\n\n" ++ "event: x\n"
    ∃ (events : List Event) (trailer : List (Line × LineEnd)), Writes payloads events ∧
      (∀ line ∈ trailer, line.1.text? = none) ∧
      bytes = streamBytes events ++ linesBytes trailer ∧
      (({} : EventReader).pushAll (bytes.map ([·]))).1 = payloads ∧
      (({} : EventReader).pushAll (bytes.map ([·]))).2.finish.1 = none := by
  intro payloads bytes
  let comment : Line := .other (Bytes.ofString ": hi") (by decide) (by decide) (by decide)
  let id : Line := .other (Bytes.ofString "id: 7") (by decide) (by decide) (by decide)
  let field : Line := .other (Bytes.ofString "event: x") (by decide) (by decide) (by decide)
  let empty : Line := .data false "" (by decide) (by decide)
  let blank : Event := ⟨[], .lf⟩
  let first : Event := ⟨[(.data true "a" (by decide) (by decide), .crlf), (id, .lf), (empty, .lf),
    (.data true " ü" (by decide) (by decide), .crlf)], .crlf⟩
  let last : Event := ⟨[(.data false "data: b" (by decide) (by decide), .lf)], .lf⟩
  let events : List Event := [⟨[(comment, .lf)], .crlf⟩, first, blank, blank, blank,
    ⟨[(empty, .lf)], .crlf⟩, ⟨[], .crlf⟩, last]
  let trailer : List (Line × LineEnd) := [(field, .lf)]
  have hwrites : Writes payloads events :=
    .silent rfl (.payload (by decide +kernel) (.silent rfl (.silent rfl (.silent rfl
      (.payload (by decide +kernel) (.silent rfl (.payload (by decide +kernel) .nil)))))))
  have htrailer : ∀ line ∈ trailer, line.1.text? = none := by decide
  have hbytes : bytes = streamBytes events ++ linesBytes trailer := by decide +kernel
  have hpieces : (bytes.map ([·])).flatten = streamBytes events ++ linesBytes trailer := by
    rw [← List.flatMap_def, List.flatMap_singleton', hbytes]
  exact ⟨events, trailer, hwrites, htrailer, hbytes,
    pushAll_of_writes.2 events trailer _ hwrites htrailer hpieces⟩

end EventReader

end ToolAgent.Stream
