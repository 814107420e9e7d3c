import Mathlib.Data.List.Basic
import ToolAgent.Proofs.Stream.Splitting
import ToolAgent.Proofs.Text.Utf8

/-!
# Writing events

The other side of the reader: an event is a list of lines and the blank line behind them, and each
line may end in a line feed or in a carriage return and a line feed. A line holds data, or is a
comment or a field of another name. An event without lines is one more blank line, which does not
end an event of its own: it stays in front of the next one (`exists_split_streamBytes`). However a
sequence of events is cut into pieces, the reader finds its payloads (`decode_streamBytes`).
-/

namespace ToolAgent.Stream

open Bytes (lineFeed)

/-! ## Lines and events -/

/-- A line of an event, without its end. -/
inductive Line where
  /-- A line of the payload, with or without a space after the colon. -/
  | data (spaced : Bool) (text : String) (oneLine : '\n' ∉ text.toList ∧ '\r' ∉ text.toList)
      (unspaced : spaced = false → text.toList.head? ≠ some ' ')
  /-- A comment, or a field that is not called `data`. -/
  | other (bytes : Bytes) (nonempty : bytes ≠ [])
      (oneLine : lineFeed ∉ bytes ∧ carriageReturn ∉ bytes) (notData : ¬ dataField <+: bytes)

namespace Line

def bytes : Line → Bytes
  | data spaced text .. => dataField ++ (if spaced then [0x20] else []) ++ Bytes.ofString text
  | other bytes .. => bytes

/-- What the line adds to the payload. -/
def text? : Line → Option String
  | data _ text .. => some text
  | other .. => none

end Line

inductive LineEnd where
  | lf
  | crlf
deriving DecidableEq

def LineEnd.bytes : LineEnd → Bytes
  | lf => [lineFeed]
  | crlf => [carriageReturn, lineFeed]

structure Event where
  lines : List (Line × LineEnd)
  /-- The end of the blank line. -/
  close : LineEnd

namespace Event

def bytes (event : Event) : Bytes :=
  (event.lines.flatMap fun line => line.1.bytes ++ line.2.bytes) ++ event.close.bytes

/-- The texts of the lines, one below the other. -/
def payload? (event : Event) : Option String :=
  match (event.lines.map Prod.fst).filterMap Line.text? with
  | [] => none
  | text :: texts => some ("\n".intercalate (text :: texts))

end Event

def streamBytes (events : List Event) : Bytes := events.flatMap Event.bytes

/-! ## The bytes of a line -/

theorem not_mem_ofString {c : Char} {text : String} {b : UInt8} (h : c ∉ text.toList)
    (hb : b.toNat < 0x80) (hc : Char.ofNat b.toNat = c) : b ∉ Bytes.ofString text := fun hmem =>
  h (hc ▸ Utf8.mem_of_mem_encode hb hmem)

namespace Line

theorem lineFeed_not_mem_bytes (line : Line) : lineFeed ∉ line.bytes := by
  cases line with
  | data spaced text oneLine _ =>
    have htext := not_mem_ofString (b := lineFeed) oneLine.1 (by decide) rfl
    have hfield : lineFeed ∉ dataField := by decide
    cases spaced <;> simp [bytes, htext, hfield, show lineFeed ≠ 0x20 by decide]
  | other bytes _ oneLine _ => exact oneLine.1

theorem carriageReturn_not_mem_bytes (line : Line) : carriageReturn ∉ line.bytes := by
  cases line with
  | data spaced text oneLine _ =>
    have htext := not_mem_ofString (b := carriageReturn) oneLine.2 (by decide) rfl
    have hfield : carriageReturn ∉ dataField := by decide
    cases spaced <;> simp [bytes, htext, hfield, show carriageReturn ≠ 0x20 by decide]
  | other bytes _ oneLine _ => exact oneLine.2

theorem bytes_ne_nil (line : Line) : line.bytes ≠ [] := by
  cases line with
  | data spaced text _ _ => simp [bytes, dataField, Bytes.ofString]
  | other bytes nonempty _ _ => exact nonempty

/-- The reader takes from a line what was written in it. -/
theorem lineData?_bytes (line : Line) : lineData? line.bytes = line.text?.map Bytes.ofString := by
  cases line with
  | other bytes _ _ notData =>
    have hprefix : dataField.isPrefixOf bytes = false := by
      simpa [← List.isPrefixOf_iff_prefix] using notData
    simp [lineData?, Line.bytes, text?, hprefix]
  | data spaced text _ unspaced =>
    cases spaced with
    | true => simp [lineData?, Line.bytes, text?, List.isPrefixOf_iff_prefix]
    | false =>
      have hhead : (Bytes.ofString text).head? ≠ some 0x20 := fun h =>
        unspaced rfl (Utf8.head?_of_head?_encode (by decide) h)
      cases htext : Bytes.ofString text with
      | nil => simp [lineData?, Line.bytes, text?, htext, List.isPrefixOf_iff_prefix]
      | cons b bs =>
        have hb : b ≠ 0x20 := by simpa [htext] using hhead
        simp [lineData?, Line.bytes, text?, htext, hb, List.isPrefixOf_iff_prefix]

end Line

/-! ## The bytes of an event -/

/-- Lines with a line feed behind each. -/
def fedLines (lines : List Line) : Bytes := lines.flatMap fun line => line.bytes ++ [lineFeed]

@[simp] theorem fedLines_nil : fedLines [] = [] := rfl

@[simp] theorem fedLines_cons (line : Line) (lines : List Line) :
    fedLines (line :: lines) = line.bytes ++ lineFeed :: fedLines lines := by
  simp [fedLines]

theorem withoutReturns_eq_self {bytes : Bytes} (h : carriageReturn ∉ bytes) :
    withoutReturns bytes = bytes := by
  refine List.filter_eq_self.mpr fun b hb => ?_
  simp only [bne_iff_ne, ne_eq]
  rintro rfl
  exact h hb

@[simp] theorem withoutReturns_lineEnd (close : LineEnd) :
    withoutReturns close.bytes = [lineFeed] := by
  cases close <;> rfl

/-- Lines, each with its end. -/
def linesBytes (lines : List (Line × LineEnd)) : Bytes :=
  lines.flatMap fun line => line.1.bytes ++ line.2.bytes

theorem withoutReturns_linesBytes (lines : List (Line × LineEnd)) :
    withoutReturns (linesBytes lines) = fedLines (lines.map Prod.fst) := by
  induction lines with
  | nil => rfl
  | cons line lines ih =>
    rw [linesBytes, List.flatMap_cons, ← linesBytes, withoutReturns_append, withoutReturns_append,
      ih, withoutReturns_lineEnd, withoutReturns_eq_self line.1.carriageReturn_not_mem_bytes]
    simp

theorem withoutReturns_event (event : Event) :
    withoutReturns event.bytes = fedLines (event.lines.map Prod.fst) ++ [lineFeed] := by
  rw [Event.bytes, ← linesBytes, withoutReturns_append, withoutReturns_lineEnd,
    withoutReturns_linesBytes]

/-- A line feed in front of lines, or none, is all that blank lines can leave there. -/
def IsLead (lead : Bytes) : Prop := lead = [] ∨ lead = [lineFeed]

theorem head?_fedLines_ne (lines : List Line) : (fedLines lines).head? ≠ some lineFeed := by
  cases lines with
  | nil => simp
  | cons line lines =>
    intro h
    obtain ⟨b, bs, hb⟩ := List.exists_cons_of_ne_nil line.bytes_ne_nil
    obtain rfl : b = lineFeed := by simpa [hb] using h
    exact line.lineFeed_not_mem_bytes (by simp [hb])

theorem unbroken_of_not_mem {bytes : Bytes} (h : lineFeed ∉ bytes) : Unbroken bytes :=
  fun hblank => h (hblank.subset (by simp [blankLine]))

theorem unbroken_fedLines {lead : Bytes} (hlead : IsLead lead) (lines : List Line) :
    Unbroken (lead ++ fedLines lines) := by
  have hfeed (rest : List Line) (h : Unbroken (fedLines rest)) :
      Unbroken ([lineFeed] ++ fedLines rest) :=
    (unbroken_singleton lineFeed).append h fun _ => head?_fedLines_ne rest
  have hlines : Unbroken (fedLines lines) := by
    induction lines with
    | nil => exact unbroken_nil
    | cons line lines ih =>
      rw [fedLines_cons]
      refine (unbroken_of_not_mem line.lineFeed_not_mem_bytes).append (hfeed lines ih) ?_
      exact fun hlast => absurd (List.mem_of_getLast? hlast) line.lineFeed_not_mem_bytes
  obtain rfl | rfl := hlead
  · exact hlines
  · exact hfeed lines hlines

/-- Lines and the blank line behind them are an event. -/
theorem isEvent_fedLines {lead : Bytes} (hlead : IsLead lead) {lines : List Line}
    (h : lines ≠ []) : IsEvent (lead ++ fedLines lines ++ [lineFeed]) := by
  obtain ⟨body, hbody⟩ : ∃ body, lead ++ fedLines lines = body ++ [lineFeed] := by
    cases lines using List.reverseRecOn with
    | nil => exact absurd rfl h
    | append_singleton lines line =>
      exact ⟨lead ++ fedLines lines ++ line.bytes, by simp [fedLines]⟩
  exact ⟨body, by simp [hbody, blankLine], hbody ▸ unbroken_fedLines hlead lines⟩

/-! ## Payloads -/

theorem lines_append_lineFeed {line : Bytes} (h : lineFeed ∉ line) (rest : Bytes) :
    Bytes.lines (line ++ lineFeed :: rest) = line :: Bytes.lines rest := by
  induction line with
  | nil => rfl
  | cons b line ih =>
    obtain ⟨hb, hline⟩ : lineFeed ≠ b ∧ lineFeed ∉ line := by simpa using h
    simp [Bytes.lines, Ne.symm hb, ih hline]

theorem lines_fedLines_append (lines : List Line) (rest : Bytes) :
    Bytes.lines (fedLines lines ++ rest) = lines.map Line.bytes ++ Bytes.lines rest := by
  induction lines with
  | nil => rfl
  | cons line lines ih =>
    simp only [fedLines_cons, List.append_assoc, List.cons_append, List.map_cons,
      lines_append_lineFeed line.lineFeed_not_mem_bytes, ih]

/-- The data that are read from lines, whether or not a blank line is in front of them. -/
theorem filterMap_lineData?_fedLines {lead rest : Bytes} (hlead : IsLead lead) (lines : List Line)
    (hrest : (Bytes.lines rest).filterMap lineData? = []) :
    (Bytes.lines (lead ++ fedLines lines ++ rest)).filterMap lineData? =
      (lines.filterMap Line.text?).map Bytes.ofString := by
  have hlines : (Bytes.lines (fedLines lines ++ rest)).filterMap lineData? =
      (lines.filterMap Line.text?).map Bytes.ofString := by
    rw [lines_fedLines_append, List.filterMap_append, hrest, List.append_nil, List.filterMap_map,
      List.map_filterMap]
    exact List.filterMap_congr fun line _ => line.lineData?_bytes
  obtain rfl | rfl := hlead
  · exact hlines
  · have hblank : lineData? [] = none := by decide
    simp [Bytes.lines, hblank, hlines]

/-- The reader finds the payload of an event, whether or not a blank line is in front of it. -/
theorem payload?_event {lead : Bytes} (hlead : IsLead lead) (event : Event) :
    payload? (lead ++ fedLines (event.lines.map Prod.fst) ++ [lineFeed]) = event.payload? := by
  rw [payload?, filterMap_lineData?_fedLines hlead _ (by decide), Event.payload?]
  cases (event.lines.map Prod.fst).filterMap Line.text? with
  | nil => rfl
  | cons text texts =>
    have hfeed : [lineFeed] = Bytes.ofString "\n" := by decide
    simp only [List.map_cons]
    rw [← List.map_cons, hfeed, ← Bytes.ofString_intercalate, Bytes.toStringLossy_ofString]

/-! ## Sequences of events -/

theorem streamBytes_append (events more : List Event) :
    streamBytes (events ++ more) = streamBytes events ++ streamBytes more :=
  List.flatMap_append

theorem streamBytes_cons (event : Event) (events : List Event) :
    streamBytes (event :: events) = event.bytes ++ streamBytes events := rfl

theorem streamBytes_singleton (event : Event) : streamBytes [event] = event.bytes := by
  rw [streamBytes, List.flatMap_singleton]

/-- However a line ends, the last byte is a line feed. -/
theorem Event.getLast?_bytes (event : Event) : event.bytes.getLast? = some lineFeed := by
  have hclose : event.close.bytes.getLast? = some lineFeed := by cases event.close <;> rfl
  rw [Event.bytes, List.getLast?_append, hclose, Option.some_or]

theorem Event.payload?_of_lines_nil {event : Event} (h : event.lines = []) :
    event.payload? = none := by
  simp [Event.payload?, h]

/-- The split of written events. Of blank lines that follow each other, every second one ends an
event without lines, and one more than that is left in front of what follows. -/
theorem exists_split_streamBytes {lead : Bytes} (hlead : IsLead lead) (events : List Event) :
    ∃ found rest, Split (lead ++ withoutReturns (streamBytes events)) found rest ∧
      found.filterMap Stream.payload? = events.filterMap Event.payload? ∧ IsLead rest := by
  induction events generalizing lead with
  | nil =>
    refine ⟨[], lead, ?_, rfl, hlead⟩
    simpa [streamBytes] using Split.of_unbroken (unbroken_fedLines hlead [])
  | cons event events ih =>
    rw [streamBytes_cons, withoutReturns_append, withoutReturns_event]
    by_cases hlines : event.lines = []
    · rw [hlines, List.filterMap_cons_none (Event.payload?_of_lines_nil hlines)]
      obtain rfl | rfl := hlead
      · exact ih (.inr rfl)
      · obtain ⟨found, rest, hsplit, hfound, hrest⟩ := ih (.inl rfl)
        have hblank : IsEvent blankLine := ⟨[], rfl, unbroken_singleton lineFeed⟩
        refine ⟨blankLine :: found, rest, .cons hblank hsplit, ?_, hrest⟩
        rw [List.filterMap_cons_none (by decide), hfound]
    · obtain ⟨found, rest, hsplit, hfound, hrest⟩ := ih (.inl rfl)
      have hevent : IsEvent (lead ++ fedLines (event.lines.map Prod.fst) ++ [lineFeed]) :=
        isEvent_fedLines hlead (by simpa using hlines)
      refine ⟨(lead ++ fedLines (event.lines.map Prod.fst) ++ [lineFeed]) :: found, rest, ?_, ?_,
        hrest⟩
      · simpa using Split.cons hevent hsplit
      · rw [List.filterMap_cons, List.filterMap_cons, payload?_event hlead, hfound]

theorem IsLead.payload?_eq_none {rest : Bytes} (h : IsLead rest) : payload? rest = none := by
  obtain rfl | rfl := h <;> decide

/-- **Writing events and reading them.** However written events are cut into pieces, the reader
finds their payloads and no others. -/
theorem decode_streamBytes {events : List Event} {pieces : List Bytes}
    (h : pieces.flatten = streamBytes events) :
    EventReader.decode pieces = events.filterMap Event.payload? := by
  obtain ⟨found, rest, hsplit, hfound, hrest⟩ := exists_split_streamBytes (.inl rfl) events
  rw [EventReader.decode_eq_of_split (h ▸ hsplit), hfound, hrest.payload?_eq_none,
    Option.toList_none, List.append_nil]

end ToolAgent.Stream
