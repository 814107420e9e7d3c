import ToolAgent.Proofs.Stream.Splitting

/-!
# Beginnings of streams

The beginning of a stream has the first events of the stream, and behind them the beginning of one
more. What that one carries is the beginning of what the whole event carries
(`exists_payload?_of_prefix`), so that of the payloads of the stream only the last one that has
arrived may be cut (`EventReader.decode_of_prefix`).
-/

namespace ToolAgent.Stream

open Bytes (lineFeed)

/-! ## Lines -/

theorem lines_ne_nil (bytes : Bytes) : Bytes.lines bytes ≠ [] := by
  cases bytes with
  | nil => exact List.cons_ne_nil [] []
  | cons b bytes =>
    rw [Bytes.lines]
    split
    · exact List.cons_ne_nil _ _
    · split <;> exact List.cons_ne_nil _ _

/-- The lines of the beginning of some bytes are lines of these bytes, the last one perhaps only the
beginning of one. -/
theorem exists_lines_of_prefix {start bytes : Bytes} (h : start <+: bytes) :
    ∃ before line whole after, Bytes.lines start = before ++ [line] ∧
      Bytes.lines bytes = before ++ whole :: after ∧ line <+: whole := by
  induction start generalizing bytes with
  | nil =>
    obtain ⟨whole, after, hlines⟩ := List.exists_cons_of_ne_nil (lines_ne_nil bytes)
    exact ⟨[], [], whole, after, rfl, hlines, List.nil_prefix⟩
  | cons b start ih =>
    obtain ⟨more, rfl⟩ := h
    obtain ⟨before, line, whole, after, hstart, hbytes, hline⟩ := ih (List.prefix_append start more)
    rw [List.cons_append, Bytes.lines, Bytes.lines, hstart, hbytes]
    by_cases hb : b = lineFeed
    · simp only [if_pos hb]
      exact ⟨[] :: before, line, whole, after, rfl, rfl, hline⟩
    · simp only [if_neg hb]
      cases before with
      | nil =>
        have hcons : b :: line <+: b :: whole := List.cons_prefix_cons.mpr ⟨rfl, hline⟩
        exact ⟨[], b :: line, b :: whole, after, rfl, rfl, hcons⟩
      | cons first before => exact ⟨(b :: first) :: before, line, whole, after, rfl, rfl, hline⟩

theorem lineData?_of_prefix {line whole data : Bytes} (h : line <+: whole)
    (hline : lineData? line = some data) : ∃ all, lineData? whole = some all ∧ data <+: all := by
  obtain ⟨more, rfl⟩ := h
  rw [lineData?] at hline
  split at hline
  · rename_i hfield
    obtain ⟨rest, rfl⟩ := List.isPrefixOf_iff_prefix.mp hfield
    have hwhole : dataField.isPrefixOf (dataField ++ rest ++ more) = true := by
      rw [List.append_assoc]
      exact List.isPrefixOf_iff_prefix.mpr (List.prefix_append ..)
    rw [lineData?, if_pos hwhole, List.append_assoc, List.drop_left]
    rw [List.drop_left] at hline
    cases rest with
    | nil =>
      obtain rfl := Option.some.inj hline
      cases more <;> exact ⟨_, rfl, List.nil_prefix⟩
    | cons b rest =>
      obtain rfl := Option.some.inj hline
      refine ⟨_, rfl, ?_⟩
      split
      · exact List.prefix_append rest more
      · exact List.prefix_append (b :: rest) more
  · cases hline

/-! ## Payloads -/

/-- The data of an event. -/
def datas (event : Bytes) : List Bytes := (Bytes.lines event).filterMap lineData?

theorem payload?_eq_some_iff {event : Bytes} {text : String} :
    payload? event = some text ↔
      datas event ≠ [] ∧ Bytes.toStringLossy ([lineFeed].intercalate (datas event)) = text := by
  rw [payload?, ← datas]
  cases datas event <;> simp

/-- In the beginning of an event the last line of data may be a beginning only. -/
theorem exists_datas_of_prefix {start event : Bytes} (h : start <+: event)
    (hstart : datas start ≠ []) :
    ∃ before data all after, datas start = before ++ [data] ∧ datas event = before ++ all :: after ∧
      data <+: all := by
  obtain ⟨before, line, whole, after, hlines, hevent, hline⟩ := exists_lines_of_prefix h
  rw [datas, hlines, List.filterMap_append] at hstart ⊢
  rw [datas, hevent, List.filterMap_append]
  cases hdata : lineData? line with
  | some data =>
    obtain ⟨all, hall, hfront⟩ := lineData?_of_prefix hline hdata
    rw [List.filterMap_cons_some hdata, List.filterMap_cons_some hall]
    exact ⟨_, data, all, _, rfl, rfl, hfront⟩
  | none =>
    -- then the data are those of the lines before
    rw [List.filterMap_cons_none hdata, List.filterMap_nil, List.append_nil] at hstart ⊢
    obtain ⟨others, data, hothers⟩ := (List.eq_nil_or_concat' _).resolve_left hstart
    refine ⟨others, data, data, (whole :: after).filterMap lineData?, hothers, ?_, List.prefix_rfl⟩
    rw [hothers, List.append_assoc, List.singleton_append]

theorem intercalate_prefix {sep data all : Bytes} (h : data <+: all) (before after : List Bytes) :
    sep.intercalate (before ++ [data]) <+: sep.intercalate (before ++ all :: after) := by
  induction before with
  | nil =>
    rw [List.nil_append, List.nil_append, List.intercalate_singleton]
    cases after with
    | nil => rwa [List.intercalate_singleton]
    | cons other after =>
      rw [List.intercalate_cons_cons, List.append_assoc]
      exact h.trans (List.prefix_append ..)
  | cons first before ih =>
    rw [List.cons_append, List.cons_append, List.intercalate_cons_of_ne_nil (by simp),
      List.intercalate_cons_of_ne_nil (by simp)]
    exact (List.prefix_append_right_inj _).mpr ih

/-- The payload of the beginning of an event comes from the beginning of its data. -/
theorem exists_payload?_of_prefix {start event : Bytes} {text : String} (h : start <+: event)
    (htext : payload? start = some text) :
    ∃ data all, data <+: all ∧ Bytes.toStringLossy data = text ∧
      payload? event = some (Bytes.toStringLossy all) := by
  obtain ⟨hne, rfl⟩ := payload?_eq_some_iff.mp htext
  obtain ⟨before, data, all, after, hstart, hevent, hfront⟩ := exists_datas_of_prefix h hne
  refine ⟨_, _, ?_, rfl, payload?_eq_some_iff.mpr ⟨?_, rfl⟩⟩
  · rw [hstart, hevent]
    exact intercalate_prefix hfront before after
  · rw [hevent]
    exact List.append_ne_nil_of_right_ne_nil _ (List.cons_ne_nil all after)

/-! ## Streams -/

/-- Bytes in which no event ends begin the first event of a stream that goes on with them, or what
is left of the stream where it has no event. -/
theorem Split.exists_prefix {start bytes rest : Bytes} {events : List Bytes}
    (h : Split bytes events rest) (hfront : start <+: bytes) (hstart : Unbroken start) :
    ∃ first, start <+: first ∧
      ((∃ others, events = first :: others) ∨ events = [] ∧ rest = first) := by
  cases events with
  | nil =>
    obtain rfl : rest = bytes := h.flatten_append
    exact ⟨rest, hfront, .inr ⟨rfl, rfl⟩⟩
  | cons event events =>
    have hevent : event <+: bytes := by
      rw [← h.flatten_append, List.flatten_cons, List.append_assoc]
      exact List.prefix_append ..
    obtain hfirst | hfirst := List.prefix_or_prefix_of_prefix hfront hevent
    · exact ⟨event, hfirst, .inl ⟨events, rfl⟩⟩
    · exact absurd (hstart.of_infix hfirst.isInfix)
        (h.isEvent event List.mem_cons_self).not_unbroken

/-- If bytes in which no event ends have a payload, then a stream that goes on with them has one,
and its first one comes from more of the same data. -/
theorem Split.exists_payload? {start bytes rest : Bytes} {events : List Bytes} {text : String}
    (h : Split bytes events rest) (hfront : start <+: bytes) (hstart : Unbroken start)
    (htext : payload? start = some text) :
    ∃ data all others, data <+: all ∧ Bytes.toStringLossy data = text ∧
      events.filterMap payload? ++ (payload? rest).toList = Bytes.toStringLossy all :: others := by
  obtain ⟨first, hfirst, hevents⟩ := h.exists_prefix hfront hstart
  obtain ⟨data, all, hdata, rfl, hall⟩ := exists_payload?_of_prefix hfirst htext
  obtain ⟨others, rfl⟩ | ⟨rfl, rfl⟩ := hevents
  · exact ⟨data, all, _, hdata, rfl, by rw [List.filterMap_cons_some hall, List.cons_append]⟩
  · exact ⟨data, all, [], hdata, rfl, by rw [hall]; rfl⟩

theorem withoutReturns_prefix {start bytes : Bytes} (h : start <+: bytes) :
    withoutReturns start <+: withoutReturns bytes := h.filter _

/-- **The payloads of the beginning of a stream.** They are the first payloads of the stream, but
the last one may come from the beginning of its data. -/
theorem EventReader.decode_of_prefix {pieces whole : List Bytes}
    (h : pieces.flatten <+: whole.flatten) :
    decode pieces <+: decode whole ∨
      ∃ before data all after, decode pieces = before ++ [Bytes.toStringLossy data] ∧
        decode whole = before ++ Bytes.toStringLossy all :: after ∧ data <+: all := by
  obtain ⟨events, rest, hpieces⟩ := exists_split (withoutReturns pieces.flatten)
  obtain ⟨more, hmore⟩ := withoutReturns_prefix h
  obtain ⟨events', rest', hrest⟩ := exists_split (rest ++ more)
  have hwhole : Split (withoutReturns whole.flatten) (events ++ events') rest' :=
    hmore ▸ hpieces.append hrest
  rw [decode_eq_of_split hpieces, decode_eq_of_split hwhole, List.filterMap_append,
    List.append_assoc]
  cases htext : payload? rest with
  | none =>
    rw [Option.toList_none, List.append_nil]
    exact .inl (List.prefix_append ..)
  | some text =>
    obtain ⟨data, all, others, hdata, rfl, hothers⟩ :=
      hrest.exists_payload? (List.prefix_append rest more) hpieces.unbroken htext
    rw [hothers]
    exact .inr ⟨_, data, all, others, rfl, rfl, hdata⟩

end ToolAgent.Stream
