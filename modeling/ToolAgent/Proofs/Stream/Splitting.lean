import Mathlib.Data.List.Chain
import ToolAgent.Stream.Events

/-!
# Cutting a stream into events

`Split bytes events rest` says, without any algorithm, that `events` are the events which the blank
lines of `bytes` end and that `rest` is what follows the last of them. Bytes split in one way only
(`Split.unique`), `splitEvents` finds it (`splitEvents_eq_iff`), and splits compose
(`Split.append`). So a reader that is given the bytes piece by piece goes through one and the same
split, whatever the pieces are.
-/

namespace ToolAgent.Stream

open Bytes (lineFeed)

/-! ## Blank lines -/

/-- Two line feeds in a row, which end an event. -/
def blankLine : Bytes := [lineFeed, lineFeed]

/-- No two line feeds stand next to each other. -/
def Unbroken (bytes : Bytes) : Prop := ¬ blankLine <:+: bytes

theorem unbroken_iff_isChain {bytes : Bytes} :
    Unbroken bytes ↔ bytes.IsChain fun a b => ¬ (a = lineFeed ∧ b = lineFeed) := by
  rw [List.isChain_iff_forall_rel_of_append_cons_cons]
  constructor
  · rintro h a b before after rfl ⟨rfl, rfl⟩
    exact h ⟨before, after, by simp [blankLine]⟩
  · rintro h ⟨before, after, heq⟩
    have hbytes : bytes = before ++ lineFeed :: lineFeed :: after := by simp [← heq, blankLine]
    exact h hbytes ⟨rfl, rfl⟩

theorem unbroken_nil : Unbroken [] := unbroken_iff_isChain.mpr .nil

theorem unbroken_singleton (b : UInt8) : Unbroken [b] := unbroken_iff_isChain.mpr (.singleton b)

theorem Unbroken.of_infix {part bytes : Bytes} (h : Unbroken bytes) (hpart : part <:+: bytes) :
    Unbroken part := fun hblank => h (hblank.trans hpart)

/-- Unbroken bytes may be joined unless a line feed meets a line feed. -/
theorem Unbroken.append {a b : Bytes} (ha : Unbroken a) (hb : Unbroken b)
    (h : a.getLast? = some lineFeed → b.head? ≠ some lineFeed) : Unbroken (a ++ b) := by
  rw [unbroken_iff_isChain] at *
  refine ha.append hb ?_
  rintro x hx y hy ⟨rfl, rfl⟩
  exact h hx hy

/-! ## Splits -/

/-- An event with the blank line that ends it, which is the only one in it. -/
def IsEvent (event : Bytes) : Prop :=
  ∃ body, event = body ++ blankLine ∧ Unbroken (body ++ [lineFeed])

theorem IsEvent.not_unbroken {event : Bytes} (h : IsEvent event) : ¬ Unbroken event := by
  obtain ⟨body, rfl, -⟩ := h
  exact fun hu => hu ⟨body, [], by simp⟩

/-- No event begins with another one. -/
theorem IsEvent.eq_of_prefix {event other : Bytes} (h : IsEvent event) (h' : IsEvent other)
    (hpre : event <+: other) : event = other := by
  obtain ⟨extra, rfl⟩ := hpre
  obtain ⟨body, heq, hu⟩ := h'
  cases extra using List.reverseRecOn with
  | nil => exact (List.append_nil event).symm
  | append_singleton extra b =>
    have hbody : event ++ extra = body ++ [lineFeed] := by
      have heq' : (event ++ extra) ++ [b] = (body ++ [lineFeed]) ++ [lineFeed] := by
        simpa [blankLine] using heq
      exact (List.append_inj' heq' rfl).1
    exact absurd (hu.of_infix ⟨[], extra, by simp [hbody]⟩) h.not_unbroken

/-- The events in `bytes`, and what follows the last of them. -/
structure Split (bytes : Bytes) (events : List Bytes) (rest : Bytes) : Prop where
  flatten_append : events.flatten ++ rest = bytes
  isEvent : ∀ event ∈ events, IsEvent event
  unbroken : Unbroken rest

namespace Split

variable {bytes more rest rest' : Bytes} {events events' : List Bytes}

theorem of_unbroken (h : Unbroken bytes) : Split bytes [] bytes :=
  ⟨rfl, by simp, h⟩

/-- What follows the last event is where the events of further bytes begin. -/
theorem append (h : Split bytes events rest) (h' : Split (rest ++ more) events' rest') :
    Split (bytes ++ more) (events ++ events') rest' where
  flatten_append := by
    rw [← h.flatten_append, List.flatten_append, List.append_assoc, h'.flatten_append,
      List.append_assoc]
  isEvent event hmem := (List.mem_append.mp hmem).elim (h.isEvent event) (h'.isEvent event)
  unbroken := h'.unbroken

theorem cons {event : Bytes} (he : IsEvent event) (h : Split bytes events rest) :
    Split (event ++ bytes) (event :: events) rest where
  flatten_append := by rw [List.flatten_cons, List.append_assoc, h.flatten_append]
  isEvent := List.forall_mem_cons.mpr ⟨he, h.isEvent⟩
  unbroken := h.unbroken

theorem tail {event : Bytes} (h : Split (event ++ bytes) (event :: events) rest) :
    Split bytes events rest where
  flatten_append := by
    simpa only [List.flatten_cons, List.append_assoc, List.append_cancel_left_eq] using
      h.flatten_append
  isEvent e hmem := h.isEvent e (List.mem_cons_of_mem _ hmem)
  unbroken := h.unbroken

theorem not_unbroken {event : Bytes} (h : Split bytes (event :: events) rest) :
    ¬ Unbroken bytes := fun hu =>
  (h.isEvent event List.mem_cons_self).not_unbroken <|
    hu.of_infix ⟨[], events.flatten ++ rest, by simp [← h.flatten_append]⟩

/-- Bytes split in one way only. -/
theorem unique (h : Split bytes events rest) (h' : Split bytes events' rest') :
    events = events' ∧ rest = rest' := by
  induction events generalizing bytes events' with
  | nil =>
    have hrest : rest = bytes := h.flatten_append
    cases events' with
    | nil => exact ⟨rfl, hrest.trans h'.flatten_append.symm⟩
    | cons event events' => exact absurd (hrest ▸ h.unbroken) h'.not_unbroken
  | cons event events ih =>
    cases events' with
    | nil => exact absurd ((h'.flatten_append : rest' = bytes) ▸ h'.unbroken) h.not_unbroken
    | cons event' events' =>
      have he := h.isEvent event List.mem_cons_self
      have he' := h'.isEvent event' List.mem_cons_self
      have hbytes : event ++ (events.flatten ++ rest) = bytes := by
        simpa using h.flatten_append
      have hbytes' : event' ++ (events'.flatten ++ rest') = bytes := by
        simpa using h'.flatten_append
      -- both events begin the same bytes, so one of them begins with the other
      have hevent : event = event' :=
        (List.prefix_or_prefix_of_prefix ⟨_, hbytes⟩ ⟨_, hbytes'⟩).elim
          (he.eq_of_prefix he') fun hpre => (he'.eq_of_prefix he hpre).symm
      subst hevent
      obtain ⟨rfl, rfl⟩ := ih (hbytes ▸ h).tail ((hbytes ▸ h').tail)
      exact ⟨rfl, rfl⟩

end Split

/-! ## The splitter -/

/-- What holds of the bytes of the event in progress: they and the next byte are unbroken. -/
theorem split_splitEvents (held bytes : Bytes) (h : Unbroken (held.reverse ++ bytes.take 1)) :
    Split (held.reverse ++ bytes) (splitEvents held bytes).1 (splitEvents held bytes).2 := by
  fun_induction splitEvents held bytes with
  | case1 held => simpa using Split.of_unbroken (by simpa using h)
  | case2 held b => simpa using Split.of_unbroken (by simpa using h)
  | case3 held a b bs hab events rest heq ih =>
    obtain ⟨rfl, rfl⟩ := hab
    have hevent : IsEvent (held.reverse ++ blankLine) := ⟨held.reverse, rfl, by simpa using h⟩
    have hrest : Unbroken (([] : Bytes).reverse ++ bs.take 1) := by
      cases bs with
      | nil => exact unbroken_nil
      | cons b bs => exact unbroken_singleton b
    have := Split.cons hevent (ih hrest)
    simpa [blankLine, heq] using this
  | case4 held a b bs hab ih =>
    have hnext : Unbroken ((a :: held).reverse ++ (b :: bs).take 1) := by
      refine Unbroken.append (by simpa using h) (unbroken_singleton b) ?_
      intro hlast hhead
      exact hab ⟨by simpa using hlast, by simpa using hhead⟩
    simpa using ih hnext

/-- The splitter finds the split of any bytes. -/
theorem splitEvents_eq_iff {bytes rest : Bytes} {events : List Bytes} :
    splitEvents [] bytes = (events, rest) ↔ Split bytes events rest := by
  have hsplit : Split bytes (splitEvents [] bytes).1 (splitEvents [] bytes).2 := by
    refine split_splitEvents [] bytes ?_
    cases bytes with
    | nil => exact unbroken_nil
    | cons b bytes => exact unbroken_singleton b
  constructor
  · intro h
    simpa only [h] using hsplit
  · intro h
    obtain ⟨hevents, hrest⟩ := hsplit.unique h
    exact Prod.ext hevents hrest

/-! ## Readers -/

/-- The bytes that count. -/
def withoutReturns (bytes : Bytes) : Bytes := bytes.filter (· != carriageReturn)

@[simp] theorem withoutReturns_nil : withoutReturns [] = [] := rfl

@[simp] theorem withoutReturns_append (a b : Bytes) :
    withoutReturns (a ++ b) = withoutReturns a ++ withoutReturns b := List.filter_append ..

namespace EventReader

/-- Pushes pieces one after the other, and gives the payloads of all of them. -/
def pushAll (reader : EventReader) : List Bytes → List String × EventReader
  | [] => ([], reader)
  | piece :: pieces =>
    let (payloads, reader) := reader.push piece
    let (more, reader) := reader.pushAll pieces
    (payloads ++ more, reader)

/-- The payloads of a stream that arrives in these pieces, the one that is left at its end
included. -/
def decode (pieces : List Bytes) : List String :=
  let (payloads, reader) := ({} : EventReader).pushAll pieces
  payloads ++ reader.finish.1.toList

/-- The split that a push carries out. -/
theorem push_eq_of_split {reader : EventReader} {piece rest : Bytes} {events : List Bytes}
    (h : Split (reader.buffer ++ withoutReturns piece) events rest) :
    reader.push piece = (events.filterMap payload?, ⟨rest⟩) := by
  have hsplit : splitEvents [] (reader.buffer ++ piece.filter (· != carriageReturn)) =
      (events, rest) := splitEvents_eq_iff.mpr h
  simp only [push, hsplit]

theorem exists_split (bytes : Bytes) : ∃ events rest, Split bytes events rest :=
  ⟨_, _, splitEvents_eq_iff.mp rfl⟩

/-- Any pieces take a reader through the split of what they are in a row. -/
theorem pushAll_eq_of_split {reader : EventReader} {pieces : List Bytes} {rest : Bytes}
    {events : List Bytes} (hbuffer : Unbroken reader.buffer)
    (h : Split (reader.buffer ++ withoutReturns pieces.flatten) events rest) :
    reader.pushAll pieces = (events.filterMap payload?, ⟨rest⟩) := by
  induction pieces generalizing reader events with
  | nil =>
    obtain ⟨rfl, rfl⟩ := h.unique (by simpa using Split.of_unbroken hbuffer)
    rfl
  | cons piece pieces ih =>
    obtain ⟨first, middle, hfirst⟩ := exists_split (reader.buffer ++ withoutReturns piece)
    obtain ⟨others, last, hothers⟩ := exists_split (middle ++ withoutReturns pieces.flatten)
    obtain ⟨rfl, rfl⟩ := h.unique (by simpa using hfirst.append hothers)
    have hrest : pushAll ⟨middle⟩ pieces = (others.filterMap payload?, ⟨rest⟩) :=
      ih hfirst.unbroken hothers
    simp only [pushAll, push_eq_of_split hfirst, hrest, List.filterMap_append]

/-- The payloads of a stream are those of its events and of what follows the last of them. -/
theorem decode_eq_of_split {pieces : List Bytes} {rest : Bytes} {events : List Bytes}
    (h : Split (withoutReturns pieces.flatten) events rest) :
    decode pieces = events.filterMap payload? ++ (payload? rest).toList := by
  simp only [decode, pushAll_eq_of_split unbroken_nil (by simpa using h), finish]

/-- **Decoding does not depend on how the bytes arrive.** Two sequences of pieces with the same
bytes, carriage returns aside, have the same payloads; and after any pieces the reader keeps exactly
the bytes behind the last event that they complete, among which there is no blank line. -/
theorem decode_eq_of_withoutReturns_eq :
    (∀ pieces pieces' : List Bytes,
      withoutReturns pieces.flatten = withoutReturns pieces'.flatten →
        decode pieces = decode pieces') ∧
    ∀ pieces : List Bytes, ∃ events,
      (({} : EventReader).pushAll pieces).1 = events.filterMap payload? ∧
      Split (withoutReturns pieces.flatten) events
        (({} : EventReader).pushAll pieces).2.buffer := by
  constructor
  · intro pieces pieces' heq
    obtain ⟨events, rest, h⟩ := exists_split (withoutReturns pieces.flatten)
    rw [decode_eq_of_split h, decode_eq_of_split (heq ▸ h)]
  · intro pieces
    obtain ⟨events, rest, h⟩ := exists_split (withoutReturns pieces.flatten)
    refine ⟨events, ?_⟩
    rw [pushAll_eq_of_split unbroken_nil (by simpa using h)]
    exact ⟨rfl, h⟩

/-- A character and both of the line ends behind it cut in two, against the same event in one piece
and with line feeds alone. -/
theorem decode_eq_of_cut_character :
    withoutReturns [dataField ++ [0xC3], [0xA9, 0x0D, 0x0A, 0x0D], [], [0x0A]].flatten =
      withoutReturns [dataField ++ [0xC3, 0xA9, 0x0A, 0x0A]].flatten ∧
    decode [dataField ++ [0xC3], [0xA9, 0x0D, 0x0A, 0x0D], [], [0x0A]] =
      decode [dataField ++ [0xC3, 0xA9, 0x0A, 0x0A]] :=
  ⟨by decide, decode_eq_of_withoutReturns_eq.1 _ _ (by decide)⟩

end EventReader

end ToolAgent.Stream
