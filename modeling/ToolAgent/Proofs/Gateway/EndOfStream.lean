import ToolAgent.Gateway.Client
import ToolAgent.Proofs.Completion.Payloads
import ToolAgent.Proofs.Stream.Splitting

/-!
# The end of a stream

A stream says that it is done, and its bytes may go on. They are read on as far as the piece in
which the stream said so, and what they carry there is taken like everything before it
(`readStream_of_endsDone`); the pieces after that one are left alone. So whether the marker ends the
stream depends on what has arrived together with it (`readBody_eq_iff_of_endsDone`).
-/

namespace ToolAgent.Gateway

open Bytes (lineFeed)
open Payload (IsDone)
open ToolAgent.Stream (EventReader Split payload? withoutReturns)
open ToolAgent.Stream.EventReader (decode)

variable {body rest : Bytes} {pieces : List Bytes}

/-! ## Reading on -/

theorem readStream_cons (url : String) (isCut : Bool) (reader : EventReader) (acc : Accumulator)
    (piece : Bytes) (pieces : List Bytes) :
    readStream url isCut reader acc (piece :: pieces) =
      (acc.takeAll (reader.push piece).1).bind fun acc =>
        if acc.isDone then readRest (reader.push piece).2 acc
        else readStream url isCut (reader.push piece).2 acc pieces := rfl

/-- Pieces in which the stream does not say that it is done are read to the last one. -/
theorem readStream_append (url : String) (isCut : Bool) {reader : EventReader} {acc : Accumulator}
    {before : List Bytes} (hacc : ¬ acc.isDone)
    (h : ∀ text ∈ (reader.pushAll before).1, ¬ IsDone text) (pieces : List Bytes) :
    readStream url isCut reader acc (before ++ pieces) =
      (acc.takeAll (reader.pushAll before).1).bind fun acc =>
        readStream url isCut (reader.pushAll before).2 acc pieces := by
  induction before generalizing reader acc with
  | nil => rfl
  | cons piece before ih =>
    simp only [EventReader.pushAll, List.forall_mem_append] at h ⊢
    rw [List.cons_append, readStream_cons, Accumulator.takeAll_append]
    cases hpiece : acc.takeAll (reader.push piece).1 with
    | error failure => rfl
    | ok acc' =>
      have hacc' : ¬ acc'.isDone := Accumulator.not_isDone_of_takeAll hpiece hacc h.1
      simp only [Except.bind, hacc', Bool.false_eq_true, if_false]
      exact ih hacc' h.2

/-- A piece in which the stream says that it is done is the last one, and what it leaves over is
taken with it. -/
theorem readStream_of_mem_done (url : String) (isCut : Bool) {reader : EventReader}
    {acc : Accumulator} {piece : Bytes} (h : ∃ text ∈ (reader.push piece).1, IsDone text)
    (pieces : List Bytes) :
    readStream url isCut reader acc (piece :: pieces) =
      acc.takeAll ((reader.push piece).1 ++ (reader.push piece).2.finish.1.toList) := by
  rw [readStream_cons, Accumulator.takeAll_append]
  cases hpiece : acc.takeAll (reader.push piece).1 with
  | error failure => rfl
  | ok acc' =>
    have hacc' : acc'.isDone := (Accumulator.isDone_iff_of_takeAll hpiece).mpr (.inr h)
    simp only [Except.bind, hacc', if_true, readRest]

/-! ## The marker -/

/-- The bytes of a stream as far as the blank line of the event that says it is done, which is the
first that says so. -/
def EndsDone (body : Bytes) : Prop :=
  body.getLast? = some lineFeed ∧
    ∃ events last text, Split (withoutReturns body) (events ++ [last]) [] ∧
      payload? last = some text ∧ IsDone text ∧ ∀ text ∈ events.filterMap payload?, ¬ IsDone text

/-- What follows the first `n` bytes of a stream in the piece in which they end. -/
def arrivedWith (n : Nat) : List Bytes → Bytes
  | [] => []
  | piece :: pieces =>
    if n ≤ piece.length then piece.drop n else arrivedWith (n - piece.length) pieces

theorem arrivedWith_prefix (n : Nat) (pieces : List Bytes) :
    arrivedWith n pieces <+: pieces.flatten.drop n := by
  induction pieces generalizing n with
  | nil => simp [arrivedWith]
  | cons piece pieces ih =>
    rw [arrivedWith, List.flatten_cons, List.drop_append]
    split
    · exact List.prefix_append ..
    · rw [List.drop_of_length_le (by omega), List.nil_append]
      exact ih _

/-- The piece in which the first bytes of a stream end. -/
theorem exists_piece_of_flatten (hbody : body ≠ []) (h : pieces.flatten = body ++ rest) :
    ∃ before head after, pieces = before ++ (head ++ arrivedWith body.length pieces) :: after ∧
      before.flatten ++ head = body ∧ head ≠ [] := by
  induction pieces generalizing body with
  | nil =>
    have : body = [] := (List.append_eq_nil_iff.mp h.symm).1
    exact absurd this hbody
  | cons piece pieces ih =>
    rw [List.flatten_cons] at h
    by_cases hlen : body.length ≤ piece.length
    · obtain ⟨more, rfl⟩ : body <+: piece :=
        List.prefix_of_prefix_length_le ⟨rest, h.symm⟩ ⟨pieces.flatten, rfl⟩ hlen
      exact ⟨[], body, pieces, by simp [arrivedWith], rfl, hbody⟩
    · obtain ⟨more, rfl⟩ : piece <+: body :=
        List.prefix_of_prefix_length_le ⟨pieces.flatten, rfl⟩ ⟨rest, h.symm⟩ (by omega)
      have hmore : more ≠ [] := by
        rintro rfl
        simp at hlen
      obtain ⟨before, head, after, hpieces, hhead, hne⟩ :=
        ih hmore (by simpa [List.append_assoc] using h)
      refine ⟨piece :: before, head, after, ?_, by simp [← hhead], hne⟩
      have harrived : arrivedWith (piece ++ more).length (piece :: pieces) =
          arrivedWith more.length pieces := by
        rw [arrivedWith, if_neg hlen, List.length_append, Nat.add_sub_cancel_left]
      rw [harrived, List.cons_append, ← hpieces]

theorem EndsDone.ne_nil (h : EndsDone body) : body ≠ [] := by
  rintro rfl
  simpa using h.1

/-- Where the bytes of a stream that says it is done are cut, the event that says so is the last
one behind the cut. -/
theorem EndsDone.exists_split_append {before head : Bytes} (h : EndsDone (before ++ head))
    (hhead : head ≠ []) :
    ∃ events₁ rest₁ events₂ last text, Split (withoutReturns before) events₁ rest₁ ∧
      Split (rest₁ ++ withoutReturns head) (events₂ ++ [last]) [] ∧
      payload? last = some text ∧ IsDone text ∧
      ∀ text ∈ events₁.filterMap payload?, ¬ IsDone text := by
  obtain ⟨hend, events, last, text, hsplit, hpayload, hdone, hfirst⟩ := h
  obtain ⟨events₁, rest₁, h₁⟩ := EventReader.exists_split (withoutReturns before)
  obtain ⟨events₂, rest₂, h₂⟩ := EventReader.exists_split (rest₁ ++ withoutReturns head)
  obtain ⟨hevents, rfl⟩ := (by simpa using h₁.append h₂ : Split _ _ _).unique hsplit
  have hfeed : lineFeed ∈ withoutReturns head := by
    refine List.mem_filter.mpr ⟨List.mem_of_getLast? ?_, by decide⟩
    rwa [List.getLast?_append_of_ne_nil _ hhead] at hend
  cases events₂ using List.reverseRecOn with
  | nil =>
    -- then nothing of the head would be left, not even its line feed
    have hnil : rest₁ ++ withoutReturns head = [] := by simpa using h₂.flatten_append.symm
    simp [(List.append_eq_nil_iff.mp hnil).2] at hfeed
  | append_singleton events₂ event =>
    rw [← List.append_assoc] at hevents
    obtain ⟨rfl, hlast⟩ := List.append_inj' hevents rfl
    obtain rfl : event = last := by simpa using hlast
    refine ⟨events₁, rest₁, events₂, event, text, h₁, h₂, hpayload, hdone, ?_⟩
    exact fun text hmem => hfirst text (by simp [hmem])

/-- A stream that says it is done is read as far as the end of the piece in which it says so. -/
theorem readStream_of_endsDone (hbody : EndsDone body) (h : pieces.flatten = body ++ rest)
    (url : String) (isCut : Bool) :
    readStream url isCut {} {} pieces =
      (({} : Accumulator).takeAll (decode [body])).bind
        (·.takeAll (decode [arrivedWith body.length pieces])) := by
  obtain ⟨before, head, after, hpieces, rfl, hne⟩ := exists_piece_of_flatten hbody.ne_nil h
  generalize arrivedWith _ pieces = tail at hpieces ⊢
  obtain ⟨events₁, rest₁, events₂, last, text, h₁, h₂, hpayload, hdone, hfirst⟩ :=
    hbody.exists_split_append hne
  obtain ⟨events₃, rest₃, h₃⟩ := EventReader.exists_split (withoutReturns tail)
  have hbefore : ({} : EventReader).pushAll before = (events₁.filterMap payload?, ⟨rest₁⟩) :=
    EventReader.pushAll_eq_of_split Stream.unbroken_nil (by simpa using h₁)
  have hpiece : Split (rest₁ ++ withoutReturns (head ++ tail)) (events₂ ++ [last] ++ events₃)
      rest₃ := by
    rw [Stream.withoutReturns_append, ← List.append_assoc]
    exact h₂.append h₃
  have hpush : EventReader.push ⟨rest₁⟩ (head ++ tail) =
      ((events₂ ++ [last] ++ events₃).filterMap payload?, ⟨rest₃⟩) :=
    EventReader.push_eq_of_split hpiece
  have hbody : decode [before.flatten ++ head] =
      (events₁ ++ (events₂ ++ [last])).filterMap payload? ++ (payload? []).toList :=
    EventReader.decode_eq_of_split (by simpa using h₁.append h₂)
  have htail : decode [tail] = events₃.filterMap payload? ++ (payload? rest₃).toList :=
    EventReader.decode_eq_of_split (by simpa using h₃)
  have hread (acc : Accumulator) : readStream url isCut ⟨rest₁⟩ acc ((head ++ tail) :: after) =
      acc.takeAll ((events₂ ++ [last] ++ events₃).filterMap payload? ++
        (payload? rest₃).toList) := by
    rw [readStream_of_mem_done url isCut ⟨text, ?_, hdone⟩, hpush]
    · rfl
    · simp [hpush, hpayload]
  have hnone : payload? [] = none := rfl
  rw [hpieces, readStream_append url isCut (by decide) (by rwa [hbefore]), hbefore, hbody, htail]
  simp only [hread]
  rw [← Accumulator.takeAll_append, ← Accumulator.takeAll_append]
  simp only [List.filterMap_append, hnone, Option.toList_none, List.append_nil, List.append_assoc]

/-! ## Replies -/

variable {url : String} {reply alone : HttpReply}

theorem readBody_of_endsDone (hbody : EndsDone body) (hstream : reply.isEventStream)
    (h : reply.arriving.flatten = body ++ rest) :
    readBody url reply =
      ((({} : Accumulator).takeAll (decode [body])).bind
        (·.takeAll (decode [arrivedWith body.length reply.arriving]))).map
          Accumulator.toResponse := by
  rw [readBody, if_pos hstream, readStream_of_endsDone hbody h]

/-- A stream of which nothing else arrives with the marker is read as if it ended there. -/
theorem readBody_of_arrivedWith_nil (hbody : EndsDone body) (hstream : reply.isEventStream)
    (h : reply.arriving.flatten = body ++ rest)
    (hnil : arrivedWith body.length reply.arriving = []) :
    readBody url reply =
      (({} : Accumulator).takeAll (decode [body])).map Accumulator.toResponse := by
  have hdecode : decode [[]] = [] := rfl
  rw [readBody_of_endsDone hbody hstream h, hnil, hdecode]
  cases ({} : Accumulator).takeAll (decode [body]) <;> rfl

theorem readBody_of_flatten_eq (hbody : EndsDone body) (hstream : reply.isEventStream)
    (h : reply.arriving.flatten = body) :
    readBody url reply =
      (({} : Accumulator).takeAll (decode [body])).map Accumulator.toResponse := by
  have hnil : arrivedWith body.length reply.arriving = [] := by
    refine List.prefix_nil.mp ?_
    simpa [h] using arrivedWith_prefix body.length reply.arriving
  exact readBody_of_arrivedWith_nil hbody hstream (h.trans (List.append_nil body).symm) hnil

/-- **What follows the marker counts exactly if it has arrived with it.** A stream that goes on
after the marker is read like the stream that ends there if and only if the payloads of those bytes
that came in the same piece as the end of the marker leave the completion as it was. All other bytes
behind the marker, and where they are cut, are of no account. -/
theorem readBody_eq_iff_of_endsDone (hbody : EndsDone body) (hstream : reply.isEventStream)
    (hreply : reply.arriving.flatten = body ++ rest) (hstream' : alone.isEventStream)
    (halone : alone.arriving.flatten = body) :
    readBody url reply = readBody url alone ↔
      ∀ acc, ({} : Accumulator).takeAll (decode [body]) = .ok acc →
        ∃ acc', acc.takeAll (decode [arrivedWith body.length reply.arriving]) = .ok acc' ∧
          acc'.toResponse = acc.toResponse := by
  rw [readBody_of_endsDone hbody hstream hreply, readBody_of_flatten_eq hbody hstream' halone]
  cases ({} : Accumulator).takeAll (decode [body]) with
  | error failure => simp [Except.bind, Except.map]
  | ok acc =>
    cases htail : acc.takeAll (decode [arrivedWith body.length reply.arriving]) with
    | error failure => simp [Except.bind, Except.map, htail]
    | ok acc' => simp [Except.bind, Except.map, htail]

theorem endsDone_marker : EndsDone (Bytes.ofString "data: [DONE]\n\n") :=
  ⟨by decide +kernel, [], _, "[DONE]", Stream.splitEvents_eq_iff.mp (by rfl), by decide +kernel,
    by decide +kernel, by simp⟩

/-- A comment that has arrived with the marker, and half an event that comes later. -/
theorem readBody_eq_iff_of_comment :
    let body := Bytes.ofString "data: [DONE]\n\n"
    let reply : HttpReply := {
      contentType := some "text/event-stream"
      pieces := [body ++ Bytes.ofString ": bye\n", Bytes.ofString "\ndata: [ERR"] }
    let alone : HttpReply := { contentType := some "text/event-stream", pieces := [body] }
    EndsDone body ∧ reply.isEventStream ∧
      reply.arriving.flatten = body ++ Bytes.ofString ": bye\n\ndata: [ERR" ∧
      alone.isEventStream ∧ alone.arriving.flatten = body ∧
      (readBody "" reply = readBody "" alone ↔
        ∀ acc, ({} : Accumulator).takeAll (decode [body]) = .ok acc →
          ∃ acc', acc.takeAll (decode [arrivedWith body.length reply.arriving]) = .ok acc' ∧
            acc'.toResponse = acc.toResponse) := by
  intro body reply alone
  have hbytes : reply.arriving.flatten = body ++ Bytes.ofString ": bye\n\ndata: [ERR" := by
    decide +kernel
  have halone : alone.arriving.flatten = body := by decide +kernel
  exact ⟨endsDone_marker, by decide +kernel, hbytes, by decide +kernel, halone,
    readBody_eq_iff_of_endsDone endsDone_marker (by decide +kernel) hbytes (by decide +kernel)
      halone⟩

/-- An event that has arrived with the marker is not ignored: here it makes a stream fail that had
ended well. -/
theorem readBody_ne_of_error_with_marker :
    EndsDone (Bytes.ofString "data: [DONE]\n\n") ∧
      readBody "" {
        contentType := some "text/event-stream"
        pieces := [Bytes.ofString "data: [DONE]\n\n" ++ Bytes.ofString "data: [ERROR]\n\n"] } ≠
      readBody "" {
        contentType := some "text/event-stream"
        pieces := [Bytes.ofString "data: [DONE]\n\n"] } := by
  refine ⟨endsDone_marker, ?_⟩
  rw [show readBody "" _ = .error .streamFailed from rfl]
  rw [show readBody "" _ = .ok ({ isDone := true } : Accumulator).toResponse from rfl]
  simp

end ToolAgent.Gateway
