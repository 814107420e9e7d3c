import Mathlib.Data.List.TakeWhile
import ToolAgent.Proofs.Gateway.Agreement
import ToolAgent.Proofs.Gateway.Reports

/-!
# Streams that fail and streams that do not

A payload before the marker of a good end that is the marker of a bad one, reports an error or
cannot be read makes the completion fail, whatever surrounds it. If a stream has no such payload at
all, then one thing is left that can go wrong: what has come of the next event together with the
marker is taken for a payload of its own (`begunWhenDone?`). The completion succeeds exactly if that
is harmless (`provider_of_delivers`).
-/

namespace ToolAgent.Gateway

open Payload (Fails IsDone IsHarmless)
open ToolAgent.Stream (EventReader)

/-! ## The payloads of a stream -/

theorem delivers_delivered (reply : HttpReply) :
    Delivers reply (delivered reply.isCut {} reply.arriving) := by
  obtain ⟨events, rest, hsplit⟩ :=
    EventReader.exists_split (Stream.withoutReturns reply.arriving.flatten)
  have hdelivers : Delivers reply _ := ⟨events, rest, hsplit, rfl⟩
  exact hdelivers.delivered_eq ▸ hdelivers

/-! ## The payloads that are taken -/

/-- The payloads that are taken from the pieces of a stream: they are those of the pieces up to the
one in which the stream says that it is done, with what has come of the next event by then. -/
def taken (reader : EventReader) : List Bytes → List String
  | [] => reader.finish.1.toList
  | piece :: pieces =>
    let (payloads, reader) := reader.push piece
    payloads ++
      if payloads.any fun text => IsDone text then reader.finish.1.toList else taken reader pieces

theorem taken_cons (reader : EventReader) (piece : Bytes) (pieces : List Bytes) :
    taken reader (piece :: pieces) = (reader.push piece).1 ++
      if ∃ text ∈ (reader.push piece).1, IsDone text then (reader.push piece).2.finish.1.toList
      else taken (reader.push piece).2 pieces := by
  simp [taken]

theorem readStream_eq_takeAll (url : String) {reader : EventReader} {acc : Accumulator}
    {pieces : List Bytes} (hacc : ¬ acc.isDone) :
    readStream url false reader acc pieces = acc.takeAll (taken reader pieces) := by
  induction pieces generalizing reader acc with
  | nil => rfl
  | cons piece pieces ih =>
    rw [readStream_cons, taken_cons, Accumulator.takeAll_append]
    cases hpiece : acc.takeAll (reader.push piece).1 with
    | error failure => rfl
    | ok acc₁ =>
      have hdone : acc₁.isDone ↔ ∃ text ∈ (reader.push piece).1, IsDone text := by
        rw [Accumulator.isDone_iff_of_takeAll hpiece]
        exact or_iff_right hacc
      by_cases hacc₁ : acc₁.isDone
      · rw [if_pos (hdone.mp hacc₁)]
        simp only [Except.bind, hacc₁, if_true, readRest]
      · rw [if_neg (mt hdone.mpr hacc₁)]
        simp only [Except.bind, hacc₁]
        exact ih hacc₁

/-! ## The first payload that fails -/

/-- The payloads before the first that says that the stream is done, all of them if none does. -/
def beforeDone (texts : List String) : List String := texts.takeWhile fun text => ¬ IsDone text

theorem not_isDone_of_mem_beforeDone {texts : List String} {text : String}
    (h : text ∈ beforeDone texts) : ¬ IsDone text := by
  have htext := List.mem_takeWhile_imp h
  exact of_decide_eq_true htext

theorem beforeDone_prefix (texts : List String) : beforeDone texts <+: texts :=
  List.takeWhile_prefix _

/-- Of payloads that are not all harmless, there is a first that brings about a failure. -/
theorem exists_first_fails {texts : List String} (h : ¬ ∀ text ∈ texts, IsHarmless text) :
    ∃ before text after failure, texts = before ++ text :: after ∧
      (∀ text ∈ before, IsHarmless text) ∧ Fails text failure := by
  induction texts with
  | nil => simp at h
  | cons text texts ih =>
    by_cases hfirst : IsHarmless text
    · have hrest : ¬ ∀ text ∈ texts, IsHarmless text := fun hrest =>
        h (List.forall_mem_cons.mpr ⟨hfirst, hrest⟩)
      obtain ⟨before, other, after, failure, rfl, hbefore, hfails⟩ := ih hrest
      exact ⟨text :: before, other, after, failure, rfl,
        List.forall_mem_cons.mpr ⟨hfirst, hbefore⟩, hfails⟩
    · obtain ⟨failure, hfails⟩ := Payload.not_isHarmless_iff.mp hfirst
      exact ⟨[], text, texts, failure, rfl, by simp, hfails⟩

/-! ## Harmless payloads -/

/-- What has come of the event that follows, when the stream has said that it is done and no more of
it is read. -/
def begunWhenDone? (reader : EventReader) : List Bytes → Option String
  | [] => none
  | piece :: pieces =>
    let (payloads, reader) := reader.push piece
    if payloads.any fun text => IsDone text then reader.finish.1 else begunWhenDone? reader pieces

theorem begunWhenDone?_cons (reader : EventReader) (piece : Bytes) (pieces : List Bytes) :
    begunWhenDone? reader (piece :: pieces) =
      if ∃ text ∈ (reader.push piece).1, IsDone text then (reader.push piece).2.finish.1
      else begunWhenDone? (reader.push piece).2 pieces := by
  simp [begunWhenDone?]

theorem forall_taken_iff {p : String → Prop} {reader : EventReader} {pieces : List Bytes}
    (h : ∀ text ∈ delivered false reader pieces, p text) :
    (∀ text ∈ taken reader pieces, p text) ↔ ∀ text ∈ begunWhenDone? reader pieces, p text := by
  induction pieces generalizing reader with
  | nil => exact iff_of_true h (by simp [begunWhenDone?])
  | cons piece pieces ih =>
    rw [delivered_cons] at h
    obtain ⟨hpiece, hpieces⟩ := List.forall_mem_append.mp h
    rw [taken_cons, begunWhenDone?_cons, List.forall_mem_append, and_iff_right hpiece]
    split
    · simp only [Option.mem_toList, Option.mem_def]
    · exact ih hpieces

/-- A stream of harmless payloads can be read exactly if what has come together with the marker is
harmless, too. -/
theorem exists_readStream_iff (url : String) {reader : EventReader} {acc : Accumulator}
    {pieces : List Bytes} (hacc : ¬ acc.isDone)
    (h : ∀ text ∈ delivered false reader pieces, IsHarmless text) :
    (∃ acc', readStream url false reader acc pieces = .ok acc') ↔
      ∀ text ∈ begunWhenDone? reader pieces, IsHarmless text := by
  rw [readStream_eq_takeAll url hacc, Accumulator.exists_takeAll_iff]
  exact forall_taken_iff h

/-- What has been read from a stream is always a completion. -/
theorem exists_readReply_iff (url : String) {reply : HttpReply} (hstatus : reply.status = 200)
    (hstream : reply.isEventStream) :
    (∃ answer, readReply url reply = .ok answer) ↔
      ∃ acc, readStream url reply.isCut {} {} reply.arriving = .ok acc := by
  rw [readReply, if_pos hstatus, readBody, if_pos hstream]
  cases readStream url reply.isCut {} {} reply.arriving with
  | error failure => simp [Except.map, Except.bind]
  | ok acc => simp [Except.map, Except.bind, readResponse_toResponse]

/-! ## Completions -/

/-- **Failures in a stream.** Let all of a stream arrive. If one of its payloads before the first
marker of a good end brings about a failure, then the completion fails, and it does so for the first
of these payloads. If all of its payloads are harmless, then the completion succeeds, unless an
event that comes after the marker has begun in the piece in which the marker came, and what has come
of it is not harmless. -/
theorem provider_of_delivers {σ : Type} {config : GatewayConfig} {transport : Transport σ}
    {request : CompletionRequest} {s s' : σ} {reply : HttpReply} {texts : List String}
    (hexchanges : Exchanges config transport request s reply s') (hstatus : reply.status = 200)
    (hstream : reply.isEventStream) (hcut : ¬ reply.isCut) (htexts : Delivers reply texts) :
    ((∃ text ∈ beforeDone texts, ∃ failure, Fails text failure) →
      ∃ before text after failure, beforeDone texts = before ++ text :: after ∧
        (∀ text ∈ before, ∀ failure, ¬ Fails text failure) ∧ Fails text failure ∧
        (provider config transport request).run s = (.error failure, s')) ∧
    ((∀ text ∈ texts, IsHarmless text) →
      ((∃ answer, (provider config transport request).run s = (.ok answer, s')) ↔
        ∀ text ∈ begunWhenDone? {} reply.arriving, IsHarmless text)) := by
  obtain ⟨url, hprovider⟩ := hexchanges.provider_eq
  constructor
  · rintro ⟨text, hmem, failure, hfails⟩
    have hnot : ¬ ∀ text ∈ beforeDone texts, IsHarmless text := fun hall =>
      Payload.not_isHarmless_iff.mpr ⟨failure, hfails⟩ (hall text hmem)
    obtain ⟨before, text, after, failure, hbefore, hfirst, hfails⟩ := exists_first_fails hnot
    have hnone : ∀ text ∈ before, ∀ failure, ¬ Fails text failure := fun text hmem failure hfails =>
      Payload.not_isHarmless_iff.mpr ⟨failure, hfails⟩ (hfirst text hmem)
    refine ⟨before, text, after, failure, hbefore, hnone, hfails, ?_⟩
    obtain ⟨acc, hacc⟩ : ∃ acc, ({} : Accumulator).takeAll before = .ok acc :=
      Accumulator.exists_takeAll_iff.mpr hfirst
    have hdone : ∀ text ∈ before, ¬ IsDone text := by
      intro text hmem
      have hmem' : text ∈ beforeDone texts := by
        rw [hbefore]
        exact List.mem_append_left _ hmem
      exact not_isDone_of_mem_beforeDone hmem'
    obtain ⟨rest, hrest⟩ := beforeDone_prefix texts
    have hdelivered : delivered reply.isCut {} reply.arriving =
        before ++ text :: (after ++ rest) := by
      rw [htexts.delivered_eq, ← hrest, hbefore]
      simp
    have hread : readStream url reply.isCut {} {} reply.arriving = .error failure :=
      readStream_eq_error url hdelivered (by simp) hacc hdone hfails.failure?_eq
    rw [hprovider, readReply, if_pos hstatus, readBody, if_pos hstream, hread]
    rfl
  · intro hall
    have hdelivered : ∀ text ∈ delivered false {} reply.arriving, IsHarmless text := by
      rw [← Bool.eq_false_iff.mpr hcut, htexts.delivered_eq]
      exact hall
    have hrun (answer : Message × Usage) :
        (provider config transport request).run s = (.ok answer, s') ↔
          readReply url reply = .ok answer := by
      rw [hprovider, Prod.mk.injEq, and_iff_left rfl]
    rw [exists_congr hrun, exists_readReply_iff url hstatus hstream, Bool.eq_false_iff.mpr hcut]
    exact exists_readStream_iff url (by simp) hdelivered

/-- A chunk of an odd shape, then the marker of a bad end, cut in two, and that of a good one. -/
theorem provider_of_odd_chunk :
    let chunk := "\x7b\"choices\":[5],\"usage\":\"none\"\x7d"
    let reply : HttpReply := {
      contentType := some "text/event-stream"
      pieces := [
        Bytes.ofString ("data: " ++ chunk ++ "\n\ndata: [ERR"),
        Bytes.ofString "OR]\n\ndata: [DONE]\n\n"] }
    let config : GatewayConfig := .forResource "http://[::1]" "w" "e" "r"
    let transport : Transport Unit := fun _ => pure (.ok reply)
    Exchanges config transport ⟨"", [], []⟩ () reply () ∧ reply.status = 200 ∧
      reply.isEventStream ∧ ¬ reply.isCut ∧ Delivers reply [chunk, "[ERROR]", "[DONE]"] ∧
      IsHarmless chunk ∧ Fails "[ERROR]" .streamFailed ∧
      (provider config transport ⟨"", [], []⟩).run () = (.error .streamFailed, ()) := by
  intro chunk reply config transport
  have hstream : reply.isEventStream := by decide +kernel
  have hcut : ¬ reply.isCut := by decide
  have hdelivers : Delivers reply [chunk, "[ERROR]", "[DONE]"] := by
    have hdelivered : delivered reply.isCut {} reply.arriving = [chunk, "[ERROR]", "[DONE]"] := by
      decide +kernel
    exact hdelivered ▸ delivers_delivered reply
  have hchunk : IsHarmless chunk := by decide +kernel
  have hfails : Fails "[ERROR]" .streamFailed := .failed (by decide +kernel)
  have hbefore : beforeDone [chunk, "[ERROR]", "[DONE]"] = [chunk, "[ERROR]"] := by decide +kernel
  have hexists : ∃ text ∈ beforeDone [chunk, "[ERROR]", "[DONE]"], ∃ failure, Fails text failure :=
    ⟨"[ERROR]", by simp [hbefore], .streamFailed, hfails⟩
  obtain ⟨before, text, after, failure, heq, -, hfirst, hrun⟩ :=
    (provider_of_delivers (exchanges_loopback reply) rfl hstream hcut hdelivers).1 hexists
  have hmem : text ∈ [chunk, "[ERROR]"] := by
    rw [← hbefore, heq]
    simp
  obtain rfl | rfl : text = chunk ∨ text = "[ERROR]" := by simpa using hmem
  · exact absurd hchunk (Payload.not_isHarmless_iff.mpr ⟨failure, hfirst⟩)
  · obtain rfl : failure = .streamFailed :=
      Option.some.inj (hfirst.failure?_eq.symm.trans hfails.failure?_eq)
    exact ⟨exchanges_loopback reply, rfl, hstream, hcut, hdelivers, hchunk, hfails, hrun⟩

/-- A stream of harmless payloads fails if the event that follows the marker has begun in the piece
in which the marker came. -/
theorem provider_ne_ok_of_cut_event :
    let reply : HttpReply := {
      contentType := some "text/event-stream"
      pieces := [
        Bytes.ofString "data: [DONE]\n\ndata: \x7b",
        Bytes.ofString "\x7d\n\n"] }
    let config : GatewayConfig := .forResource "http://[::1]" "w" "e" "r"
    let transport : Transport Unit := fun _ => pure (.ok reply)
    Exchanges config transport ⟨"", [], []⟩ () reply () ∧ reply.status = 200 ∧
      reply.isEventStream ∧ ¬ reply.isCut ∧ Delivers reply ["[DONE]", "\x7b\x7d"] ∧
      (∀ text ∈ ["[DONE]", "\x7b\x7d"], IsHarmless text) ∧
      ∀ answer, (provider config transport ⟨"", [], []⟩).run () ≠ (.ok answer, ()) := by
  intro reply config transport
  have hdelivers : Delivers reply ["[DONE]", "\x7b\x7d"] := by
    have hdelivered : delivered reply.isCut {} reply.arriving = ["[DONE]", "\x7b\x7d"] := by
      decide +kernel
    exact hdelivered ▸ delivers_delivered reply
  have hharmless : ∀ text ∈ ["[DONE]", "\x7b\x7d"], IsHarmless text := by decide +kernel
  have hstream : reply.isEventStream := by decide +kernel
  refine ⟨exchanges_loopback reply, rfl, hstream, by decide, hdelivers, hharmless, ?_⟩
  intro answer hrun
  obtain ⟨url, hprovider⟩ := (exchanges_loopback reply).provider_eq
  have hread : readReply url reply = .ok answer := (Prod.mk.inj (hprovider.symm.trans hrun)).1
  have hacc : ∃ acc, readStream url false {} {} reply.arriving = .ok acc :=
    (exists_readReply_iff url rfl hstream).mp ⟨answer, hread⟩
  have hbegun : begunWhenDone? {} reply.arriving = some "\x7b" := by decide +kernel
  rw [exists_readStream_iff url (by simp) (hdelivers.delivered_eq ▸ hharmless), hbegun] at hacc
  exact absurd (hacc "\x7b" rfl) (by decide +kernel)

end ToolAgent.Gateway
