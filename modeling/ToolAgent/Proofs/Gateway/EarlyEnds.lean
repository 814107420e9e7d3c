import ToolAgent.Proofs.Completion.Beginnings
import ToolAgent.Proofs.Gateway.StreamFailures
import ToolAgent.Proofs.Stream.Beginnings

/-!
# Streams that end early

A stream that says only at its end that it is done is read to its end, whatever the pieces in which
it comes (`readStream_of_doneAtEnd`). If it ends early instead, the completion fails or is the
beginning of the one that the whole stream gives (`provider_of_prefix`).
-/

namespace ToolAgent.Gateway

open Payload (IsDone)
open ToolAgent.Stream (EventReader Split payload? withoutReturns Unbroken)
open ToolAgent.Stream.EventReader (decode)

/-! ## Streams that go on to their end -/

/-- Only the last of the payloads may say that the stream is done. -/
def DoneAtEnd (texts : List String) : Prop := ∀ text ∈ texts.dropLast, ¬ IsDone text

instance : DecidablePred DoneAtEnd := fun texts =>
  inferInstanceAs (Decidable (∀ text ∈ texts.dropLast, ¬ IsDone text))

section

variable {before after : List String} {text : String}

theorem doneAtEnd_append_cons_iff :
    DoneAtEnd (before ++ text :: after) ↔
      (∀ other ∈ before, ¬ IsDone other) ∧ DoneAtEnd (text :: after) := by
  rw [DoneAtEnd, DoneAtEnd, List.dropLast_append_of_ne_nil (List.cons_ne_nil text after),
    List.forall_mem_append]

theorem doneAtEnd_append_singleton (h : ∀ other ∈ before, ¬ IsDone other) :
    DoneAtEnd (before ++ [text]) := by
  rwa [DoneAtEnd, List.dropLast_concat]

theorem DoneAtEnd.of_append_cons (h : DoneAtEnd (before ++ text :: after)) :
    ∀ other ∈ before, ¬ IsDone other :=
  (doneAtEnd_append_cons_iff.mp h).1

theorem DoneAtEnd.of_append (h : DoneAtEnd (before ++ after)) : DoneAtEnd after := by
  cases after with
  | nil => exact List.forall_mem_nil _
  | cons text after => exact (doneAtEnd_append_cons_iff.mp h).2

theorem DoneAtEnd.of_prefix {start texts : List String} (h : DoneAtEnd texts)
    (hfront : start <+: texts) : DoneAtEnd start := by
  obtain ⟨more, rfl⟩ := hfront
  cases more with
  | nil => rwa [List.append_nil] at h
  | cons text more => exact fun other hmem => h.of_append_cons other (List.mem_of_mem_dropLast hmem)

end

/-- A reader that finds nothing in the rest of a stream has nothing in its buffer. -/
theorem finish_of_delivered_eq_nil {reader : EventReader} {pieces : List Bytes}
    (hbuffer : Unbroken reader.buffer) (h : delivered false reader pieces = []) :
    reader.finish.1 = none := by
  obtain ⟨events, rest, hsplit⟩ :=
    EventReader.exists_split (reader.buffer ++ withoutReturns pieces.flatten)
  cases htext : reader.finish.1 with
  | none => rfl
  | some text =>
    obtain ⟨data, all, others, -, -, hothers⟩ :=
      hsplit.exists_payload? (List.prefix_append ..) hbuffer htext
    have hpayloads : delivered false reader pieces =
        events.filterMap payload? ++ (payload? rest).toList := by
      simp only [delivered, EventReader.pushAll_eq_of_split hbuffer hsplit, EventReader.finish]
      rfl
    rw [hpayloads, hothers] at h
    cases h

/-- These are all payloads of a stream that says only at its end that it is done. -/
theorem taken_of_doneAtEnd {reader : EventReader} {pieces : List Bytes}
    (hbuffer : Unbroken reader.buffer) (h : DoneAtEnd (delivered false reader pieces)) :
    taken reader pieces = delivered false reader pieces := by
  induction pieces generalizing reader with
  | nil => rfl
  | cons piece pieces ih =>
    have hrest : Unbroken (reader.push piece).2.buffer := by
      obtain ⟨events, rest, hsplit⟩ :=
        EventReader.exists_split (reader.buffer ++ withoutReturns piece)
      rw [EventReader.push_eq_of_split hsplit]
      exact hsplit.unbroken
    rw [delivered_cons] at h ⊢
    rw [taken_cons]
    split
    · -- then nothing follows, not even in the buffer
      rename_i hdone
      obtain ⟨text, hmem, hdone⟩ := hdone
      have hnil : delivered false (reader.push piece).2 pieces = [] := by
        by_contra hne
        obtain ⟨other, texts, hmore⟩ := List.exists_cons_of_ne_nil hne
        rw [hmore] at h
        exact h.of_append_cons text hmem hdone
      rw [hnil, finish_of_delivered_eq_nil hrest hnil, Option.toList_none]
    · rw [ih hrest h.of_append]

/-- A stream that says only at its end that it is done is read to its end. -/
theorem readStream_of_doneAtEnd (url : String) {reader : EventReader} {acc : Accumulator}
    {pieces : List Bytes} (hbuffer : Unbroken reader.buffer) (hacc : ¬ acc.isDone)
    (h : DoneAtEnd (delivered false reader pieces)) :
    readStream url false reader acc pieces = acc.takeAll (delivered false reader pieces) := by
  rw [readStream_eq_takeAll url hacc, taken_of_doneAtEnd hbuffer h]

/-- What has been read before a connection broke is read as well where it did not break. -/
theorem readStream_eq_ok (url' : String) {url : String} {isCut isCut' : Bool}
    (hcut : isCut' → isCut) {reader : EventReader} {acc acc' : Accumulator} {pieces : List Bytes}
    (h : readStream url isCut reader acc pieces = .ok acc') :
    readStream url' isCut' reader acc pieces = .ok acc' := by
  induction pieces generalizing reader acc with
  | nil =>
    rw [readStream] at h ⊢
    split at h
    · cases h
    · rename_i hcut'
      rwa [if_neg fun hcut'' => hcut' (hcut hcut'')]
  | cons piece pieces ih =>
    rw [readStream_cons] at h ⊢
    cases hpiece : acc.takeAll (reader.push piece).1 with
    | error failure =>
      rw [hpiece] at h
      cases h
    | ok acc₁ =>
      simp only [hpiece, Except.bind] at h ⊢
      by_cases hacc₁ : acc₁.isDone
      · rwa [if_pos hacc₁] at h ⊢
      · rw [if_neg hacc₁] at h ⊢
        exact ih h

/-- What is read from a body does not depend on where it came from. -/
theorem readBody_eq_ok (url' : String) {url : String} {reply : HttpReply} {response : Json}
    (h : readBody url reply = .ok response) : readBody url' reply = .ok response := by
  rw [readBody] at h ⊢
  split at h
  · rename_i hstream
    obtain ⟨acc, hread, rfl⟩ := Json.map_eq_ok_iff.mp h
    rw [if_pos hstream, readStream_eq_ok url' id hread]
    rfl
  · rename_i hplain
    rw [readJson] at h
    split at h
    · cases h
    · rename_i hcut
      rw [if_neg hplain, readJson, if_neg hcut, h]

theorem delivered_eq_decode (pieces : List Bytes) : delivered false {} pieces = decode pieces := by
  rw [delivered, decode]
  rfl

/-! ## Streams that end early -/

section

variable {pieces whole : List Bytes} {acc acc' : Accumulator}

theorem doneAtEnd_of_prefix (hfront : pieces.flatten <+: whole.flatten)
    (h : DoneAtEnd (decode whole)) : DoneAtEnd (decode pieces) := by
  obtain hpayloads | ⟨before, data, all, after, hpayloads, hall, -⟩ :=
    EventReader.decode_of_prefix hfront
  · exact h.of_prefix hpayloads
  · rw [hpayloads]
    rw [hall] at h
    exact doneAtEnd_append_singleton h.of_append_cons

/-- What comes of the beginning of a stream is the beginning of what comes of all of it. -/
theorem begins_of_prefix (hfront : pieces.flatten <+: whole.flatten)
    (hpieces : ({} : Accumulator).takeAll (decode pieces) = .ok acc')
    (hwhole : ({} : Accumulator).takeAll (decode whole) = .ok acc) : acc'.Begins acc := by
  obtain ⟨more, hmore⟩ | ⟨before, data, all, after, hpayloads, hall, hdata⟩ :=
    EventReader.decode_of_prefix hfront
  · rw [← hmore, Accumulator.takeAll_append, hpieces] at hwhole
    exact (Accumulator.Begins.refl acc').takeAll hwhole
  · have hbegins : Begins (Bytes.toStringLossy data).toList (Bytes.toStringLossy all).toList := by
      rw [Bytes.toStringLossy, Bytes.toStringLossy, String.toList_ofList, String.toList_ofList]
      exact Utf8.begins_decodeLossy hdata
    rw [hpayloads, Accumulator.takeAll_append] at hpieces
    rw [hall, Accumulator.takeAll_append] at hwhole
    cases hbefore : ({} : Accumulator).takeAll before with
    | error failure =>
      rw [hbefore] at hpieces
      cases hpieces
    | ok acc₀ =>
      rw [hbefore] at hpieces hwhole
      simp only [Except.bind] at hpieces hwhole
      exact Accumulator.begins_of_takeAll hbegins hpieces hwhole

end

/-! ## Completions -/

/-- The reply is a stream that has come to an end. -/
structure IsEndedStream (reply : HttpReply) : Prop where
  status : reply.status = 200
  stream : reply.isEventStream
  notCut : ¬ reply.isCut

/-- What comes of a stream that says only at its end that it is done is what its payloads say. -/
theorem IsEndedStream.readStream_eq {reply : HttpReply} (h : IsEndedStream reply)
    (hdone : DoneAtEnd (decode reply.arriving)) (url : String) :
    readStream url reply.isCut {} {} reply.arriving =
      ({} : Accumulator).takeAll (decode reply.arriving) := by
  rw [← delivered_eq_decode] at hdone ⊢
  rw [Bool.eq_false_iff.mpr h.notCut]
  exact readStream_of_doneAtEnd url Stream.unbroken_nil (by simp) hdone

theorem IsEndedStream.readReply_eq {reply : HttpReply} (h : IsEndedStream reply)
    (hdone : DoneAtEnd (decode reply.arriving)) (url : String) :
    readReply url reply = (({} : Accumulator).takeAll (decode reply.arriving)).map fun acc =>
      (acc.completion.message, .ofResponse acc.toResponse) := by
  rw [readReply, if_pos h.status, readBody, if_pos h.stream, h.readStream_eq hdone]
  cases ({} : Accumulator).takeAll (decode reply.arriving) with
  | error failure => rfl
  | ok acc => exact readResponse_toResponse acc

/-- A stream whose completion succeeds has been accumulated, even if the connection broke in the
end. -/
theorem exists_readStream_of_readReply {reply : HttpReply} {url : String} {message : Message}
    {usage : Usage} (hstream : reply.isEventStream)
    (h : readReply url reply = .ok (message, usage)) :
    ∃ acc, readStream url reply.isCut {} {} reply.arriving = .ok acc ∧
      message = acc.completion.message := by
  rw [readReply] at h
  split at h
  · rw [readBody, if_pos hstream] at h
    cases hread : readStream url reply.isCut {} {} reply.arriving with
    | error failure =>
      rw [hread] at h
      cases h
    | ok acc =>
      rw [hread] at h
      have hmessage := (readResponse_toResponse acc).symm.trans h
      exact ⟨acc, rfl, (Prod.mk.inj (Except.ok.inj hmessage)).1.symm⟩
  · cases h

/-- **A stream that ends early invents nothing.** Let a stream say only at its end that it is done,
or not at all, and let its completion succeed. If another stream ends within it, at any byte, then
its completion fails, or its text is the beginning of the text of the first one, and each of its
calls is the beginning of the call with the same index there. -/
theorem provider_of_prefix {σ τ : Type} {config : GatewayConfig} {request : CompletionRequest}
    {transport : Transport σ} {s s' : σ} {whole : HttpReply} {message : Message} {usage : Usage}
    (hwhole : Exchanges config transport request s whole s') (hstream : whole.isEventStream)
    (hdone : DoneAtEnd (decode whole.arriving))
    (hok : (provider config transport request).run s = (.ok (message, usage), s'))
    {transport' : Transport τ} {t t' : τ} {part : HttpReply}
    (hpart : Exchanges config transport' request t part t') (hended : IsEndedStream part)
    (hfront : part.arriving.flatten <+: whole.arriving.flatten) :
    (∃ failure, (provider config transport' request).run t = (.error failure, t')) ∨
    ∃ acc acc' message' usage',
      (∀ url, readStream url whole.isCut {} {} whole.arriving = .ok acc) ∧
      (∀ url, readStream url part.isCut {} {} part.arriving = .ok acc') ∧
      message = acc.completion.message ∧ message' = acc'.completion.message ∧
      (provider config transport' request).run t = (.ok (message', usage'), t') ∧
      (∃ text text', message.text? = some text ∧ message'.text? = some text' ∧
        text'.toList <+: text.toList) ∧
      (acc.calls.map PendingCall.index).Nodup ∧
      ∀ begun ∈ acc'.calls, ∃ call ∈ acc.calls, begun.Begins call := by
  obtain ⟨url, hprovider⟩ := hwhole.provider_eq
  obtain ⟨url', hprovider'⟩ := hpart.provider_eq
  have hdone' : DoneAtEnd (decode part.arriving) := doneAtEnd_of_prefix hfront hdone
  rw [hprovider] at hok
  obtain ⟨acc, hread, rfl⟩ := exists_readStream_of_readReply hstream (Prod.mk.inj hok).1
  have hacc : ({} : Accumulator).takeAll (decode whole.arriving) = .ok acc := by
    rw [← delivered_eq_decode] at hdone ⊢
    rw [← readStream_of_doneAtEnd url Stream.unbroken_nil (by simp) hdone]
    exact readStream_eq_ok url (fun hcut => Bool.noConfusion hcut) hread
  rw [hprovider', hended.readReply_eq hdone' url']
  cases hacc' : ({} : Accumulator).takeAll (decode part.arriving) with
  | error failure => exact .inl ⟨failure, rfl⟩
  | ok acc' =>
    have hbegins : acc'.Begins acc := begins_of_prefix hfront hacc' hacc
    have hnodup : (acc.calls.map PendingCall.index).Nodup := by
      refine Accumulator.nodup_takeAll ?_ hacc
      exact List.nodup_nil
    refine .inr ⟨acc, acc', _, _, fun url => readStream_eq_ok url id hread, fun url => ?_, rfl, rfl,
      rfl, ⟨_, _, rfl, rfl, hbegins.content⟩, hnodup, fun begun => hbegins.calls.exists_mem⟩
    rw [hended.readStream_eq hdone' url, hacc']

/-- A stream of two texts, and the part of it that ends behind the label of the second one. -/
theorem provider_of_cut_label :
    let first := "data:\x7b\"choices\":[\x7b\"delta\":\x7b\"content\":\"a\"\x7d\x7d]\x7d\n\ndata:"
    let second := "\x7b\"choices\":[\x7b\"delta\":\x7b\"content\":\"b\"\x7d\x7d]\x7d\n\ndata:[DONE]"
    let stream (pieces : List Bytes) : HttpReply :=
      { contentType := some "text/event-stream", pieces }
    let whole := stream [Bytes.ofString first, Bytes.ofString second]
    let part := stream [Bytes.ofString first]
    let config : GatewayConfig := .forResource "http://[::1]" "w" "e" "r"
    let transport (reply : HttpReply) : Transport Unit := fun _ => pure (.ok reply)
    let request : CompletionRequest := ⟨"", [], []⟩
    Exchanges config (transport whole) request () whole () ∧ whole.isEventStream ∧
      DoneAtEnd (decode whole.arriving) ∧
      (∃ usage, (provider config (transport whole) request).run () =
        (.ok (.assistant "ab" [], usage), ())) ∧
      Exchanges config (transport part) request () part () ∧ IsEndedStream part ∧
      part.arriving.flatten <+: whole.arriving.flatten ∧
      ∃ message usage, (provider config (transport part) request).run () =
        (.ok (message, usage), ()) ∧ message.text? = some "a" := by
  intro first second stream whole part config transport request
  have hended (pieces : List Bytes) : IsEndedStream (stream pieces) :=
    ⟨rfl, show (stream []).isEventStream by decide +kernel, Bool.false_ne_true⟩
  have hdecode : decode whole.arriving =
      ["\x7b\"choices\":[\x7b\"delta\":\x7b\"content\":\"a\"\x7d\x7d]\x7d",
        "\x7b\"choices\":[\x7b\"delta\":\x7b\"content\":\"b\"\x7d\x7d]\x7d", "[DONE]"] := by
    decide +kernel
  have hdecode' : decode part.arriving =
      ["\x7b\"choices\":[\x7b\"delta\":\x7b\"content\":\"a\"\x7d\x7d]\x7d", ""] := by
    decide +kernel
  have hacc : ({} : Accumulator).takeAll (decode whole.arriving) =
      .ok { content := "ab", isDone := true } := by
    rw [hdecode]
    exact Json.toOption_eq_some_iff.mp (by decide +kernel)
  have hacc' : ({} : Accumulator).takeAll (decode part.arriving) = .ok { content := "a" } := by
    rw [hdecode']
    exact Json.toOption_eq_some_iff.mp (by decide +kernel)
  have hdone : DoneAtEnd (decode whole.arriving) := by
    rw [hdecode]
    decide +kernel
  have hdone' : DoneAtEnd (decode part.arriving) := by
    rw [hdecode']
    decide +kernel
  obtain ⟨usage, hok⟩ : ∃ usage, (provider config (transport whole) request).run () =
      (.ok (.assistant "ab" [], usage), ()) := by
    obtain ⟨url, hprovider⟩ := (exchanges_loopback whole).provider_eq
    have hmessage : Completion.message (Accumulator.completion
        { content := "ab", isDone := true }) = .assistant "ab" [] := by
      simp [Accumulator.completion, Completion.message, Accumulator.sortedCalls]
    rw [hprovider, (hended _).readReply_eq hdone url, hacc, Except.map, hmessage]
    exact ⟨_, rfl⟩
  have hfront : part.arriving.flatten <+: whole.arriving.flatten := by decide +kernel
  refine ⟨exchanges_loopback whole, (hended _).stream, hdone, ⟨usage, hok⟩, exchanges_loopback part,
    hended _, hfront, ?_⟩
  obtain ⟨failure, hfailure⟩ | ⟨-, acc, message, usage, -, hread, -, rfl, hrun, -⟩ :=
    provider_of_prefix (exchanges_loopback whole) (hended _).stream hdone hok
      (exchanges_loopback part) (hended _) hfront
  · obtain ⟨url, hprovider⟩ := (exchanges_loopback part).provider_eq
    rw [hprovider, (hended _).readReply_eq hdone' url, hacc'] at hfailure
    cases (Prod.mk.inj hfailure).1
  · obtain rfl : _ = acc := Except.ok.inj
      (hacc'.symm.trans (((hended _).readStream_eq hdone' "").symm.trans (hread "")))
    exact ⟨_, usage, hrun, rfl⟩

end ToolAgent.Gateway
