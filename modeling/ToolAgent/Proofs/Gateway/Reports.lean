import ToolAgent.Proofs.Completion.Streaming
import ToolAgent.Proofs.Gateway.Client
import ToolAgent.Proofs.Gateway.EndOfStream

/-!
# Errors that a gateway reports

A gateway may report an error in a reply without success, in a JSON body, or in the middle of a
stream (`Gateway.Reports`). However it does so, the completion fails. That the input was too long is
a failure of its own kind if it is reported in one of the first two ways; a stream tells such an
error from others in its text alone (`Gateway.provider_of_reports`).
-/

namespace ToolAgent.Gateway

open Payload (IsDone IsReport)
open ToolAgent.Stream (EventReader Split payload? withoutReturns)

/-! ## Streams that fail -/

/-- The payloads that a reader finds in the pieces of a stream. Where a stream is cut, what is left
behind the last event does not count. -/
def delivered (isCut : Bool) (reader : EventReader) (pieces : List Bytes) : List String :=
  let (payloads, reader) := reader.pushAll pieces
  payloads ++ if isCut then [] else reader.finish.1.toList

theorem delivered_cons (isCut : Bool) (reader : EventReader) (piece : Bytes) (pieces : List Bytes) :
    delivered isCut reader (piece :: pieces) =
      (reader.push piece).1 ++ delivered isCut (reader.push piece).2 pieces := by
  simp only [delivered, EventReader.pushAll, List.append_assoc]

/-- A payload that brings about a failure makes the stream fail, whatever follows it, unless the
stream has said before that it is done. -/
theorem readStream_eq_error (url : String) {isCut : Bool} {reader : EventReader}
    {acc acc' : Accumulator} {pieces : List Bytes} {before after : List String} {text : String}
    {failure : GatewayFailure} (hpieces : delivered isCut reader pieces = before ++ text :: after)
    (hacc : ¬ acc.isDone) (hbefore : acc.takeAll before = .ok acc')
    (hfirst : ∀ text ∈ before, ¬ IsDone text)
    (hfailure : (Payload.ofText text).failure? = some failure) :
    readStream url isCut reader acc pieces = .error failure := by
  induction pieces generalizing reader acc before with
  | nil =>
    cases isCut with
    | true => simp [delivered, EventReader.pushAll] at hpieces
    | false =>
      have hrest : reader.finish.1.toList = before ++ text :: after := hpieces
      have hread : readRest reader acc = .error failure := by
        rw [readRest, hrest, Accumulator.takeAll_eq_error hbefore hfailure]
      exact hread
  | cons piece pieces ih =>
    rw [delivered_cons] at hpieces
    rw [readStream_cons]
    by_cases hlen : (reader.push piece).1.length ≤ before.length
    · -- the payload comes in a later piece, and this one is read to its end
      obtain ⟨rest, hrest⟩ : (reader.push piece).1 <+: before :=
        List.prefix_of_prefix_length_le ⟨_, hpieces⟩ ⟨_, rfl⟩ hlen
      rw [← hrest, Accumulator.takeAll_append] at hbefore
      rw [← hrest] at hfirst
      rw [← hrest, List.append_assoc, List.append_cancel_left_eq] at hpieces
      cases hpiece : acc.takeAll (reader.push piece).1 with
      | error other => simp [hpiece, Except.bind] at hbefore
      | ok acc₁ =>
        rw [hpiece] at hbefore
        obtain ⟨hfirst, hlater⟩ := List.forall_mem_append.mp hfirst
        have hacc₁ : ¬ acc₁.isDone := Accumulator.not_isDone_of_takeAll hpiece hacc hfirst
        simp only [Except.bind, hacc₁, Bool.false_eq_true, if_false]
        exact ih hpieces hacc₁ hbefore hlater
    · obtain ⟨rest, hrest⟩ : before <+: (reader.push piece).1 :=
        List.prefix_of_prefix_length_le ⟨_, rfl⟩ ⟨_, hpieces⟩ (by omega)
      rw [← hrest, List.append_assoc, List.append_cancel_left_eq] at hpieces
      cases rest with
      | nil => simp [← hrest] at hlen
      | cons other rest =>
        obtain ⟨rfl, -⟩ := List.cons.inj hpieces
        rw [← hrest, Accumulator.takeAll_eq_error hbefore hfailure]
        rfl

/-- The texts are the payloads that arrive with the reply. It is only the bytes that count, and not
the pieces in which they come. -/
def Delivers (reply : HttpReply) (texts : List String) : Prop :=
  ∃ events rest, Split (withoutReturns reply.arriving.flatten) events rest ∧
    texts = events.filterMap payload? ++ if reply.isCut then [] else (payload? rest).toList

theorem Delivers.delivered_eq {reply : HttpReply} {texts : List String} (h : Delivers reply texts) :
    delivered reply.isCut {} reply.arriving = texts := by
  obtain ⟨events, rest, hsplit, rfl⟩ := h
  simp only [delivered,
    EventReader.pushAll_eq_of_split Stream.unbroken_nil (by simpa using hsplit), EventReader.finish]

/-! ## Reported errors -/

/-- The reply has a JSON body with the error in it. -/
def HasError (reply : HttpReply) (error : Json) : Prop :=
  ¬ reply.isCut ∧
    ∃ body, Json.parseBytes reply.arriving.flatten = .ok body ∧ body.get? "error" = some error

/-- The ways in which a reply reports an error. -/
inductive Reports (error : Json) (reply : HttpReply) : Prop where
  /-- In the body of a reply without success. -/
  | refused (hstatus : reply.status ≠ 200) (hbody : HasError reply error)
  /-- In a body that is no stream. -/
  | plain (hstatus : reply.status = 200) (hstream : ¬ reply.isEventStream)
      (hbody : HasError reply error)
  /-- In a stream, behind any chunks. What follows the error may be anything. -/
  | streamed (hstatus : reply.status = 200) (hstream : reply.isEventStream)
      {before after : List String} {text : String} {chunks : List Json}
      (htexts : Delivers reply (before ++ text :: after)) (hbefore : Carries before chunks)
      (htext : IsReport text error)

/-- The code of the error says that the input is too long. -/
def IsTooLong (error : Json) : Prop :=
  error.getString? "code" = some "context_length_exceeded" ∨
    error.getString? "code" = some "string_above_max_length"

instance : DecidablePred IsTooLong := fun error =>
  inferInstanceAs (Decidable (error.getString? "code" = some "context_length_exceeded" ∨
    error.getString? "code" = some "string_above_max_length"))

/-- The text of the error, or what stands for it. -/
def errorText (error : Json) : String := (error.getString? "message").getD "Unknown error"

theorem tooLongText?_eq_some_iff {error : Json} {text : String} :
    tooLongText? error = some text ↔ IsTooLong error ∧ text = errorText error := by
  rw [tooLongText?, IsTooLong, errorText]
  cases error.getString? "code" with
  | none => simp
  | some code =>
    by_cases hcode : code = "context_length_exceeded" ∨ code = "string_above_max_length"
    · simp only [hcode, Option.bind_eq_bind, Option.bind_some, Option.some.injEq, Bool.or_eq_true,
        decide_eq_true_eq, if_true, true_and]
      exact eq_comm
    · simp [hcode]

theorem readJson_of_hasError {reply : HttpReply} {error : Json} (h : HasError reply error)
    (url : String) : ∃ body, readJson url reply = .ok body ∧ body.get? "error" = some error := by
  obtain ⟨hcut, body, hparse, herror⟩ := h
  refine ⟨body, ?_, herror⟩
  rw [readJson, if_neg hcut, hparse]
  rfl

/-- The failure that a reported error brings about. -/
theorem readReply_of_reports {reply : HttpReply} {error : Json} (h : Reports error reply)
    (url : String) :
    ∃ failure, readReply url reply = .error failure ∧
      (reply.status = 200 → reply.isEventStream → failure = .streamError error) ∧
      ∀ text, failure = .inputTooLong text ↔
        ¬ (reply.status = 200 ∧ reply.isEventStream) ∧ tooLongText? error = some text := by
  cases h with
  | refused hstatus hbody =>
    obtain ⟨body, hread, herror⟩ := readJson_of_hasError hbody url
    refine ⟨_, by rw [readReply, if_neg hstatus], fun h => absurd h hstatus, ?_⟩
    intro text
    simp only [refusal, hread, Except.toOption, Option.getD_some, herror]
    cases tooLongText? error <;> simp [hstatus]
  | plain hstatus hstream hbody =>
    obtain ⟨body, hread, herror⟩ := readJson_of_hasError hbody url
    have hbody : readBody url reply = .ok body := by rw [readBody, if_neg hstream, hread]
    have hreply : readReply url reply = readResponse body := by
      rw [readReply, if_pos hstatus, hbody]
      rfl
    rw [hreply, readResponse, herror]
    refine ⟨_, rfl, fun _ h => absurd h hstream, ?_⟩
    intro text
    cases tooLongText? error <;> simp [hstream]
  | streamed hstatus hstream htexts hbefore htext =>
    have hread : readStream url reply.isCut {} {} reply.arriving = .error (.streamError error) := by
      refine readStream_eq_error url htexts.delivered_eq (by simp) (hbefore.takeAll_eq {})
        hbefore.not_isDone ?_
      rw [Payload.ofText_of_isReport htext]
      rfl
    have hbody : readBody url reply = .error (.streamError error) := by
      rw [readBody, if_pos hstream, hread]
      rfl
    refine ⟨.streamError error, ?_, fun _ _ => rfl, by simp [hstatus, hstream]⟩
    rw [readReply, if_pos hstatus, hbody]
    rfl

/-- **Reported errors.** However a gateway reports an error, the completion fails. If it does so in
a reply without success or in a body that is no stream, the failure says that the input was too long
exactly if the code of the error says so, and it carries the text of the error. In a stream it never
says so: there the failure carries the error as it is, whatever its code. -/
theorem provider_of_reports {σ : Type} {config : GatewayConfig} {transport : Transport σ}
    {request : CompletionRequest} {s s' : σ} {reply : HttpReply} {error : Json}
    (hexchanges : Exchanges config transport request s reply s') (hreports : Reports error reply) :
    ∃ failure, (provider config transport request).run s = (.error failure, s') ∧
      (reply.status = 200 → reply.isEventStream → failure = .streamError error) ∧
      ∀ text, failure = .inputTooLong text ↔
        ¬ (reply.status = 200 ∧ reply.isEventStream) ∧ IsTooLong error ∧
          text = errorText error := by
  obtain ⟨url, hprovider⟩ := hexchanges.provider_eq
  obtain ⟨failure, hread, hstream, htooLong⟩ := readReply_of_reports hreports url
  refine ⟨failure, by rw [hprovider, hread], hstream, ?_⟩
  intro text
  rw [htooLong text, tooLongText?_eq_some_iff]

/-- A gateway on this machine can be asked for whatever can be sent. -/
theorem exchanges_of_loopback {σ : Type} {transport : Transport σ} {request : CompletionRequest}
    {sent : Json} {s s' : σ} {reply : HttpReply}
    (hsent : payload (.forResource "http://[::1]" "w" "e" "r") request = .ok sent)
    (hreply : ∀ http, (transport http).run s = (.ok reply, s')) :
    Exchanges (.forResource "http://[::1]" "w" "e" "r") transport request s reply s' := by
  have hok : ∀ sent, (httpRequest (.forResource "http://[::1]" "w" "e" "r")
      sent).destination.isOk := fun sent =>
    show (httpRequest (.forResource "http://[::1]" "w" "e" "r") .null).destination.isOk by
      decide +kernel
  cases hdestination : (httpRequest (.forResource "http://[::1]" "w" "e" "r") sent).destination with
  | error failure => simpa [hdestination, Except.isOk, Except.toBool] using hok sent
  | ok url => exact ⟨sent, url, hsent, hdestination, hreply _⟩

theorem exchanges_loopback (reply : HttpReply) :
    Exchanges (.forResource "http://[::1]" "w" "e" "r") (fun _ => pure (.ok reply)) ⟨"", [], []⟩ ()
      reply () :=
  exchanges_of_loopback rfl fun _ => rfl

/-- An input that is too long, reported in a reply without success. -/
theorem provider_of_refused_input :
    let error := Json.object [
      ("code", .str "string_above_max_length"), ("message", .str "too long")]
    let reply : HttpReply := {
      status := 400
      pieces := [Utf8.encode (Json.object [("error", error)]).print] }
    let config : GatewayConfig := .forResource "http://[::1]" "w" "e" "r"
    let transport : Transport Unit := fun _ => pure (.ok reply)
    Exchanges config transport ⟨"", [], []⟩ () reply () ∧ Reports error reply ∧
      (provider config transport ⟨"", [], []⟩).run () =
        (.error (.inputTooLong "too long"), ()) := by
  intro error reply config transport
  have hreports : Reports error reply := by
    refine .refused (by decide) ⟨by decide, .object [("error", error)], ?_, ?_⟩ <;> decide +kernel
  obtain ⟨failure, hprovider, -, htooLong⟩ :=
    provider_of_reports (exchanges_loopback reply) hreports
  obtain rfl : failure = .inputTooLong "too long" :=
    (htooLong "too long").mpr ⟨by decide +kernel, by decide +kernel, by decide +kernel⟩
  exact ⟨exchanges_loopback reply, hreports, hprovider⟩

/-- The same error in a stream is not told from others: the failure does not say that the input was
too long, though the code of the error does. -/
theorem provider_ne_inputTooLong_of_stream :
    let error := Json.object [
      ("code", .str "context_length_exceeded"), ("message", .str "too long")]
    let reply : HttpReply := {
      contentType := some "text/event-stream"
      pieces := [Bytes.ofString "data: " ++ Utf8.encode (Json.object [("error", error)]).print ++
        [Bytes.lineFeed, Bytes.lineFeed]] }
    let config : GatewayConfig := .forResource "http://[::1]" "w" "e" "r"
    let transport : Transport Unit := fun _ => pure (.ok reply)
    IsTooLong error ∧ Exchanges config transport ⟨"", [], []⟩ () reply () ∧ Reports error reply ∧
      ∀ text, (provider config transport ⟨"", [], []⟩).run () ≠
        (.error (.inputTooLong text), ()) := by
  intro error reply config transport
  have hreports : Reports error reply := by
    obtain ⟨text, htext, hparse⟩ := Option.map_eq_some_iff.mp
      (show (payload? reply.pieces.flatten).map (fun text => Json.parse (Text.trim text)) =
        some (.ok (.object [("error", error)])) by decide +kernel)
    have hdelivers : Delivers reply ([] ++ text :: []) := by
      refine ⟨[reply.pieces.flatten], [], Stream.splitEvents_eq_iff.mp (by decide +kernel), ?_⟩
      rw [List.filterMap_cons_some htext]
      rfl
    exact .streamed rfl (by decide +kernel) hdelivers .nil ⟨_, hparse, by decide +kernel⟩
  obtain ⟨url, hprovider⟩ := (exchanges_loopback reply).provider_eq
  obtain ⟨failure, hread, hstream, -⟩ := readReply_of_reports hreports url
  refine ⟨by decide +kernel, exchanges_loopback reply, hreports, fun text htext => ?_⟩
  rw [hprovider, hread, hstream rfl (by decide +kernel)] at htext
  obtain ⟨hfailure, -⟩ := Prod.mk.inj htext
  simp at hfailure

end ToolAgent.Gateway
