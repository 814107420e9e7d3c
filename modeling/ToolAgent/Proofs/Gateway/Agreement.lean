import ToolAgent.Proofs.Completion.Streaming
import ToolAgent.Proofs.Gateway.Client
import ToolAgent.Proofs.Gateway.EndOfStream
import ToolAgent.Proofs.Stream.Framing

/-!
# Streamed replies and replies in one piece

A reply may stream a completion (`Streams`) or give it in one piece (`Gives`). It makes no
difference to the caller which of the two a gateway does, nor how the chunks divide the completion
between them, nor how the bytes of the stream are cut (`provider_eq_of_streams`).
-/

namespace ToolAgent.Gateway

open Payload (IsDone)
open ToolAgent.Stream (Event IsLead LineEnd Split fedLines isEvent_fedLines streamBytes
  withoutReturns)
open ToolAgent.Stream.EventReader (decode)

/-! ## Streams that end with the marker -/

/-- Written events of which the last one is the first to hold the marker. -/
theorem endsDone_streamBytes {events : List Event} {last : Event} {text : String}
    (hlast : last.payload? = some text) (hdone : IsDone text)
    (hfirst : ∀ text ∈ events.filterMap Event.payload?, ¬ IsDone text) :
    EndsDone (streamBytes (events ++ [last])) := by
  obtain ⟨found, rest, hsplit, hfound, hrest⟩ :=
    Stream.exists_split_streamBytes (.inl rfl) events
  have hlines : last.lines.map Prod.fst ≠ [] := by
    intro hnil
    rw [Event.payload?_of_lines_nil (List.map_eq_nil_iff.mp hnil)] at hlast
    simp at hlast
  have hbytes : streamBytes (events ++ [last]) = streamBytes events ++ last.bytes := by
    rw [Stream.streamBytes_append, Stream.streamBytes_singleton]
  refine ⟨?_, found, rest ++ fedLines (last.lines.map Prod.fst) ++ [Bytes.lineFeed], text, ?_, ?_,
    hdone, ?_⟩
  · rw [hbytes, List.getLast?_append, last.getLast?_bytes, Option.some_or]
  · rw [hbytes, Stream.withoutReturns_append, Stream.withoutReturns_event]
    refine Split.append hsplit ?_
    have hnil : Split [] [] [] := .of_unbroken Stream.unbroken_nil
    simpa using Split.cons (isEvent_fedLines hrest hlines) hnil
  · rw [Stream.payload?_event hrest, hlast]
  · rwa [hfound]

/-! ## The two kinds of replies -/

/-- The events of a body that streams a completion: chunks, events without data and blank ones
between them, and the marker in the end. -/
structure IsRendering (completion : Completion) (events : List Event) (last : Event) : Prop where
  exists_chunks : ∃ indexed chunks, completion.IsStreamedBy indexed chunks ∧
    Carries (events.filterMap Event.payload?) chunks
  exists_done : ∃ text, last.payload? = some text ∧ IsDone text

/-- The reply streams the completion. -/
structure Streams (reply : HttpReply) (completion : Completion) : Prop where
  status : reply.status = 200
  isEventStream : reply.isEventStream
  exists_events : ∃ events last, IsRendering completion events last ∧
    reply.pieces.flatten = streamBytes (events ++ [last])

/-- The reply gives the completion in one piece. -/
structure Gives (reply : HttpReply) (completion : Completion) : Prop where
  status : reply.status = 200
  not_isEventStream : ¬ reply.isEventStream
  not_isCut : ¬ reply.isCut
  body : Json.parseBytes reply.pieces.flatten = .ok completion.toJson

theorem flatten_arriving {reply : HttpReply} (h : reply.status = 200) :
    reply.arriving.flatten = reply.pieces.flatten := by
  rw [HttpReply.arriving, if_neg (by simp [h])]
  exact List.flatten_filter_not_isEmpty

variable {completion : Completion}

theorem readResponse_toJson (completion : Completion) :
    readResponse completion.toJson = .ok (completion.message, .ofResponse completion.toJson) :=
  readResponse_eq_ok_iff.mpr ⟨completion.get?_error_toJson, completion.ofResponse_toJson, rfl⟩

theorem readResponse_toResponse (acc : Accumulator) :
    readResponse acc.toResponse = .ok (acc.completion.message, .ofResponse acc.toResponse) :=
  readResponse_eq_ok_iff.mpr ⟨acc.get?_error_toResponse, acc.ofResponse_toResponse, rfl⟩

/-- What is read from a reply in one piece. -/
theorem Gives.readReply_eq {reply : HttpReply} (h : Gives reply completion) (url : String) :
    readReply url reply = .ok (completion.message, .ofResponse completion.toJson) := by
  have hbody : readBody url reply = .ok completion.toJson := by
    rw [readBody, if_neg h.not_isEventStream, readJson, if_neg h.not_isCut,
      flatten_arriving h.status, h.body]
    rfl
  rw [readReply, if_pos h.status, hbody]
  exact readResponse_toJson completion

/-- What is read from a streamed reply is the same. -/
theorem Streams.readReply_eq {reply : HttpReply} (h : Streams reply completion) (url : String) :
    readReply url reply = .ok (completion.message, .ofResponse completion.toJson) := by
  obtain ⟨events, last, hrendering, hbytes⟩ := h.exists_events
  obtain ⟨indexed, chunks, hstreamed, hcarries⟩ := hrendering.exists_chunks
  obtain ⟨text, hlast, hdone⟩ := hrendering.exists_done
  have hends : EndsDone (streamBytes (events ++ [last])) :=
    endsDone_streamBytes hlast hdone hcarries.not_isDone
  have hdecode : decode [streamBytes (events ++ [last])] =
      events.filterMap Event.payload? ++ [text] := by
    rw [Stream.decode_streamBytes List.flatten_singleton, List.filterMap_append,
      List.filterMap_cons_some hlast, List.filterMap_nil]
  have htake : ({} : Accumulator).takeAll (decode [streamBytes (events ++ [last])]) =
      .ok { chunks.foldl Accumulator.addChunk {} with isDone := true } := by
    rw [hdecode, Accumulator.takeAll_append, hcarries.takeAll_eq]
    simp only [Except.bind, Accumulator.takeAll_cons, Payload.ofText_of_isDone hdone]
    rfl
  have hbody : readBody url reply =
      .ok (chunks.foldl Accumulator.addChunk {}).toResponse := by
    rw [readBody_of_flatten_eq hends h.isEventStream ((flatten_arriving h.status).trans hbytes),
      htake]
    rfl
  rw [readReply, if_pos h.status, hbody]
  simp only [Except.bind, readResponse_toResponse, hstreamed.message_eq, hstreamed.ofResponse_eq]

/-- **Streamed or not, a completion is the same.** A provider that is sent the completion in chunks
returns what it returns when it is sent the completion in one piece; once the request can be sent,
that is its message and its usage. -/
theorem provider_eq_of_streams {σ : Type} {streamed plain : HttpReply}
    (hstreamed : Streams streamed completion) (hplain : Gives plain completion)
    (config : GatewayConfig) :
    (∀ url, readReply url streamed =
      .ok (completion.message, .ofResponse completion.toJson)) ∧
    provider (σ := σ) config (fun _ => pure (.ok streamed)) =
      provider config fun _ => pure (.ok plain) := by
  refine ⟨hstreamed.readReply_eq, ?_⟩
  have hreply (url : String) : readReply url streamed = readReply url plain := by
    rw [hstreamed.readReply_eq, hplain.readReply_eq]
  funext request
  rw [provider, provider]
  cases payload config request with
  | error failure => rfl
  | ok payload =>
    cases hdestination : (httpRequest config payload).destination with
    | error failure => simp only [hdestination]
    | ok url => simp only [hdestination, pure_bind, hreply]

/-- Two calls whose fragments are interleaved, a usage and a comment, sent byte by byte. -/
theorem provider_eq_of_interleaved_calls :
    let usage := Json.object [("total_tokens", .ofUInt32 7)]
    let completion : Completion := ⟨"ü", [⟨"a", "", ""⟩, ⟨"b", "debug", ""⟩], some usage⟩
    let fragment (index : UInt32) (members : List (String × Json)) :=
      Json.object (("index", .ofUInt32 index) :: members)
    let choices (delta : List (String × Json)) :=
      ("choices", Json.arr [.object [("delta", .object delta)]])
    let first := Json.object [choices [
      ("content", .str "ü"),
      ("tool_calls", .arr [fragment 4 [("function", .object [("name", .str "debug")])]])]]
    let second := Json.object [
      choices [("tool_calls", .arr [fragment 2 [("id", .str "a")], fragment 4 [("id", .str "b")]])],
      ("usage", usage)]
    ∃ (events : List Event) (last : Event),
      events.map Event.payload? = [none, some first.toText, some second.toText] ∧
      last.payload? = some "[DONE]" ∧
      let streamed : HttpReply := {
        contentType := some "text/event-stream"
        pieces := (streamBytes (events ++ [last])).map ([·]) }
      let plain : HttpReply := { pieces := [Bytes.ofString completion.toJson.toText] }
      Streams streamed completion ∧ Gives plain completion ∧
        ∀ config : GatewayConfig,
          (∀ url, readReply url streamed =
            .ok (completion.message, .ofResponse completion.toJson)) ∧
          provider (σ := Unit) config (fun _ => pure (.ok streamed)) =
            provider config fun _ => pure (.ok plain) := by
  intro usage completion fragment choices first second
  have hfirst : first.toText.toList = first.print := String.toList_ofList
  have hsecond : second.toText.toList = second.print := String.toList_ofList
  have hplain : completion.toJson.toText.toList = completion.toJson.print := String.toList_ofList
  have hparse (chunk : Json) : Json.parse (Text.trim chunk.toText) =
      Json.parseBytes (Utf8.encode (Text.trimChars chunk.print)) := by
    simp only [Json.parse, Bytes.ofString, Text.trim, Json.toText, String.toList_ofList]
  obtain ⟨events, last, hevents, hlast⟩ : ∃ (events : List Event) (last : Event),
      events.map Event.payload? = [none, some first.toText, some second.toText] ∧
      last.payload? = some "[DONE]" :=
    ⟨[⟨[(.other (Bytes.ofString ": ping") (by decide) (by decide) (by decide), .lf)], .lf⟩,
      ⟨[(.data true first.toText (by rw [hfirst]; decide +kernel) (by decide), .lf)], .lf⟩,
      ⟨[(.data false second.toText (by rw [hsecond]; decide +kernel)
        (by rw [hsecond]; decide +kernel), .crlf)], .crlf⟩],
      ⟨[(.data true "[DONE]" (by decide) (by decide), .lf)], .lf⟩, rfl, rfl⟩
  refine ⟨events, last, hevents, hlast, ?_⟩
  intro streamed plain
  have hpayloads : events.filterMap Event.payload? = [first.toText, second.toText] := by
    have hmap : (events.map Event.payload?).filterMap id = events.filterMap Event.payload? :=
      List.filterMap_map
    rw [← hmap, hevents]
    rfl
  have hstreamed : Streams streamed completion := by
    refine ⟨rfl, rfl, events, last, ⟨⟨[(2, ⟨"a", "", ""⟩), (4, ⟨"b", "debug", ""⟩)],
      [first, second], ?_, ?_⟩, ⟨"[DONE]", hlast, by decide +kernel⟩⟩, ?_⟩
    · refine ⟨by decide +kernel, rfl, by decide, by decide +kernel, ?_, by decide +kernel⟩
      simp only [List.forall_mem_cons]
      exact ⟨⟨by decide +kernel, by decide +kernel, by decide +kernel, by decide +kernel⟩,
        ⟨by decide +kernel, by decide +kernel, by decide +kernel, by decide +kernel⟩, by simp⟩
    · rw [hpayloads]
      exact .chunk ⟨by rw [hparse]; decide +kernel, by decide +kernel⟩
        (.chunk ⟨by rw [hparse]; decide +kernel, by decide +kernel⟩ .nil)
    · rw [← List.flatMap_def]
      exact List.flatMap_singleton' _
  have hgives : Gives plain completion := by
    refine ⟨rfl, by decide, by decide, ?_⟩
    rw [List.flatten_singleton, Bytes.ofString, hplain]
    decide +kernel
  exact ⟨hstreamed, hgives, provider_eq_of_streams hstreamed hgives⟩

end ToolAgent.Gateway
