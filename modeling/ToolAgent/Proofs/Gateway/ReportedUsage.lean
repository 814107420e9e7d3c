import ToolAgent.Proofs.Completion.TokenCounts
import ToolAgent.Proofs.Gateway.EarlyEnds

/-!
# The usage that a reply reports

In a stream it is the last in the chunks that are taken, and otherwise it is the one in the body; a
null does not count (`reportedUsage?`). A provider reads its counts from there. They are those of
the reply as far as they fit in 32 bits (`provider_counts`); of larger ones some are reported as
other numbers (`not_isFaithful_of_large_input`).
-/

namespace ToolAgent

/-! ## Accumulated usages -/

/-- The chunk that the payload is, if it is one. -/
def Payload.chunk? : Payload → Option Json
  | chunk value => some value
  | _ => none

/-- The usages in the chunks among the payloads. -/
def usagesIn (texts : List String) : List Json :=
  texts.filterMap fun text => (Payload.ofText text).chunk?.bind Delta.usage?

theorem Accumulator.usage_take (acc : Accumulator) (payload : Payload) :
    (acc.take payload).usage = (payload.chunk?.bind Delta.usage?).or acc.usage := by
  cases payload with
  | chunk value => exact acc.usage_addChunk value
  | _ => rfl

theorem Accumulator.usage_of_takeAll {acc acc' : Accumulator} {texts : List String}
    (h : acc.takeAll texts = .ok acc') : acc'.usage = (usagesIn texts).getLast?.or acc.usage := by
  induction texts generalizing acc with
  | nil => exact congrArg Accumulator.usage (Except.ok.inj h).symm
  | cons text texts ih =>
    rw [takeAll_cons] at h
    split at h
    · cases h
    · rw [ih h, usage_take, usagesIn, usagesIn, List.filterMap_cons]
      cases (Payload.ofText text).chunk?.bind Delta.usage? with
      | none => rfl
      | some usage =>
        rw [List.getLast?_cons, Option.some_or]
        cases List.getLast? _ <;> rfl

namespace Gateway

open Usage (FitsInt32 IsOverlarge given?)

/-! ## Reported usages -/

/-- The usage that the reply reports. -/
def reportedUsage? (reply : HttpReply) : Option Json :=
  if reply.isEventStream then (usagesIn (taken {} reply.arriving)).getLast?
  else (Json.parseBytes reply.arriving.flatten).toOption.bind Delta.usage?

theorem usage_of_readStream {url : String} {reply : HttpReply} {acc : Accumulator}
    (h : readStream url reply.isCut {} {} reply.arriving = .ok acc) :
    acc.usage = (usagesIn (taken {} reply.arriving)).getLast? := by
  have hread : readStream url false {} {} reply.arriving = .ok acc :=
    readStream_eq_ok url (by simp) h
  rw [readStream_eq_takeAll url (by simp)] at hread
  rw [Accumulator.usage_of_takeAll hread, Option.or_none]

theorem filter_usagesIn (texts : List String) :
    (usagesIn texts).getLast?.filter (!·.isNull) = (usagesIn texts).getLast? := by
  cases hlast : (usagesIn texts).getLast? with
  | none => rfl
  | some usage =>
    obtain ⟨text, -, htext⟩ := List.mem_filterMap.mp (List.mem_of_getLast? hlast)
    obtain ⟨chunk, -, hchunk⟩ := Option.bind_eq_some_iff.mp htext
    exact Option.filter_some_pos (Option.filter_eq_some_iff.mp hchunk).2

/-- The response that is read from a reply has the usage that the reply reports. -/
theorem usage?_of_readBody {url : String} {reply : HttpReply} {response : Json}
    (h : readBody url reply = .ok response) : Delta.usage? response = reportedUsage? reply := by
  rw [readBody] at h
  rw [reportedUsage?]
  split at h
  · rename_i hstream
    obtain ⟨acc, hread, rfl⟩ := Json.map_eq_ok_iff.mp h
    rw [if_pos hstream, Delta.usage?, acc.get?_usage_toResponse, usage_of_readStream hread,
      filter_usagesIn]
  · rename_i hplain
    rw [if_neg hplain]
    rw [readJson] at h
    split at h
    · cases h
    · cases hparse : Json.parseBytes reply.arriving.flatten with
      | error fault =>
        rw [hparse] at h
        cases h
      | ok value =>
        rw [hparse] at h
        obtain rfl : value = response := Except.ok.inj h
        rfl

/-- **The counts of a reply.** A completion that succeeds has no counts if the reply reports no
usage. Otherwise each count is the integer that the reply gives for it, or is left out, if and only
if that integer fits in 32 bits, or else is beyond the signed integers of 64 bits and not the total
of two counts that are there. One that fits in 32 bits is not left out, and a total that is not
given is the sum of the other two counts. -/
theorem provider_counts {σ : Type} {config : GatewayConfig} {transport : Transport σ}
    {request : CompletionRequest} {s s' : σ} {reply : HttpReply} {message : Message} {usage : Usage}
    (hexchanges : Exchanges config transport request s reply s')
    (hrun : (provider config transport request).run s = (.ok (message, usage), s')) :
    (reportedUsage? reply = none → usage = {}) ∧
    ∀ reported, reportedUsage? reply = some reported →
      (∀ part, usage.IsFaithful reported part ↔
        ∀ n, given? reported part = some n → FitsInt32 n ∨ IsOverlarge n ∧
          (part = .total → usage.input = none ∨ usage.output = none)) ∧
      (∀ part n, given? reported part = some n → FitsInt32 n →
        ∃ c, usage.count? part = some c ∧ c.toInt = n) ∧
      ∀ input output, given? reported .total = none → usage.input = some input →
        usage.output = some output → FitsInt32 (input.toInt + output.toInt) →
        ∃ total, usage.total = some total ∧ total.toInt = input.toInt + output.toInt := by
  obtain ⟨url, hprovider⟩ := hexchanges.provider_eq
  obtain ⟨hread, -⟩ := Prod.mk.inj (hprovider.symm.trans hrun)
  obtain ⟨-, response, hbody, hresponse⟩ := exists_response_of_readReply hread
  obtain ⟨-, -, rfl⟩ := readResponse_eq_ok_iff.mp hresponse
  rw [← usage?_of_readBody hbody]
  refine ⟨Usage.ofResponse_of_usage?_none, fun reported hreported => ⟨?_, ?_, ?_⟩⟩
  · exact fun part => Usage.isFaithful_iff hreported
  · exact fun part n => Usage.exists_count_of_given hreported
  · exact fun _ _ hgiven => Usage.exists_total_of_given_none hreported hgiven

/-- The largest count of 32 bits and a negative one, in a stream that reports another usage before
and null after them. -/
theorem provider_counts_of_stream :
    let reported := Json.object [
      ("prompt_tokens", .ofInt32 2147483647), ("completion_tokens", .ofInt32 (-5))]
    let reply : HttpReply := {
      contentType := some "text/event-stream"
      pieces := [
        Bytes.ofString "data: \x7b\"usage\":\x7b\"prompt_tokens\":7\x7d\x7d\n\nda",
        Bytes.ofString "ta:\x7b\"usage\":" ++ Utf8.encode reported.print ++
          Bytes.ofString "\x7d\n\ndata: \x7b\"usage\":null\x7d\n\n"] }
    let config : GatewayConfig := .forResource "http://[::1]" "w" "e" "r"
    let transport : Transport Unit := fun _ => pure (.ok reply)
    reportedUsage? reply = some reported ∧ Exchanges config transport ⟨"", [], []⟩ () reply () ∧
      ∃ message usage,
        (provider config transport ⟨"", [], []⟩).run () = (.ok (message, usage), ()) ∧
        (∀ part, usage.IsFaithful reported part) ∧
        ∃ total, usage.total = some total ∧ total.toInt = 2147483642 := by
  intro reported reply config transport
  have hreported : reportedUsage? reply = some reported := by decide +kernel
  have hharmless : ∀ text ∈ taken {} reply.arriving, Payload.IsHarmless text := by decide +kernel
  obtain ⟨url, hprovider⟩ := (exchanges_loopback reply).provider_eq
  obtain ⟨acc, hacc⟩ : ∃ acc, readStream url reply.isCut {} {} reply.arriving = .ok acc := by
    have hcut : reply.isCut = false := rfl
    rw [hcut, readStream_eq_takeAll url (by simp), Accumulator.exists_takeAll_iff]
    exact hharmless
  obtain ⟨⟨message, usage⟩, hread⟩ :=
    (exists_readReply_iff url rfl (by decide +kernel)).mpr ⟨acc, hacc⟩
  rw [hread] at hprovider
  obtain ⟨-, hcounts⟩ := provider_counts (exchanges_loopback reply) hprovider
  obtain ⟨hfaithful, hgiven, hsum⟩ := hcounts reported hreported
  have hin : given? reported .input = some 2147483647 := by decide +kernel
  have hout : given? reported .output = some (-5) := by decide +kernel
  have hnone : given? reported .total = none := by decide +kernel
  obtain ⟨input, hinput, hinputEq⟩ := hgiven .input _ hin (by decide)
  obtain ⟨output, houtput, houtputEq⟩ := hgiven .output _ hout (by decide)
  obtain ⟨total, htotal, htotalEq⟩ := hsum input output hnone hinput houtput
    (by rw [hinputEq, houtputEq]; decide)
  refine ⟨hreported, exchanges_loopback reply, message, usage, hprovider, ?_, total, htotal, ?_⟩
  · intro part
    refine (hfaithful part).mpr fun n hn => .inl ?_
    cases part with
    | input =>
      obtain rfl := Option.some.inj (hin.symm.trans hn)
      decide
    | output =>
      obtain rfl := Option.some.inj (hout.symm.trans hn)
      decide
    | total =>
      rw [hnone] at hn
      cases hn
  · rw [htotalEq, hinputEq, houtputEq]
    decide

/-- Of a count of 2³² + 1 only the lowest bit is left. -/
theorem not_isFaithful_of_large_input :
    let reported := Json.object [("prompt_tokens", .num (.int 4294967297 (by decide)))]
    let completion : Completion := ⟨"ok", [], some reported⟩
    let reply : HttpReply := { pieces := [Utf8.encode completion.toJson.print] }
    let config : GatewayConfig := .forResource "http://[::1]" "w" "e" "r"
    let transport : Transport Unit := fun _ => pure (.ok reply)
    reportedUsage? reply = some reported ∧ Exchanges config transport ⟨"", [], []⟩ () reply () ∧
      ∃ message usage,
        (provider config transport ⟨"", [], []⟩).run () = (.ok (message, usage), ()) ∧
        given? reported .input = some 4294967297 ∧ usage.input = some 1 ∧
        ¬ usage.IsFaithful reported .input := by
  intro reported completion reply config transport
  have hgives : Gives reply completion := ⟨rfl, by decide, by decide, by decide +kernel⟩
  obtain ⟨url, hprovider⟩ := (exchanges_loopback reply).provider_eq
  rw [hgives.readReply_eq] at hprovider
  have hreported : reportedUsage? reply = some reported := by decide +kernel
  have hgiven : given? reported .input = some 4294967297 := by decide +kernel
  have hinput : (Usage.ofResponse completion.toJson).input = some 1 := by decide +kernel
  refine ⟨hreported, exchanges_loopback reply, _, _, hprovider, hgiven, hinput, ?_⟩
  intro hfaithful
  exact absurd (hfaithful _ hgiven 1 hinput) (by decide)

end Gateway

end ToolAgent
