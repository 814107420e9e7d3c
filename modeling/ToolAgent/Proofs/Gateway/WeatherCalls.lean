import ToolAgent.Proofs.Agent.Results
import ToolAgent.Proofs.Completion.Arguments
import ToolAgent.Proofs.Completion.Interleaving
import ToolAgent.Proofs.Gateway.EarlyEnds
import ToolAgent.Proofs.Gateway.Reports
import ToolAgent.Proofs.Json.Spellings
import ToolAgent.Tool.Weather

/-!
# Weather reports

The weather tool reports on a city only if the arguments of the call name one: their text is an
object whose last member `city` is a string (`Weather.NamesCity`). Nothing else that the arguments
may be read as looks like that. A call with other arguments is refused, and the run goes on
(`Gateway.isReport_iff_namesCity`).
-/

namespace ToolAgent

open Fragment (arguments)

/-! ## Arguments -/

namespace Weather

/-- The text is an object of JSON, nested no deeper than it may be, and of its members `city` the
last one is the string. -/
def NamesCity (text city : String) : Prop :=
  ∃ before after, Json.IsTextOf text (.obj (before ++ ("city", .str city) :: after)) ∧
    ∀ member ∈ after, member.1 ≠ "city"

/-- What the tool finds in the arguments is what their text names. -/
theorem getString?_interpretArguments_iff {text city : String} :
    (interpretArguments text).getString? "city" = some city ↔ NamesCity text city := by
  constructor
  · intro h
    by_cases hblank : Text.allBlank text = true
    · rw [interpretArguments_of_allBlank hblank] at h
      cases h
    cases hparse : Json.parse text with
    | error fault =>
      rw [interpretArguments_of_unreadable (Bool.eq_false_iff.mpr hblank) (by simp [hparse])] at h
      cases h
    | ok v =>
      rw [interpretArguments_of_parse hparse] at h
      obtain ⟨tree, htext, rfl⟩ := Json.parse_eq_ok_iff_spelled.1.mp hparse
      obtain ⟨found, hfound, hcity⟩ := Option.bind_eq_some_iff.mp h
      cases tree with
      | obj members =>
        rw [Json.get?_canonical_obj] at hfound
        obtain ⟨value, hvalue, rfl⟩ := Option.map_eq_some_iff.mp hfound
        have hstr : value.canonical = .str city := by
          cases hvalue' : value.canonical <;> simp [hvalue', Json.asString?] at hcity
          rw [hcity]
        obtain rfl := Json.canonical_eq_str_iff.mp hstr
        obtain ⟨before, after, rfl, hafter⟩ := Json.get?_reverse_eq_some_iff.mp hvalue
        exact ⟨before, after, htext, hafter⟩
      | null | bool | num | str | arr => cases hfound
  · rintro ⟨before, after, htext, hafter⟩
    have hparse := Json.parse_eq_ok_iff_spelled.1.mpr ⟨_, htext, rfl⟩
    have hfound : Keyed.get? "city" (before ++ ("city", Json.str city) :: after).reverse =
        some (.str city) :=
      Json.get?_reverse_eq_some_iff.mpr ⟨before, after, rfl, hafter⟩
    rw [interpretArguments_of_parse hparse, Json.getString?, Json.get?_canonical_obj, hfound]
    rfl

/-! ## Results -/

/-- The result says that it is sunny in the city. -/
def IsReport (city : String) (result : ToolResult) : Prop :=
  result.status = .success ∧ result.content = .str ("It's always sunny in " ++ city ++ "!")

/-- The result says that the arguments are invalid. -/
def IsRefusal (result : ToolResult) : Prop :=
  result.status = .error ∧
    result.content = .str "Error: Invalid parameters: city must be a string"

theorem report_inj {city city' : String} : report city = report city' ↔ city = city' :=
  (String.append_left_inj _).trans (String.append_right_inj _)

theorem answer_eq_ok_iff {args value : Json} :
    answer args = .ok value ↔
      ∃ city, args.getString? "city" = some city ∧ value = .str (report city) := by
  rw [answer]
  cases args.getString? "city" with
  | none => simp
  | some city => simp [eq_comm]

theorem answer_eq_error_iff {args : Json} {failure : ToolFailure} :
    answer args = .error failure ↔ args.getString? "city" = none ∧
      failure = .agent (.invalidParameters "city must be a string") := by
  rw [answer]
  cases args.getString? "city" with
  | none => simp [eq_comm]
  | some city => simp

variable {σ ε : Type} {agent : Agent σ ε}

/-- What comes of a call of the tool, if there is no other. -/
theorem isReport_iff_of_answers {call : ToolCall} {s s' : σ} {ran : List (RunEvent ε)}
    {result : ToolResult} (htools : agent.tools = [tool]) (hname : call.name = "get_weather")
    (h : agent.Answers call s ran result s') :
    (∀ city, IsReport city result ↔ call.args.getString? "city" = some city) ∧
    (call.args.getString? "city" = none → IsRefusal result) := by
  have hanswers : Agent.answersTo spec call.name := by
    rw [hname]
    decide
  have hrun {found : Tool σ} {outcome : Except ToolFailure Json}
      (hfirst : agent.IsFirst call.name found)
      (hoh : (found.run call.args).run s = (outcome, s')) : answer call.args = outcome := by
    rw [Agent.isFirst_iff, Agent.findTool?, htools] at hfirst
    obtain rfl := List.mem_singleton.mp (List.mem_of_find?_eq_some hfirst)
    exact (run_pure_eq_iff.mp hoh).1
  cases h with
  | unknown _ hnone =>
    refine absurd hanswers (hnone tool ?_)
    rw [htools]
    exact List.mem_singleton_self tool
  | returned _ htool hreturned =>
    obtain ⟨found, hfound, rfl⟩ := answer_eq_ok_iff.mp (hrun htool hreturned)
    rw [hfound]
    refine ⟨fun city => ⟨?_, ?_⟩, fun hnone => absurd hnone (Option.some_ne_none found)⟩
    · rintro ⟨-, hcontent⟩
      exact congrArg some (report_inj.mp (Json.str.inj hcontent))
    · rintro ⟨⟩
      exact ⟨rfl, rfl⟩
  | refused _ htool hrefused herror =>
    obtain ⟨hnone, rfl⟩ := answer_eq_error_iff.mp (hrun htool hrefused)
    cases herror
    rw [hnone]
    refine ⟨fun city => ⟨?_, ?_⟩, fun _ => ⟨rfl, rfl⟩⟩
    · rintro ⟨hstatus, -⟩
      cases hstatus
    · rintro ⟨⟩
  | broken _ htool hbroken htext =>
    obtain ⟨-, rfl⟩ := answer_eq_error_iff.mp (hrun htool hbroken)
    cases htext

end Weather

namespace Gateway

open RunEvent (items)

/-! ## Replies with calls -/

/-- The completion in the reply, streamed or in one piece, lists these calls. -/
structure ListsCalls (reply : HttpReply) (entries : List Json) : Prop where
  status : reply.status = 200
  exists_response : ∃ url response, readBody url reply = .ok response ∧
    response.get? "error" = none ∧ response.toolCalls? = some (.arr entries)

theorem ListsCalls.exists_message {reply : HttpReply} {entries : List Json}
    (h : ListsCalls reply entries) (url : String) :
    ∃ message usage, readReply url reply = .ok (message, usage) ∧
      message.toolCalls = entries.map ToolCall.ofEntry := by
  obtain ⟨url', response, hbody, herror, hcalls⟩ := h.exists_response
  obtain ⟨entry, hentry, hentries⟩ := Option.bind_eq_some_iff.mp hcalls
  have hmessage : Message.ofResponse response = .ok (.ofEntry entry) := by
    rw [Message.ofResponse, hentry]
  refine ⟨.ofEntry entry, .ofResponse response, ?_, ?_⟩
  · rw [readReply, if_pos h.status, readBody_eq_ok url hbody]
    exact readResponse_eq_ok_iff.mpr ⟨herror, hmessage, rfl⟩
  · rw [Message.ofEntry, hentries]
    rfl

/-! ## Runs -/

variable {σ : Type}

/-- **Reports only on what was asked for.** An agent whose only tool is the weather tool has gone
through some rounds, and may still ask its gateway, whose reply lists a call of that tool. The call
is answered in the tools step that follows: with a report on a city if that is the city which the
arguments name, and with an error in all other cases. Then the gateway is asked again, if the agent
may. -/
theorem isReport_iff_namesCity {config : GatewayConfig} {transport : Transport σ}
    {agent : Agent σ GatewayFailure} (hprovider : agent.provider = provider config transport)
    (htools : agent.tools = [Weather.tool]) {messages messages' : List Message} {s s' s'' : σ}
    {rounds : List Round} (hrounds : agent.Rounds messages s rounds messages' s')
    (hturns : rounds.length < agent.maxTurns.toNat) {reply : HttpReply}
    (hexchanges : Exchanges config transport (agent.request messages') s' reply s'')
    {entries : List Json} (hlists : ListsCalls reply entries) {i : Nat} {entry : Json}
    (hentry : entries[i]? = some entry) (hname : entry.functionName? = some "get_weather") :
    ∃ (shown : Message) (results : List ToolResult) (before ran after : List (RunEvent _)),
      ((agent.run messages).run s).1 = before ++ .asked (agent.request messages') ::
        .emitted (.model [shown]) :: (ran ++ .emitted (.tools (results.map .tool)) :: after) ∧
      items before = (rounds.flatMap Round.chunks).map .ok ∧
      (∃ call result, shown.toolCalls[i]? = some call ∧ results[i]? = some result ∧
        call.id = some result.callId ∧
        (∀ city, Weather.IsReport city result ↔ Weather.NamesCity (arguments entry) city) ∧
        ((∀ city, ¬ Weather.NamesCity (arguments entry) city) → Weather.IsRefusal result)) ∧
      (rounds.length + 1 < agent.maxTurns.toNat → ∃ rest,
        after = .asked (agent.request (messages' ++ shown :: results.map .tool)) :: rest) := by
  obtain ⟨before, rest, hevents, hruns, hitems⟩ :=
    (agent.runs_turns _ messages s).exists_append_of_rounds hrounds hturns.le
  obtain ⟨url, hasked⟩ := hexchanges.provider_eq
  obtain ⟨given, usage, hread, hgiven⟩ := hlists.exists_message url
  rw [hread, ← hprovider] at hasked
  have hi : i < entries.length := (List.getElem?_eq_some_iff.mp hentry).1
  have hcalls : given.toolCalls ≠ [] := by
    rw [hgiven]
    exact List.ne_nil_of_length_pos (by simpa using Nat.zero_lt_of_lt hi)
  obtain ⟨shown, results, s₂, ran, s₃, after, hids, rfl, hall, hrest⟩ :=
    hruns.exists_answersAll (by omega) hasked hcalls
  have hgivenCall : given.toolCalls[i]? = some (ToolCall.ofEntry entry) := by
    rw [hgiven, List.getElem?_map, hentry]
    rfl
  obtain ⟨call, hcall, hid⟩ := hids.exists_getsId hgivenCall
  obtain ⟨result, s₄, events, s₅, hresult, hanswers⟩ := hall.exists_answers hcall
  have hcallName : call.name = "get_weather" := hid.name.trans (congrArg (·.getD "") hname)
  obtain ⟨hreport, hrefusal⟩ := Weather.isReport_iff_of_answers htools hcallName hanswers
  have hargs (city : String) : call.args.getString? "city" = some city ↔
      Weather.NamesCity (arguments entry) city := by
    rw [hid.args]
    exact Weather.getString?_interpretArguments_iff
  refine ⟨shown, results, before, ran, after, hevents, hitems,
    ⟨call, result, hcall, hresult, hanswers.callId_eq.symm, ?_, ?_⟩, ?_⟩
  · exact fun city => (hreport city).trans (hargs city)
  · intro hnone
    refine hrefusal (Option.eq_none_iff_forall_ne_some.mpr fun city hcity => ?_)
    exact hnone city ((hargs city).mp hcity)
  · intro hmore
    exact hrest.exists_asked (by omega)

/-- Arguments with two cities, the first of which is no string, and arguments that are a string of
JSON with a city in it. -/
theorem isReport_iff_namesCity_of_two_calls :
    let naming := "\x7b\"city\": 5, \"city\" : \"Oslo\"\x7d"
    let quoting := "\"\x7b\\\"city\\\":\\\"Oslo\\\"\x7d\""
    let call (text : String) := Json.object [("function",
      .object [("name", .str "get_weather"), ("arguments", .str text)])]
    let response := Json.object [("choices", .arr [
      .object [("message", .object [("tool_calls", .arr [call naming, call quoting])])]])]
    let reply : HttpReply := { pieces := [Bytes.ofString response.toText] }
    let config : GatewayConfig := .forResource "http://[::1]" "w" "e" "r"
    let transport : Transport Nat := fun _ n => (.ok (if n = 0 then reply else {}), n + 1)
    let agent : Agent Nat GatewayFailure := {
      provider := provider config transport
      freshId := pure "id"
      tools := [Weather.tool]
      maxTurns := 2 }
    let events := ((agent.run [.user "hi"]).run 0).1
    (∃ (results : List ToolResult) (before after : List (RunEvent GatewayFailure)) (result : _),
      events = before ++ .emitted (.tools (results.map .tool)) :: after ∧
      results[0]? = some result ∧ Weather.IsReport "Oslo" result) ∧
    ∃ (results : List ToolResult) (before after : List (RunEvent GatewayFailure)) (result : _),
      events = before ++ .emitted (.tools (results.map .tool)) :: after ∧
      results[1]? = some result ∧ Weather.IsRefusal result := by
  intro naming quoting call response reply config transport agent events
  have hbody : Json.parseBytes reply.arriving.flatten = .ok response := by decide +kernel
  have hlists : ListsCalls reply [call naming, call quoting] := by
    have hstream : ¬ reply.isEventStream := by decide
    have hcut : ¬ reply.isCut := by decide
    refine ⟨rfl, "", response, ?_, rfl, rfl⟩
    rw [readBody, if_neg hstream, readJson, if_neg hcut, hbody]
    rfl
  obtain ⟨sent, hsent⟩ : ∃ sent, payload config (agent.request [.user "hi"]) = .ok sent := ⟨_, rfl⟩
  have hreply (http : HttpRequest) : (transport http).run 0 = (.ok reply, 1) := by
    show (Except.ok (if 0 = 0 then reply else {}), 0 + 1) = _
    rw [if_pos rfl]
  have hexchanges : Exchanges config transport (agent.request [.user "hi"]) 0 reply 1 :=
    exchanges_of_loopback hsent hreply
  have hrounds : agent.Rounds [.user "hi"] 0 [] [.user "hi"] 0 := .nil _ _
  have hturns : ([] : List Round).length < agent.maxTurns.toNat := Nat.zero_lt_two
  have hname (text : String) : (call text).functionName? = some "get_weather" := by
    simp [call, Json.functionName?, Json.getD, Json.getString?, Json.asString?]
  have hargs (text : String) : arguments (call text) = text := by
    simp [arguments, call, Json.getD, Json.getString?, Json.asString?]
  have hfirst : [call naming, call quoting][0]? = some (call naming) := rfl
  have hsecond : [call naming, call quoting][1]? = some (call quoting) := rfl
  constructor
  · have hcity : Weather.NamesCity naming "Oslo" :=
      Weather.getString?_interpretArguments_iff.mp (by decide +kernel)
    obtain ⟨shown, results, before, ran, after, hevents, -, hresult, -⟩ :=
      isReport_iff_namesCity rfl rfl hrounds hturns hexchanges hlists hfirst (hname naming)
    obtain ⟨-, result, -, hresult, -, hreport, -⟩ := hresult
    rw [hargs] at hreport
    refine ⟨results, before ++ .asked (agent.request [.user "hi"]) ::
      .emitted (.model [shown]) :: ran, after, result, ?_, hresult, (hreport "Oslo").mpr hcity⟩
    rw [List.append_assoc]
    exact hevents
  · have hnone : (interpretArguments quoting).getString? "city" = none := by decide +kernel
    obtain ⟨shown, results, before, ran, after, hevents, -, hresult, -⟩ :=
      isReport_iff_namesCity rfl rfl hrounds hturns hexchanges hlists hsecond (hname quoting)
    obtain ⟨-, result, -, hresult, -, -, hrefusal⟩ := hresult
    rw [hargs] at hrefusal
    refine ⟨results, before ++ .asked (agent.request [.user "hi"]) ::
      .emitted (.model [shown]) :: ran, after, result, ?_, hresult, hrefusal fun city hcity => ?_⟩
    · rw [List.append_assoc]
      exact hevents
    · rw [Weather.getString?_interpretArguments_iff.mpr hcity] at hnone
      cases hnone

end Gateway

end ToolAgent
