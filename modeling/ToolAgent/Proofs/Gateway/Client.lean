import ToolAgent.Gateway.Client
import ToolAgent.Proofs.Agent.Runs
import ToolAgent.Proofs.Completion.Entries
import ToolAgent.Proofs.Completion.WireNames

/-!
# What a provider sends and returns

A payload holds the entries of the conversation behind that of the system prompt
(`get?_messages_of_payload`). What a provider returns has been read from the response in a reply
(`exists_readReply`, `exists_response_of_readReply`), and no call in it has an empty id
(`Message.id_ne_of_ofResponse`).
-/

namespace ToolAgent

/-! ## Messages of responses -/

namespace Gateway

variable {σ : Type} {config : GatewayConfig} {transport : Transport σ} {request : CompletionRequest}

/-! ## Payloads -/

theorem get?_messages_optionalMembers (config : GatewayConfig) (tools : List Json) :
    Keyed.get? "messages" (optionalMembers config tools).reverse = none := by
  by_cases h : tools = [] <;> simp [optionalMembers, h, extensionKey]

theorem get?_messages_of_payload {sent : Json} (h : payload config request = .ok sent) :
    sent.get? "messages" =
      some (.arr (systemEntries request.system ++ conversationEntries request.messages)) := by
  rw [payload] at h
  obtain ⟨tools, -, rfl⟩ := Json.map_eq_ok_iff.mp h
  simp [get?_messages_optionalMembers]

/-- There is a payload exactly if the wire names of the tools differ. -/
theorem exists_payload_iff :
    (∃ sent, payload config request = .ok sent) ↔
      (request.tools.map fun tool => wireName tool.name).Nodup := by
  rw [payload]
  constructor
  · rintro ⟨sent, h⟩
    obtain ⟨tools, htools, -⟩ := Json.map_eq_ok_iff.mp h
    exact (toolEntries_eq_ok_iff.mp htools).1
  · intro hnodup
    have htools : toolEntries [] request.tools = .ok (request.tools.map ToolSpec.toEntry) :=
      toolEntries_eq_ok_iff.mpr ⟨hnodup, by simp, rfl⟩
    exact ⟨_, congrArg (Except.map _) htools⟩

theorem readResponse_eq_ok_iff {response : Json} {message : Message} {usage : Usage} :
    readResponse response = .ok (message, usage) ↔
      response.get? "error" = none ∧ Message.ofResponse response = .ok message ∧
        Usage.ofResponse response = usage := by
  rw [readResponse]
  cases response.get? "error" with
  | some error => simp
  | none => cases Message.ofResponse response <;> simp [Except.map]

/-- A reply that is read well is a success with a response. -/
theorem exists_response_of_readReply {url : String} {reply : HttpReply} {answer : Message × Usage}
    (h : readReply url reply = .ok answer) :
    reply.status = 200 ∧
      ∃ response, readBody url reply = .ok response ∧ readResponse response = .ok answer := by
  rw [readReply] at h
  split at h
  · rename_i hstatus
    cases hbody : readBody url reply with
    | error failure => simp [hbody, Except.bind] at h
    | ok response => exact ⟨hstatus, response, rfl, by simpa [hbody, Except.bind] using h⟩
  · simp at h

/-- The request of the completion gets to the gateway, and this reply comes back. -/
def Exchanges (config : GatewayConfig) (transport : Transport σ) (request : CompletionRequest)
    (s : σ) (reply : HttpReply) (s' : σ) : Prop :=
  ∃ sent url, payload config request = .ok sent ∧ (httpRequest config sent).destination = .ok url ∧
    (transport (httpRequest config sent)).run s = (.ok reply, s')

/-- What the provider returns is what can be read from the reply. -/
theorem Exchanges.provider_eq {reply : HttpReply} {s s' : σ}
    (h : Exchanges config transport request s reply s') :
    ∃ url, (provider config transport request).run s = (readReply url reply, s') := by
  obtain ⟨sent, url, hsent, hdestination, hreply⟩ := h
  refine ⟨url.text, ?_⟩
  rw [provider]
  simp only [hsent, hdestination, run_bind_of_run_eq hreply]
  rfl

end Gateway

end ToolAgent
