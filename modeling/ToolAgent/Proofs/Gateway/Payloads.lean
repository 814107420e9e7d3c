import ToolAgent.Proofs.Completion.WireNames
import ToolAgent.Proofs.Gateway.Client

/-!
# Well-formed payloads

What a payload says of the conversation and of the tools. Every message of a known kind has one
entry, in the form of its kind (`Message.IsSentAs`), and every tool is declared under a wire name
that no other tool has (`ToolSpec.IsDeclaredAs`). There is a payload unless two of the tools have
the same wire name (`Gateway.payload_isWellFormed`).
-/

namespace ToolAgent

/-- What a function of that name may be called on the wire: letters, digits, `_` and `-` only, as
many as the name has characters. -/
structure IsNameOnWire (sent name : String) : Prop where
  isWireName : IsWireName sent
  length_eq : sent.length = name.length

theorem isNameOnWire_wireName (name : String) : IsNameOnWire (wireName name) name :=
  ⟨isWireName_wireName name, length_wireName name⟩

/-! ## Entries -/

/-- The entry names a function on the wire, and has its arguments as a text. -/
structure ToolCall.IsSentAs (call : ToolCall) (entry : Json) : Prop where
  name : ∃ sent, entry.functionName? = some sent ∧ IsNameOnWire sent call.name
  arguments : (entry.getD "function").getString? "arguments" = some call.args.asContent

theorem ToolCall.isSentAs_toEntry (call : ToolCall) : call.IsSentAs call.toEntry where
  name := ⟨_, call.functionName?_toEntry, isNameOnWire_wireName call.name⟩
  arguments := by simp [toEntry, Json.getD, Json.getString?, Json.asString?]

/-- The entry of an assistant is never without content and calls: it has a text, or calls, or says
that the text is empty. -/
def SaysSomething (entry : Json) : Prop :=
  (∃ text, entry.getString? "content" = some text ∧ text ≠ "") ∨
  (∃ call calls, entry.get? "tool_calls" = some (.arr (call :: calls))) ∨
  entry.getString? "content" = some ""

/-- The form of an entry, by the kind of the message. A message of no known kind has none. -/
inductive Message.IsSentAs : Message → Json → Prop where
  | user {content : String} {entry : Json} (hrole : entry.getString? "role" = some "user")
      (hcontent : entry.getString? "content" = some content) : IsSentAs (.user content) entry
  | system {content : String} {entry : Json} (hrole : entry.getString? "role" = some "system")
      (hcontent : entry.getString? "content" = some content) : IsSentAs (.system content) entry
  | assistant {content : String} {calls : List ToolCall} {entry : Json} {sent : List Json}
      (hrole : entry.getString? "role" = some "assistant") (hsome : SaysSomething entry)
      (hcontent : (entry.getString? "content").getD "" = content)
      (hsent : ((entry.get? "tool_calls").bind Json.asArray?).getD [] = sent)
      (hcalls : List.Forall₂ ToolCall.IsSentAs calls sent) : IsSentAs (.assistant content calls) entry
  | tool {result : ToolResult} {entry : Json} (hrole : entry.getString? "role" = some "tool")
      (hid : entry.getString? "tool_call_id" = some result.callId)
      (hcontent : entry.getString? "content" = some result.content.asContent) :
      IsSentAs (.tool result) entry
  | function {name sent : String} {content entry : Json}
      (hrole : entry.getString? "role" = some "function")
      (hsent : entry.getString? "name" = some sent) (hname : IsNameOnWire sent name)
      (hcontent : entry.getString? "content" = some content.asContent) :
      IsSentAs (.function name content) entry

namespace Message

def isUnknown : Message → Bool
  | unknown _ => true
  | _ => false

theorem isSentAs_assistant {content : String} {calls : List ToolCall} {entry : Json}
    (h : toEntry? (.assistant content calls) = some entry) :
    (Message.assistant content calls).IsSentAs entry := by
  have hcalls : List.Forall₂ ToolCall.IsSentAs calls (calls.map ToolCall.toEntry) :=
    List.forall₂_map_right_iff.mpr (List.forall₂_same.mpr fun call _ => call.isSentAs_toEntry)
  obtain rfl := Option.some.inj h
  refine .assistant ?role ?some ?content ?sent hcalls
  case some =>
    cases calls with
    | nil =>
      by_cases hcontent : content = ""
      · exact .inr (.inr (by simp [hcontent, Json.getString?, Json.asString?]))
      · exact .inl ⟨content, by simp [Json.getString?, Json.asString?], hcontent⟩
    | cons call calls =>
      refine .inr (.inl ⟨call.toEntry, calls.map ToolCall.toEntry, ?_⟩)
      by_cases hcontent : content = "" <;> simp [hcontent]
  all_goals
    by_cases hcontent : content = "" <;> by_cases hnil : calls = [] <;>
      simp [hcontent, hnil, Json.getString?, Json.asString?, Json.asArray?]

theorem isSentAs_of_toEntry? {message : Message} {entry : Json} (h : message.toEntry? = some entry) :
    message.IsSentAs entry := by
  cases message with
  | unknown raw => cases h
  | assistant content calls => exact isSentAs_assistant h
  | user content =>
    obtain rfl := Option.some.inj h
    exact .user rfl rfl
  | system content =>
    obtain rfl := Option.some.inj h
    exact .system rfl rfl
  | tool result =>
    obtain rfl := Option.some.inj h
    exact .tool rfl rfl rfl
  | function name content =>
    obtain rfl := Option.some.inj h
    exact .function rfl rfl (isNameOnWire_wireName name) rfl

end Message

/-- Every message of a known kind has one entry, in the order of the conversation. -/
theorem forall₂_conversationEntries (messages : List Message) :
    List.Forall₂ Message.IsSentAs (messages.filter (!·.isUnknown))
      (conversationEntries messages) := by
  induction messages with
  | nil => exact .nil
  | cons message messages ih =>
    rw [conversationEntries_cons]
    cases hentry : message.toEntry? with
    | some entry =>
      have hsent := Message.isSentAs_of_toEntry? hentry
      have hknown : message.isUnknown = false := by
        cases hsent <;> rfl
      rw [List.filter_cons_of_pos (by simp [hknown])]
      exact .cons hsent ih
    | none =>
      have hunknown : message.isUnknown = true := by
        cases message with
        | unknown raw => rfl
        | user | assistant | system | tool | function => cases hentry
      rw [List.filter_cons_of_neg (by simp [hunknown])]
      exact ih

/-- The entry declares the tool, under a name on the wire. -/
structure ToolSpec.IsDeclaredAs (tool : ToolSpec) (entry : Json) : Prop where
  name : ∃ sent, entry.functionName? = some sent ∧ IsNameOnWire sent tool.name
  description : (entry.getD "function").getString? "description" = some tool.description
  parameters : (entry.getD "function").get? "parameters" = some tool.parameters

theorem ToolSpec.isDeclaredAs_toEntry (tool : ToolSpec) : tool.IsDeclaredAs tool.toEntry where
  name := ⟨_, tool.functionName?_toEntry, isNameOnWire_wireName tool.name⟩
  description := by simp [toEntry, Json.getD, Json.getString?, Json.asString?]
  parameters := by simp [toEntry, Json.getD]

/-- Two of the tools, at different places, have the same wire name. -/
def HasNameTwice (tools : List ToolSpec) : Prop :=
  ∃ (i j : Nat) (first second : ToolSpec), i < j ∧ tools[i]? = some first ∧
    tools[j]? = some second ∧ wireName first.name = wireName second.name

theorem hasNameTwice_iff {tools : List ToolSpec} :
    HasNameTwice tools ↔ ¬ (tools.map fun tool => wireName tool.name).Nodup := by
  rw [List.nodup_iff_getElem?_ne_getElem?]
  push Not
  constructor
  · rintro ⟨i, j, first, second, hlt, hfirst, hsecond, hname⟩
    have hj : j < tools.length := (List.getElem?_eq_some_iff.mp hsecond).1
    exact ⟨i, j, hlt, by simpa using hj, by simp [hfirst, hsecond, hname]⟩
  · rintro ⟨i, j, hlt, hj, hname⟩
    rw [List.length_map] at hj
    have hi : i < tools.length := Nat.lt_trans hlt hj
    refine ⟨i, j, tools[i], tools[j], hlt, List.getElem?_eq_getElem hi,
      List.getElem?_eq_getElem hj, ?_⟩
    simpa [hi, hj] using hname

namespace Gateway

/-! ## Payloads -/

/-- The entries that stand before those of the conversation: the one of the system prompt, unless the
prompt is empty. -/
inductive IsPrompt : String → List Json → Prop where
  | none : IsPrompt "" []
  | some {system : String} {entry : Json} (hne : system ≠ "")
      (hrole : entry.getString? "role" = some "system")
      (hcontent : entry.getString? "content" = some system) : IsPrompt system [entry]

theorem isPrompt_systemEntries (system : String) : IsPrompt system (systemEntries system) := by
  rw [systemEntries]
  split
  · rename_i hempty
    exact hempty ▸ .none
  · rename_i hne
    exact .some hne rfl rfl

/-- The payload tells of the request what it should. -/
structure IsWellFormed (request : CompletionRequest) (sent : Json) : Prop where
  messages : ∃ prompt entries, sent.get? "messages" = some (.arr (prompt ++ entries)) ∧
    IsPrompt request.system prompt ∧
    List.Forall₂ Message.IsSentAs (request.messages.filter (!·.isUnknown)) entries
  tools : ∃ declared, List.Forall₂ ToolSpec.IsDeclaredAs request.tools declared ∧
    (declared.map Json.functionName?).Nodup ∧
    sent.get? "tools" = if request.tools = [] then none else some (.arr declared)

variable {config : GatewayConfig} {request : CompletionRequest} {sent : Json}

theorem get?_tools_of_payload (h : payload config request = .ok sent) :
    sent.get? "tools" = if request.tools = [] then none
      else some (.arr (request.tools.map ToolSpec.toEntry)) := by
  rw [payload] at h
  obtain ⟨tools, htools, rfl⟩ := Json.map_eq_ok_iff.mp h
  obtain ⟨-, -, rfl⟩ := toolEntries_eq_ok_iff.mp htools
  by_cases hnil : request.tools = [] <;> simp [optionalMembers, hnil, extensionKey]

/-- **Every payload is well formed.** There is none exactly if two of the tools have the same wire
name. Otherwise its messages are the system prompt, unless that is empty, and one entry for each
message of a known kind, in order; and it declares the tools, if there are any, in order and under
different names. -/
theorem payload_isWellFormed (config : GatewayConfig) (request : CompletionRequest) :
    ((∃ failure, payload config request = .error failure) ↔ HasNameTwice request.tools) ∧
    ∀ sent, payload config request = .ok sent → IsWellFormed request sent := by
  constructor
  · rw [hasNameTwice_iff, ← @exists_payload_iff config request]
    cases payload config request <;> simp
  · intro sent h
    have hnodup : (request.tools.map fun tool => wireName tool.name).Nodup :=
      exists_payload_iff.mp ⟨sent, h⟩
    refine ⟨⟨_, _, get?_messages_of_payload h, isPrompt_systemEntries request.system,
      forall₂_conversationEntries request.messages⟩, ⟨_, ?_, ?_, get?_tools_of_payload h⟩⟩
    · exact List.forall₂_map_right_iff.mpr
        (List.forall₂_same.mpr fun tool _ => tool.isDeclaredAs_toEntry)
    · have hnames : (request.tools.map ToolSpec.toEntry).map Json.functionName? =
          (request.tools.map fun tool => wireName tool.name).map some := by
        rw [List.map_map, List.map_map]
        exact List.map_congr_left fun tool _ => tool.functionName?_toEntry
      rw [hnames]
      exact hnodup.map fun _ _ => Option.some.inj

/-- All kinds of message and a tool with blanks in its name; with a second tool whose name differs
from that in the blanks only, there is no payload. -/
theorem payload_isWellFormed_of_all_kinds :
    let config : GatewayConfig := .forResource "http://[::1]" "w" "e" "r"
    let tool : ToolSpec := ⟨"look up ü", "", .null⟩
    let other : ToolSpec := ⟨"look.up_ü", "", .null⟩
    let request : CompletionRequest := ⟨"be brief", [
      .user "hi", .unknown (.str "?"), .assistant "" [⟨"look up ü", .arr [.null], none⟩],
      .tool { content := .obj [("a", .bool true)], callId := "c" },
      .function "é" (.str "done"), .system "", .assistant "" []], [tool]⟩
    let refused : CompletionRequest := { request with tools := [tool, other] }
    ∃ sent entries declared, payload config request = .ok sent ∧
      sent.get? "messages" = some (.arr entries) ∧ entries.length = 7 ∧
      sent.get? "tools" = some (.arr declared) ∧
      declared.map Json.functionName? = [some "look_up__"] ∧ IsWellFormed request sent ∧
      HasNameTwice refused.tools ∧ ∃ failure, payload config refused = .error failure := by
  intro config tool other request refused
  obtain ⟨sent, hsent⟩ : ∃ sent, payload config request = .ok sent := ⟨_, rfl⟩
  have htwice : HasNameTwice refused.tools :=
    ⟨0, 1, tool, other, Nat.zero_lt_one, rfl, rfl, by decide +kernel⟩
  refine ⟨sent, _, _, hsent, get?_messages_of_payload hsent, rfl, get?_tools_of_payload hsent,
    by decide +kernel, (payload_isWellFormed config request).2 sent hsent, htwice,
    (payload_isWellFormed config refused).1.mpr htwice⟩

end Gateway

end ToolAgent
