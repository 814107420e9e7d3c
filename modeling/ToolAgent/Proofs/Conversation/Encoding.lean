import ToolAgent.Conversation.Chunk
import ToolAgent.Proofs.Json.Records

/-!
# Messages and chunks as JSON

Every value is a message, and what is of no known kind is kept as it is. A message that is read from
a value is `IsProper`: it does not keep a value of a known kind as one of an unknown kind. A proper
message is what its own value reads as, and likewise for the chunks made of proper messages
(`Message.fit_toJson_of_isProper`). A value is written with its members in the order of the fields, or
in canonical form; the latter changes no message whose own values are canonical (`IsCanonical`).
-/

namespace ToolAgent

open Json (Decoder Fields)

/-! ## Tool calls -/

namespace ToolCall

def IsCanonical (call : ToolCall) : Prop := call.args.IsCanonical

theorem fit_toJson (call : ToolCall) : decoder.fit call.toJson = .ok call := by
  obtain ⟨name, args, id⟩ := call
  cases id with
  | none => rfl
  | some id => rfl

theorem canonical_toJson {call : ToolCall} (h : call.IsCanonical) :
    call.toJson.canonical =
      .obj ([("args", call.args)] ++ Json.memberOf? "id" .str call.id ++
        [("name", .str call.name)]) := by
  have hargs : call.args.canonical = call.args := h.canonical_eq
  have hsorted : call.toJson.canonical =
      .obj ([("args", call.args.canonical)] ++ Json.memberOf? "id" .str call.id ++
        [("name", .str call.name)]) := by
    obtain ⟨name, args, id⟩ := call
    cases id with
    | none => rfl
    | some id => rfl
  rw [hsorted, hargs]

theorem fit_canonical {call : ToolCall} (h : call.IsCanonical) :
    decoder.fit call.toJson.canonical = .ok call := by
  rw [canonical_toJson h]
  obtain ⟨name, args, id⟩ := call
  cases id with
  | none => rfl
  | some id => rfl

/-- Arguments that are missing are null, and others come from the value that is read. -/
theorem isCanonical_of_fit {v : Json} {call : ToolCall} (hv : v.IsCanonical)
    (h : decoder.fit v = .ok call) : call.IsCanonical := by
  obtain ⟨⟨name, args, id, _⟩, hrecord, rfl⟩ := Json.map_eq_ok_iff.mp h
  obtain ⟨-, hargs, -⟩ := Decoder.comes_of_fit_record hrecord
  rcases hargs with hnull | hnull | ⟨part, hpart, hargs⟩
  · obtain rfl : Json.null = args := Option.some.inj hnull
    exact .null
  · obtain rfl : Json.null = args := Option.some.inj hnull
    exact .null
  · obtain rfl : part = args := Except.ok.inj hargs
    exact hv.of_mem_parts hpart

end ToolCall

/-! ## Messages -/

namespace Message

/-- The message does not keep a value of a known kind as one of an unknown kind. -/
def IsProper (message : Message) : Prop :=
  ∀ raw, message = .unknown raw → ofKnown? raw = none

/-- The values that the message holds are canonical. -/
def IsCanonical : Message → Prop
  | user _ | system _ => True
  | assistant _ calls => ∀ call ∈ calls, call.IsCanonical
  | tool result => result.content.IsCanonical
  | function _ content => content.IsCanonical
  | unknown raw => raw.IsCanonical

theorem put_toolCalls {content : String} {items : List Json} {calls : List ToolCall}
    (h : ToolCall.decoder.list.fit (.arr items) = .ok calls) :
    assistantFields.put "tool_calls" (.arr items) (some content, none, ()) =
      .ok (some content, some calls, ()) := by
  have hfit : (ToolCall.decoder.list.nullable []).fit (.arr items) = .ok calls := by
    show ((ToolCall.decoder.list.fit (.arr items)).map some).map (·.getD []) = .ok calls
    rw [h]
    rfl
  exact Fields.put_of_isNamed_eq_false rfl (Fields.put_of_fit rfl hfit ()) (some content)

/-- The calls of an assistant stand behind the other members. -/
theorem ofJson_assistant {content : String} {items : List Json} {calls : List ToolCall}
    (h : ToolCall.decoder.list.fit (.arr items) = .ok calls) {head : List (String × Json)}
    (hrole : Keyed.get? "role" head = some (.str "assistant"))
    (hput : assistantFields.putAll head assistantFields.empty = .ok (some content, none, ())) :
    ofJson (.obj (head ++ [("tool_calls", .arr items)])) = .assistant content calls := by
  have hfields : assistantFields.ofMembers (head ++ [("tool_calls", .arr items)]) =
      .ok (content, calls, ()) := by
    rw [Fields.ofMembers, Fields.putAll_append hput, Fields.putAll, put_toolCalls h]
    rfl
  have hkind : Keyed.get? "role" (head ++ [("tool_calls", .arr items)]) =
      some (.str "assistant") := by
    rw [Keyed.get?_append, hrole]
    rfl
  rw [ofJson, ofKnown?, hkind]
  show (((assistantFields.ofMembers _).toOption.map _).getD _) = _
  rw [hfields]
  rfl

/-- A proper message is what its value reads as. -/
theorem ofJson_toJson {message : Message} (h : message.IsProper) :
    ofJson message.toJson = message := by
  cases message with
  | user content => rfl
  | assistant content calls =>
    cases calls with
    | nil => rfl
    | cons call calls =>
      have hcalls : ToolCall.decoder.list.fit (.arr ((call :: calls).map ToolCall.toJson)) =
          .ok (call :: calls) :=
        Decoder.fit_list_map fun call _ => call.fit_toJson
      exact ofJson_assistant hcalls rfl rfl
  | system content => rfl
  | tool result =>
    obtain ⟨content, callId, name, status⟩ := result
    cases name <;> cases status <;> rfl
  | function name content => rfl
  | unknown raw =>
    rw [toJson, ofJson, h raw rfl]
    rfl

/-- So it is in canonical form. -/
theorem ofJson_canonical {message : Message} (h : message.IsProper)
    (hcanonical : message.IsCanonical) : ofJson message.toJson.canonical = message := by
  cases message with
  | user content => rfl
  | assistant content calls =>
    cases calls with
    | nil => rfl
    | cons call calls =>
      have hcalls : ToolCall.decoder.list.fit
          (.arr ((call :: calls).map fun call => call.toJson.canonical)) = .ok (call :: calls) :=
        Decoder.fit_list_map fun call hcall => ToolCall.fit_canonical (hcanonical call hcall)
      have hitems : Json.canonicalItems ((call :: calls).map ToolCall.toJson) =
          (call :: calls).map fun call => call.toJson.canonical := by
        rw [Json.canonicalItems_eq_map, List.map_map]
        rfl
      have hjson : (toJson (.assistant content (call :: calls))).canonical =
          .obj ([("content", .str content), ("role", .str "assistant")] ++
            [("tool_calls", .arr (Json.canonicalItems ((call :: calls).map ToolCall.toJson)))]) :=
        rfl
      rw [hjson, hitems]
      exact ofJson_assistant hcalls rfl rfl
  | system content => rfl
  | tool result =>
    obtain ⟨content, callId, name, status⟩ := result
    have hcontent : content.canonical = content := Json.IsCanonical.canonical_eq hcanonical
    have hread : ofJson (toJson (.tool ⟨content, callId, name, status⟩)).canonical =
        .tool ⟨content.canonical, callId, name, status⟩ := by
      cases name <;> cases status <;> rfl
    rw [hread, hcontent]
  | function name content =>
    have hcontent : content.canonical = content := Json.IsCanonical.canonical_eq hcanonical
    have hread : ofJson (toJson (.function name content)).canonical =
        .function name content.canonical := rfl
    rw [hread, hcontent]
  | unknown raw =>
    rw [toJson, Json.IsCanonical.canonical_eq hcanonical, ofJson, h raw rfl]
    rfl

/-! ## Messages that are read -/

/-- A message of a known kind is made of fields that hold defaults or come from the value. -/
theorem exists_ofKind?_of_ofKnown? {v : Json} {message : Message} (h : ofKnown? v = some message) :
    ∃ (kind : Kind) (fields : {τ σ : Type} → Fields τ σ → Option τ),
      (∀ {τ σ : Type} (fs : Fields τ σ) (t : τ), fields fs = some t → fs.Comes v.parts t) ∧
      ofKind? kind fields = some message := by
  cases v with
  | null | bool | num | str => cases h
  | obj members =>
    obtain ⟨role, -, h⟩ := Option.bind_eq_some_iff.mp h
    obtain ⟨name, -, h⟩ := Option.bind_eq_some_iff.mp h
    obtain ⟨kind, -, h⟩ := Option.bind_eq_some_iff.mp h
    refine ⟨kind, _, ?_, h⟩
    intro τ σ fs t ht
    exact Fields.comes_of_ofMembers (Json.toOption_eq_some_iff.mp ht)
  | arr items =>
    cases items with
    | nil => cases h
    | cons first items =>
      cases first with
      | null | bool | num | arr | obj => cases h
      | str role =>
        obtain ⟨kind, -, h⟩ := Option.bind_eq_some_iff.mp h
        refine ⟨kind, _, ?_, h⟩
        intro τ σ fs t ht
        split at ht
        · rename_i found hitems
          obtain rfl : found = t := Option.some.inj ht
          exact Fields.comes_of_ofItems (fun _ => List.mem_cons_of_mem _) hitems
        · cases ht

section Kinds

variable {kind : Kind} {fields : {τ σ : Type} → Fields τ σ → Option τ} {message : Message}

theorem ne_unknown_of_ofKind? (h : ofKind? kind fields = some message) (raw : Json) :
    message ≠ .unknown raw := by
  cases kind with
  | user | assistant | system | tool | function =>
    obtain ⟨t, -, rfl⟩ := Option.map_eq_some_iff.mp h
    exact nofun

theorem isCanonical_of_ofKind? {values : List Json} (hvalues : ∀ v ∈ values, v.IsCanonical)
    (hfields : ∀ {τ σ : Type} (fs : Fields τ σ) (t : τ), fields fs = some t → fs.Comes values t)
    (h : ofKind? kind fields = some message) : message.IsCanonical := by
  cases kind with
  | user | system =>
    obtain ⟨t, -, rfl⟩ := Option.map_eq_some_iff.mp h
    trivial
  | assistant =>
    obtain ⟨⟨content, calls, _⟩, ht, rfl⟩ := Option.map_eq_some_iff.mp h
    obtain ⟨-, hcalls, -⟩ := hfields _ _ ht
    intro call hcall
    rcases hcalls with hnone | hnone | ⟨v, hv, hcalls⟩
    · obtain rfl : [] = calls := Option.some.inj hnone
      cases hcall
    · obtain rfl : [] = calls := Option.some.inj hnone
      cases hcall
    · obtain ⟨part, hpart, hfit⟩ := Decoder.exists_of_mem_of_fit_nullable_list hcalls hcall
      exact ToolCall.isCanonical_of_fit ((hvalues v hv).of_mem_parts hpart) hfit
  | tool =>
    obtain ⟨⟨content, callId, name, status, _⟩, ht, rfl⟩ := Option.map_eq_some_iff.mp h
    exact hvalues content (hfields _ _ ht).mem_of_any
  | function =>
    obtain ⟨⟨name, content, _⟩, ht, rfl⟩ := Option.map_eq_some_iff.mp h
    have hrest := (hfields _ _ ht).2
    exact hvalues content (Fields.Comes.mem_of_any hrest)

end Kinds

theorem ofJson_eq_unknown_iff {v raw : Json} :
    ofJson v = .unknown raw ↔ v = raw ∧ ofKnown? v = none := by
  rw [ofJson]
  cases hknown : ofKnown? v with
  | none =>
    rw [Option.getD_none, Message.unknown.injEq]
    exact (and_iff_left rfl).symm
  | some message =>
    obtain ⟨kind, fields, -, hkind⟩ := exists_ofKind?_of_ofKnown? hknown
    have hne : message ≠ .unknown raw := ne_unknown_of_ofKind? hkind raw
    simp [hne]

/-- Messages that are read are proper. -/
theorem isProper_ofJson (v : Json) : (ofJson v).IsProper := by
  intro raw h
  obtain ⟨rfl, hknown⟩ := ofJson_eq_unknown_iff.mp h
  exact hknown

theorem isCanonical_ofJson {v : Json} (hv : v.IsCanonical) : (ofJson v).IsCanonical := by
  rw [ofJson]
  cases hknown : ofKnown? v with
  | none => exact hv
  | some message =>
    obtain ⟨kind, fields, hfields, hkind⟩ := exists_ofKind?_of_ofKnown? hknown
    exact isCanonical_of_ofKind? (fun _ => hv.of_mem_parts) hfields hkind

end Message

/-! ## Chunks -/

/-- The decoder gives back any messages that it gives back one by one. -/
theorem StepUpdate.fit_of_items {update : StepUpdate} {toJson : Message → Json}
    (h : ∀ message ∈ update.messages, Message.ofJson (toJson message) = message) :
    decoder.fit (.obj [("messages", .arr (update.messages.map toJson))]) = .ok update := by
  have hmessages : Message.decoder.list.fit (.arr (update.messages.map toJson)) =
      .ok update.messages :=
    Decoder.fit_list_map fun message hmessage => congrArg Except.ok (h message hmessage)
  have hput : (Fields.cons (.withDefault "messages" Message.decoder.list []) .nil).putAll
      [("messages", .arr (update.messages.map toJson))] (none, ()) = .ok (some update.messages, ()) :=
    Json.bind_eq_ok_iff.mpr ⟨_, Fields.put_of_fit rfl hmessages (), rfl⟩
  have hfields : (Fields.cons (.withDefault "messages" Message.decoder.list []) .nil).ofMembers
      [("messages", .arr (update.messages.map toJson))] = .ok (update.messages, ()) :=
    Json.bind_eq_ok_iff.mpr ⟨_, hput, rfl⟩
  exact Json.map_eq_ok_iff.mpr ⟨_, hfields, rfl⟩

theorem Chunk.fit_of_steps {chunk : Chunk} {toJson : Message → Json}
    (h : ∀ message ∈ chunk.messages, Message.ofJson (toJson message) = message) :
    decoder.fit (.obj (chunk.steps.map fun entry =>
      (entry.1, .obj [("messages", .arr (entry.2.messages.map toJson))]))) = .ok chunk := by
  let written (update : StepUpdate) : Json := .obj [("messages", .arr (update.messages.map toJson))]
  have hsteps : StepUpdate.decoder.members.fit
      (.obj (chunk.steps.map fun entry => (entry.1, written entry.2))) = .ok chunk.steps := by
    refine Decoder.fit_members_map ?_
    intro entry hentry
    refine StepUpdate.fit_of_items ?_
    intro message hmessage
    exact h message (List.mem_flatMap_of_mem hentry hmessage)
  have hsorted : Chunk.ofSteps chunk.steps = chunk := by
    obtain ⟨steps, sorted⟩ := chunk
    rw [ofSteps, Chunk.mk.injEq]
    exact Keyed.ofList_eq_self sorted
  show (StepUpdate.decoder.members.fit _).map ofSteps = _
  rw [hsteps]
  exact congrArg Except.ok hsorted

theorem StepUpdate.canonical_toJson (update : StepUpdate) :
    update.toJson.canonical =
      .obj [("messages", .arr (update.messages.map fun message => message.toJson.canonical))] := by
  have hjson : update.toJson.canonical =
      .obj [("messages", .arr (Json.canonicalItems (update.messages.map Message.toJson)))] := rfl
  rw [hjson, Json.canonicalItems_eq_map, List.map_map]
  rfl

/-- The steps of a chunk are sorted as they are. -/
theorem Chunk.canonical_toJson (chunk : Chunk) :
    chunk.toJson.canonical = .obj (chunk.steps.map fun entry =>
      (entry.1, .obj [("messages", .arr (entry.2.messages.map fun message =>
        message.toJson.canonical))])) := by
  have hmembers : Json.canonicalMembers (chunk.steps.map fun entry => (entry.1, entry.2.toJson)) =
      chunk.steps.map fun entry => (entry.1, .obj [("messages", .arr (entry.2.messages.map
        fun message => message.toJson.canonical))]) := by
    rw [Json.canonicalMembers_eq_map, List.map_map]
    refine List.map_congr_left ?_
    intro entry _
    exact congrArg (Prod.mk entry.1) entry.2.canonical_toJson
  rw [toJson, Json.canonical, hmembers, Json.object, Keyed.ofList_eq_self]
  rw [Keyed.Sorted, List.map_map]
  exact chunk.sorted

/-! ## Reading back -/

/-- **Messages read back.** Every value reads as a message, and one of no known kind is written as it
was. A proper message is what its own value reads as, and so is every message that was read; a chunk
of proper messages is what its value reads as. If the values that they hold are canonical, this is
so for the canonical form as well. -/
theorem Message.fit_toJson_of_isProper :
    (∀ v : Json, ∃ message, Message.decoder.fit v = .ok message ∧
      ∀ raw, message = .unknown raw → message.toJson = v) ∧
    (∀ message : Message, message.IsProper →
      Message.decoder.fit message.toJson = .ok message ∧
      (message.IsCanonical → Message.decoder.fit message.toJson.canonical = .ok message)) ∧
    (∀ (v : Json) (message : Message), Message.decoder.fit v = .ok message →
      Message.decoder.fit message.toJson = .ok message ∧
      (v.IsCanonical → Message.decoder.fit message.toJson.canonical = .ok message)) ∧
    ∀ chunk : Chunk, (∀ message ∈ chunk.messages, message.IsProper) →
      Chunk.decoder.fit chunk.toJson = .ok chunk ∧
      ((∀ message ∈ chunk.messages, message.IsCanonical) →
        Chunk.decoder.fit chunk.toJson.canonical = .ok chunk) := by
  have hread (message : Message) (h : message.IsProper) :
      Message.decoder.fit message.toJson = .ok message ∧
      (message.IsCanonical → Message.decoder.fit message.toJson.canonical = .ok message) := by
    refine ⟨congrArg Except.ok (ofJson_toJson h), ?_⟩
    intro hcanonical
    exact congrArg Except.ok (ofJson_canonical h hcanonical)
  refine ⟨?_, hread, ?_, ?_⟩
  · intro v
    refine ⟨ofJson v, rfl, ?_⟩
    intro raw h
    rw [h]
    exact (ofJson_eq_unknown_iff.mp h).1.symm
  · rintro v _ ⟨⟩
    obtain ⟨hjson, hcanonical⟩ := hread (ofJson v) (isProper_ofJson v)
    exact ⟨hjson, fun hv => hcanonical (isCanonical_ofJson hv)⟩
  · intro chunk hproper
    constructor
    · exact Chunk.fit_of_steps fun message hmessage => ofJson_toJson (hproper message hmessage)
    · intro hcanonical
      rw [Chunk.canonical_toJson]
      exact Chunk.fit_of_steps fun message hmessage =>
        ofJson_canonical (hproper message hmessage) (hcanonical message hmessage)

/-- A role by its other name, a member that is null, one that belongs to no field, calls as arrays
and with the other name of their arguments, and a status that is an object. -/
theorem Message.fit_toJson_of_aliases :
    let calls : Json := .arr [.arr [.str "f", .obj [("n", .null)]],
      .obj [("arguments", .str "\x7b"), ("id", .str "c"), ("name", .str "g")]]
    let v : Json := .obj [("content", .null), ("role", .str "ai"), ("tool_calls", calls),
      ("usage", .null)]
    let w : Json := .arr [.str "tool", .arr [.bool true], .str "c", .null, .obj [("error", .null)]]
    let asked : Message :=
      .assistant "" [⟨"f", .obj [("n", .null)], none⟩, ⟨"g", .str "\x7b", some "c"⟩]
    let answered : Message := .tool ⟨.arr [.bool true], "c", none, .error⟩
    let chunk : Chunk := .tools [asked, answered, .unknown (.arr [.str "tool"])]
    (decoder.fit v = .ok asked ∧ decoder.fit w = .ok answered) ∧
    (decoder.fit asked.toJson = .ok asked ∧ decoder.fit asked.toJson.canonical = .ok asked) ∧
    Chunk.decoder.fit chunk.toJson = .ok chunk ∧
    Chunk.decoder.fit chunk.toJson.canonical = .ok chunk := by
  intro calls v w asked answered chunk
  have hasked : decoder.fit v = .ok asked := rfl
  have hanswered : decoder.fit w = .ok answered := rfl
  have hv : v.IsCanonical := by decide +kernel
  have hw : w.IsCanonical := by decide +kernel
  obtain ⟨-, -, hread, hchunk⟩ := fit_toJson_of_isProper
  have hmessages : ∀ message ∈ chunk.messages, message.IsProper ∧ message.IsCanonical := by
    rw [Chunk.messages_tools, List.forall_mem_cons, List.forall_mem_cons, List.forall_mem_singleton]
    refine ⟨⟨nofun, isCanonical_ofJson hv⟩, ⟨nofun, isCanonical_ofJson hw⟩, ?_, ?_⟩
    · rintro _ ⟨⟩
      rfl
    · show Json.IsCanonical (.arr [.str "tool"])
      decide +kernel
  obtain ⟨hjson, hcanonical⟩ := hchunk chunk fun message h => (hmessages message h).1
  obtain ⟨hjson', hcanonical'⟩ := hread v asked hasked
  exact ⟨⟨hasked, hanswered⟩, ⟨hjson', hcanonical' hv⟩, hjson,
    hcanonical fun message h => (hmessages message h).2⟩

end ToolAgent
