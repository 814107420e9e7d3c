import ToolAgent.Proofs.Gateway.Client
import ToolAgent.Proofs.Json.Records

/-!
# Extensions in payloads

A payload carries the extension of its configuration, unless that is empty, and is otherwise what it
would be without one (`Gateway.payload_extension`). The extension can be read back from its member,
whatever is set in it and however deep.
-/

namespace ToolAgent

/-! ## Members -/

namespace Keyed

variable {α : Type}

theorem filter_insert (key : String) (value : α) (entries : List (String × α)) :
    (insert key value entries).filter (·.1 ≠ key) = entries.filter (·.1 ≠ key) := by
  induction entries with
  | nil => simp [insert]
  | cons entry rest ih =>
    obtain ⟨k, v⟩ := entry
    rw [insert]
    split
    · simp
    · split
      · rename_i hkey
        simp [hkey]
      · rw [List.filter_cons, List.filter_cons, ih]

theorem filter_ofList {key : String} {entries : List (String × α)}
    (h : key ∉ entries.map Prod.fst) : (ofList entries).filter (·.1 ≠ key) = ofList entries := by
  refine List.filter_eq_self.mpr ?_
  intro entry hentry
  have hne : entry.1 ≠ key := by
    rintro rfl
    exact h (List.mem_map_of_mem (mem_of_mem_ofList hentry))
  exact decide_eq_true hne

end Keyed

namespace Json

/-- The value without the member of that name. -/
def without (key : String) : Json → Json
  | obj members => obj (members.filter (·.1 ≠ key))
  | v => v

variable {α : Type}

theorem without_object {key : String} {members : List (String × Json)}
    (h : key ∉ members.map Prod.fst) (toJson : α → Json) (a : Option α) :
    (object (members ++ memberOf? key toJson a)).without key = object members := by
  cases a with
  | none =>
    rw [memberOf?, Option.map_none, Option.toList_none, List.append_nil, object, without,
      Keyed.filter_ofList h]
  | some a =>
    have hinsert : Keyed.ofList (members ++ memberOf? key toJson (some a)) =
        Keyed.insert key (toJson a) (Keyed.ofList members) := List.foldl_append
    rw [object, without, hinsert, Keyed.filter_insert, Keyed.filter_ofList h, object]

theorem canonical_obj (members : List (String × Json)) :
    (obj members).canonical = object (canonicalMembers members) := rfl

theorem canonicalMembers_append (members more : List (String × Json)) :
    canonicalMembers (members ++ more) = canonicalMembers members ++ canonicalMembers more := by
  simp only [canonicalMembers_eq_map, List.map_append]

theorem canonicalMembers_memberOf? (name : String) (toJson : α → Json) (a : Option α) :
    canonicalMembers (memberOf? name toJson a) =
      memberOf? name (fun b => (toJson b).canonical) a := by
  cases a <;> rfl

end Json

/-! ## Reading an extension back -/

open Json (Decoder Fields)

theorem Json.Decoder.fit_uint32 (n : UInt32) : uint32.fit (.ofUInt32 n) = .ok n := by
  have hlt := n.toNat_lt
  have hrange : 0 ≤ (n.toNat : Int) ∧ (n.toNat : Int) ≤ 0xFFFFFFFF := by omega
  simp only [uint32, integer, ofUInt32, integer.fitNumber, hrange, and_self, if_true,
    Int.toNat_natCast, UInt32.ofNat_toNat]

/-- A text that may be left out. -/
theorem Json.Decoder.fit_text (text? : Option String) : ∀ text, text? = some text →
    Json.str text ≠ .null ∧ string.fit (.str text) = .ok text :=
  fun _ _ => ⟨nofun, rfl⟩

theorem ModelOverride.canonical_toJson (m : ModelOverride) :
    m.toJson.canonical = .object (Json.memberOf? "provider" .str m.provider ++
      Json.memberOf? "model" .str m.model ++
      Json.memberOf? "connectionId" .str m.connectionId) := by
  simp only [toJson, Json.canonical_obj, Json.canonicalMembers_append,
    Json.canonicalMembers_memberOf?]
  rfl

theorem ModelOverride.fit_canonical (m : ModelOverride) :
    decoder.fit m.toJson.canonical = .ok m := by
  rw [m.canonical_toJson]
  refine Json.map_eq_ok_iff.mpr ⟨(m.provider, m.model, m.connectionId, ()), ?_, rfl⟩
  refine Decoder.fit_record_object ?_ ?_
  · simp [Fields.HaveOwnNames, Fields.names, Json.RecordField.optional]
  · exact .optional (by simp [Keyed.get?_ofList]) (Decoder.fit_text m.provider)
      (.optional (by simp [Keyed.get?_ofList]) (Decoder.fit_text m.model)
        (.optional (by simp [Keyed.get?_ofList]) (Decoder.fit_text m.connectionId) trivial))

/-- The overrides as they are sent. -/
def ResourceOverrides.modelsJson (ms : List ModelOverride) : Json :=
  .arr (ms.map fun m => m.toJson.canonical)

theorem ResourceOverrides.canonical_toJson (o : ResourceOverrides) :
    o.toJson.canonical = .object (Json.memberOf? "model" (fun m => m.toJson.canonical) o.model ++
      Json.memberOf? "fallbackModels" modelsJson o.fallbackModels ++
      Json.memberOf? "secondaryModels" modelsJson o.secondaryModels) := by
  have hmodels (ms : List ModelOverride) :
      (Json.arr (ms.map ModelOverride.toJson)).canonical = modelsJson ms := by
    rw [Json.canonical, Json.canonicalItems_eq_map, List.map_map]
    rfl
  simp only [toJson, Json.canonical_obj, Json.canonicalMembers_append,
    Json.canonicalMembers_memberOf?, hmodels]

theorem ResourceOverrides.fit_canonical (o : ResourceOverrides) :
    decoder.fit o.toJson.canonical = .ok o := by
  rw [o.canonical_toJson]
  refine Json.map_eq_ok_iff.mpr ⟨(o.model, o.fallbackModels, o.secondaryModels, ()), ?_, rfl⟩
  have hmodels (ms? : Option (List ModelOverride)) : ∀ ms, ms? = some ms →
      modelsJson ms ≠ .null ∧ ModelOverride.decoder.list.fit (modelsJson ms) = .ok ms :=
    fun ms _ => ⟨nofun, Decoder.fit_list_map fun m _ => m.fit_canonical⟩
  have hmodel : ∀ m, o.model = some m →
      m.toJson.canonical ≠ .null ∧ ModelOverride.decoder.fit m.toJson.canonical = .ok m :=
    fun m _ => ⟨nofun, m.fit_canonical⟩
  refine Decoder.fit_record_object ?_ ?_
  · simp [Fields.HaveOwnNames, Fields.names, Json.RecordField.optional]
  · exact .optional (by simp [Keyed.get?_ofList]) hmodel
      (.optional (by simp [Keyed.get?_ofList]) (hmodels o.fallbackModels)
        (.optional (by simp [Keyed.get?_ofList]) (hmodels o.secondaryModels) trivial))

theorem RoutingExtension.canonical_toJson (e : RoutingExtension) :
    e.toJson.canonical = .object (Json.memberOf? "correlationId" .str e.correlationId ++
      Json.memberOf? "secondaryModelIndex" .ofUInt32 e.secondaryModelIndex ++
      Json.memberOf? "resourceConfigOverrides" (fun o => o.toJson.canonical) e.overrides) := by
  simp only [toJson, Json.canonical_obj, Json.canonicalMembers_append,
    Json.canonicalMembers_memberOf?]
  rfl

theorem RoutingExtension.fit_canonical (e : RoutingExtension) :
    decoder.fit e.toJson.canonical = .ok e := by
  rw [e.canonical_toJson]
  refine Json.map_eq_ok_iff.mpr
    ⟨(e.correlationId, e.secondaryModelIndex, e.overrides, ()), ?_, rfl⟩
  have hindex : ∀ n, e.secondaryModelIndex = some n →
      Json.ofUInt32 n ≠ .null ∧ Decoder.uint32.fit (.ofUInt32 n) = .ok n :=
    fun n _ => ⟨nofun, Decoder.fit_uint32 n⟩
  have hoverrides : ∀ o, e.overrides = some o →
      o.toJson.canonical ≠ .null ∧ ResourceOverrides.decoder.fit o.toJson.canonical = .ok o :=
    fun o _ => ⟨nofun, o.fit_canonical⟩
  refine Decoder.fit_record_object ?_ ?_
  · simp [Fields.HaveOwnNames, Fields.names, Json.RecordField.optional]
  · exact .optional (by simp [Keyed.get?_ofList]) (Decoder.fit_text e.correlationId)
      (.optional (by simp [Keyed.get?_ofList]) hindex
        (.optional (by simp [Keyed.get?_ofList]) hoverrides trivial))

/-! ## Payloads -/

namespace GatewayConfig

def withoutExtension (config : GatewayConfig) : GatewayConfig := { config with extension := none }

end GatewayConfig

namespace Gateway

variable {config : GatewayConfig} {request : CompletionRequest} {sent : Json}

theorem optionalMembers_eq (config : GatewayConfig) (tools : List Json) :
    optionalMembers config tools = optionalMembers config.withoutExtension tools ++
      Json.memberOf? extensionKey (fun e => e.toJson.canonical)
        (config.extension.filter (!·.isEmpty)) := by
  simp [optionalMembers, GatewayConfig.withoutExtension, Json.memberOf?]

theorem get?_extension_of_payload (h : payload config request = .ok sent) :
    sent.get? extensionKey =
      (config.extension.filter (!·.isEmpty)).map fun e => e.toJson.canonical := by
  rw [payload] at h
  obtain ⟨tools, -, rfl⟩ := Json.map_eq_ok_iff.mp h
  by_cases hnil : tools = [] <;> simp [optionalMembers, hnil, extensionKey]

theorem mem_keys_memberOf? {α : Type} {key name : String} {toJson : α → Json} {a : Option α}
    (h : key ∈ (Json.memberOf? name toJson a).map Prod.fst) : key = name := by
  cases a with
  | none => cases h
  | some a => exact List.mem_singleton.mp h

/-- The names of the optional members, the extension aside. -/
theorem mem_keys_optionalMembers {key : String} {tools : List Json}
    (h : key ∈ (optionalMembers config.withoutExtension tools).map Prod.fst) :
    key ∈ ["tools", "temperature", "max_tokens"] := by
  have htools : key ∈ (if tools.isEmpty then [] else [("tools", Json.arr tools)]).map Prod.fst →
      key = "tools" := by
    cases tools <;> simp
  rw [optionalMembers, List.map_append, List.map_append, List.map_append, List.mem_append,
    List.mem_append, List.mem_append] at h
  obtain ((h | h) | h) | h := h
  · simp [htools h]
  · simp [mem_keys_memberOf? h]
  · simp [mem_keys_memberOf? h]
  · cases h

theorem payload_withoutExtension (config : GatewayConfig) (request : CompletionRequest) :
    payload config.withoutExtension request =
      (payload config request).map (Json.without extensionKey) := by
  rw [payload, payload]
  cases toolEntries [] request.tools with
  | error failure => rfl
  | ok tools =>
    simp only [Except.map]
    rw [optionalMembers_eq config tools, ← List.append_assoc]
    refine congrArg Except.ok (Json.without_object ?_ _ _).symm
    rw [List.map_append, List.mem_append]
    rintro (h | h)
    · simp [extensionKey] at h
    · have hname := mem_keys_optionalMembers h
      simp [extensionKey] at hname

/-- **The extension rides along.** A payload without the member `vmx` is the payload of the same
configuration without an extension; there is one exactly if there is the other. The member is there
exactly if there is an extension that is not empty, and it is read as that extension. -/
theorem payload_extension (config : GatewayConfig) (request : CompletionRequest) :
    payload config.withoutExtension request =
      (payload config request).map (Json.without "vmx") ∧
    ∀ sent, payload config request = .ok sent →
      ((∃ v, sent.get? "vmx" = some v) ↔ ∃ e, config.extension = some e ∧ ¬ e.isEmpty) ∧
      ∀ v, sent.get? "vmx" = some v →
        ∃ e, config.extension = some e ∧ RoutingExtension.decoder.fit v = .ok e := by
  refine ⟨payload_withoutExtension config request, ?_⟩
  intro sent h
  have hmember := get?_extension_of_payload h
  rw [extensionKey] at hmember
  rw [hmember]
  constructor
  · simp [Option.filter_eq_some_iff]
  · intro v hv
    obtain ⟨e, he, rfl⟩ := Option.map_eq_some_iff.mp hv
    exact ⟨e, (Option.filter_eq_some_iff.mp he).1, e.fit_canonical⟩

/-- An override without members, and one that names a model, in an extension with an id. -/
theorem payload_extension_of_empty_override :
    let model : ModelOverride := { provider := some "openai", model := some "" }
    let extension : RoutingExtension :=
      { correlationId := some "",
        overrides := some
          { model := some {}, fallbackModels := some [], secondaryModels := some [model, {}] } }
    let config := (GatewayConfig.forResource "http://host" "ws" "env" "openai").withExtension
      extension
    let request : CompletionRequest := { system := "", messages := [.user "hi"], tools := [] }
    ∃ sent, payload config request = .ok sent ∧
      payload config.withoutExtension request = .ok (sent.without "vmx") ∧
      ∃ v, sent.get? "vmx" = some v ∧ RoutingExtension.decoder.fit v = .ok extension := by
  intro model extension config request
  obtain ⟨sent, hsent⟩ : ∃ sent, payload config request = .ok sent :=
    exists_payload_iff.mpr List.nodup_nil
  obtain ⟨hframe, hmember⟩ := payload_extension config request
  obtain ⟨hpresent, hread⟩ := hmember sent hsent
  have hextension : config.extension = some extension := rfl
  obtain ⟨v, hv⟩ := hpresent.mpr ⟨extension, hextension, by decide⟩
  obtain ⟨e, he, hfit⟩ := hread v hv
  have heq : extension = e := Option.some.inj (hextension.symm.trans he)
  refine ⟨sent, hsent, ?_, v, hv, heq ▸ hfit⟩
  rw [hframe, hsent]
  rfl

end Gateway

end ToolAgent
