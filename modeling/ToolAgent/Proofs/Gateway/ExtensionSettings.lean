import Mathlib.Data.List.Induction
import ToolAgent.Gateway.Routing

/-!
# Extensions that are built up

An extension is built by settings, one after the other. Settings of different kinds do not get in
each other's way: each field is what the last setting of its kind has given, and a setting that
gives nothing changes nothing (`RoutingExtension.built_spec`). So of the settings of one kind only
the order among themselves counts. What is sent of such an extension has an empty override in it
only where a list of models came with one (`RoutingExtension.holdsEmptyOverride_built`).
-/

namespace ToolAgent

theorem ModelOverride.isEmpty_iff {m : ModelOverride} : m.isEmpty ↔ m = {} := by
  obtain ⟨provider, model, connectionId⟩ := m
  simp [isEmpty, and_assoc]

theorem ModelOverride.toJson_eq_obj_nil_iff {m : ModelOverride} : m.toJson = .obj [] ↔ m = {} := by
  obtain ⟨provider, model, connectionId⟩ := m
  simp [toJson, Json.memberOf?]

namespace ResourceOverrides

theorem isEmpty_iff {o : ResourceOverrides} : o.isEmpty ↔ o = {} := by
  obtain ⟨model, fallbackModels, secondaryModels⟩ := o
  simp [isEmpty, and_assoc]

theorem toJson_eq_obj_nil_iff {o : ResourceOverrides} : o.toJson = .obj [] ↔ o = {} := by
  obtain ⟨model, fallbackModels, secondaryModels⟩ := o
  simp [toJson, Json.memberOf?]

end ResourceOverrides

namespace RoutingExtension

/-! ## Settings -/

/-- What can be set of an extension. -/
inductive SettingKind where
  | modelOverride | fallbackModels | secondaryModels | correlationId | secondaryModelIndex
deriving DecidableEq

/-- A step in building an extension. -/
inductive Setting where
  | modelOverride (m : ModelOverride)
  | fallbackModels (ms : List ModelOverride)
  | secondaryModels (ms : List ModelOverride)
  | correlationId (id : String)
  | secondaryModelIndex (index : UInt32)
deriving DecidableEq

namespace Setting

def kind : Setting → SettingKind
  | modelOverride _ => .modelOverride
  | fallbackModels _ => .fallbackModels
  | secondaryModels _ => .secondaryModels
  | correlationId _ => .correlationId
  | secondaryModelIndex _ => .secondaryModelIndex

/-- The extension behind the step. -/
def apply (e : RoutingExtension) : Setting → RoutingExtension
  | modelOverride m => e.withModelOverride m
  | fallbackModels ms => e.withFallbackModels ms
  | secondaryModels ms => e.withSecondaryModels ms
  | correlationId id => e.withCorrelationId id
  | secondaryModelIndex index => e.withSecondaryModelIndex index

/-- The step gives something; an override without members and a list without models are nothing. -/
def IsEffective : Setting → Prop
  | modelOverride m => m ≠ {}
  | fallbackModels ms | secondaryModels ms => ms ≠ []
  | correlationId _ | secondaryModelIndex _ => True

theorem apply_of_not_isEffective {setting : Setting} (h : ¬ setting.IsEffective)
    (e : RoutingExtension) : setting.apply e = e := by
  cases setting with
  | modelOverride m =>
    obtain rfl : m = {} := not_not.mp h
    rfl
  | fallbackModels ms | secondaryModels ms =>
    obtain rfl : ms = [] := not_not.mp h
    rfl
  | correlationId | secondaryModelIndex => exact absurd trivial h

end Setting

/-- The extension that the steps build, one after the other. -/
def built (settings : List Setting) : RoutingExtension := settings.foldl Setting.apply {}

namespace SettingKind

def Value : SettingKind → Type
  | modelOverride => ModelOverride
  | fallbackModels | secondaryModels => List ModelOverride
  | correlationId => String
  | secondaryModelIndex => UInt32

/-- The field of an extension. -/
def field? : (kind : SettingKind) → RoutingExtension → Option kind.Value
  | modelOverride, e => e.overrides.bind ResourceOverrides.model
  | fallbackModels, e => e.overrides.bind ResourceOverrides.fallbackModels
  | secondaryModels, e => e.overrides.bind ResourceOverrides.secondaryModels
  | correlationId, e => e.correlationId
  | secondaryModelIndex, e => e.secondaryModelIndex

/-- What an effective step of the kind gives. -/
def given? : (kind : SettingKind) → Setting → Option kind.Value
  | modelOverride, .modelOverride m => if m = {} then none else some m
  | fallbackModels, .fallbackModels ms => if ms = [] then none else some ms
  | secondaryModels, .secondaryModels ms => if ms = [] then none else some ms
  | correlationId, .correlationId id => some id
  | secondaryModelIndex, .secondaryModelIndex index => some index
  | _, _ => none

/-- What the last effective step of the kind gives. -/
def last? (kind : SettingKind) (settings : List Setting) : Option kind.Value :=
  (settings.filterMap kind.given?).getLast?

theorem given?_of_ne {kind : SettingKind} {setting : Setting} (h : setting.kind ≠ kind) :
    kind.given? setting = none := by
  cases setting <;> cases kind <;> first | rfl | exact absurd rfl h

theorem given?_kind_eq_none_iff {setting : Setting} :
    setting.kind.given? setting = none ↔ ¬ setting.IsEffective := by
  cases setting with
  | modelOverride m => by_cases h : m = {} <;> simp [Setting.kind, given?, Setting.IsEffective, h]
  | fallbackModels ms | secondaryModels ms =>
    by_cases h : ms = [] <;> simp [Setting.kind, given?, Setting.IsEffective, h]
  | correlationId | secondaryModelIndex => simp [Setting.kind, given?, Setting.IsEffective]

theorem given?_eq_none_iff {kind : SettingKind} {setting : Setting} :
    kind.given? setting = none ↔ (setting.kind = kind → ¬ setting.IsEffective) := by
  by_cases h : setting.kind = kind
  · subst h
    simp [given?_kind_eq_none_iff]
  · simp [given?_of_ne h, h]

/-- A step sets the field of its kind, if it gives something, and leaves the others alone. -/
theorem field?_apply (kind : SettingKind) (e : RoutingExtension) (setting : Setting) :
    kind.field? (setting.apply e) = (kind.given? setting).or (kind.field? e) := by
  by_cases h : setting.IsEffective
  · obtain ⟨correlationId, secondaryModelIndex, overrides⟩ := e
    cases setting with
    | modelOverride m =>
      change m ≠ {} at h
      rw [Setting.apply, withModelOverride, if_neg (mt ModelOverride.isEmpty_iff.mp h)]
      cases kind <;> cases overrides <;> simp only [given?, if_neg h] <;> rfl
    | fallbackModels ms =>
      change ms ≠ [] at h
      rw [Setting.apply, withFallbackModels, if_neg (mt List.isEmpty_iff.mp h)]
      cases kind <;> cases overrides <;> simp only [given?, if_neg h] <;> rfl
    | secondaryModels ms =>
      change ms ≠ [] at h
      rw [Setting.apply, withSecondaryModels, if_neg (mt List.isEmpty_iff.mp h)]
      cases kind <;> cases overrides <;> simp only [given?, if_neg h] <;> rfl
    | correlationId | secondaryModelIndex => cases kind <;> rfl
  · rw [Setting.apply_of_not_isEffective h, given?_eq_none_iff.mpr fun _ => h, Option.none_or]

/-- Each field of an extension that is built holds what the last effective step of its kind
gives. -/
theorem field?_built (kind : SettingKind) (settings : List Setting) :
    kind.field? (built settings) = kind.last? settings := by
  induction settings using List.reverseRecOn with
  | nil => cases kind <;> rfl
  | append_singleton settings setting ih =>
    rw [built, List.foldl_append, List.foldl_cons, List.foldl_nil, ← built, field?_apply, ih, last?,
      last?, List.filterMap_append]
    cases h : kind.given? setting <;> simp [h]

/-- Steps of other kinds do not matter. -/
theorem last?_filter (kind : SettingKind) (settings : List Setting) :
    kind.last? (settings.filter (·.kind = kind)) = kind.last? settings := by
  have hgiven : (fun setting : Setting =>
      if decide (setting.kind = kind) = true then kind.given? setting else none) = kind.given? := by
    funext setting
    by_cases h : setting.kind = kind
    · simp [h]
    · simp [h, given?_of_ne h]
  rw [last?, last?, List.filterMap_filter, hgiven]

theorem last?_eq_none_iff {kind : SettingKind} {settings : List Setting} :
    kind.last? settings = none ↔
      ∀ setting ∈ settings, setting.kind = kind → ¬ setting.IsEffective := by
  rw [last?, List.getLast?_eq_none_iff, List.filterMap_eq_nil_iff]
  exact forall₂_congr fun _ _ => given?_eq_none_iff

/-- No step gives an override without members. -/
theorem ne_default_of_last? {settings : List Setting} {m : ModelOverride}
    (h : modelOverride.last? settings = some m) : m ≠ {} := by
  obtain ⟨setting, -, hgiven⟩ := List.mem_filterMap.mp (List.mem_of_getLast? h)
  cases setting with
  | modelOverride given =>
    change (if given = {} then none else some given) = some m at hgiven
    split at hgiven
    · cases hgiven
    · rename_i hne
      exact Option.some.inj hgiven ▸ hne
  | fallbackModels | secondaryModels | correlationId | secondaryModelIndex => cases hgiven

end SettingKind

/-! ## Overrides that are there -/

/-- Overrides are there only if something is set in them. -/
def IsNormal (e : RoutingExtension) : Prop := ∀ o, e.overrides = some o → o ≠ {}

theorem isNormal_apply {e : RoutingExtension} (h : e.IsNormal) (setting : Setting) :
    (setting.apply e).IsNormal := by
  have hmodify {f : ResourceOverrides → ResourceOverrides} (hf : ∀ o, f o ≠ {}) :
      (e.modifyOverrides f).IsNormal := by
    rintro o ⟨⟩
    exact hf _
  cases setting with
  | modelOverride m =>
    rw [Setting.apply, withModelOverride]
    split
    · exact h
    · exact hmodify (by simp)
  | fallbackModels ms =>
    rw [Setting.apply, withFallbackModels]
    split
    · exact h
    · exact hmodify (by simp)
  | secondaryModels ms =>
    rw [Setting.apply, withSecondaryModels]
    split
    · exact h
    · exact hmodify (by simp)
  | correlationId | secondaryModelIndex => exact h

theorem isNormal_built (settings : List Setting) : (built settings).IsNormal := by
  induction settings using List.reverseRecOn with
  | nil => exact nofun
  | append_singleton settings setting ih =>
    rw [built, List.foldl_append]
    exact isNormal_apply ih setting

namespace IsNormal

variable {e e' : RoutingExtension}

/-- The fields make up the extension. -/
theorem eq_of_field? (h : e.IsNormal) (h' : e'.IsNormal)
    (hfields : ∀ kind : SettingKind, kind.field? e = kind.field? e') : e = e' := by
  obtain ⟨id, index, overrides⟩ := e
  obtain ⟨id', index', overrides'⟩ := e'
  obtain rfl : id = id' := hfields .correlationId
  obtain rfl : index = index' := hfields .secondaryModelIndex
  have hmodel : overrides.bind ResourceOverrides.model = overrides'.bind ResourceOverrides.model :=
    hfields .modelOverride
  have hfallback : overrides.bind ResourceOverrides.fallbackModels =
      overrides'.bind ResourceOverrides.fallbackModels := hfields .fallbackModels
  have hsecondary : overrides.bind ResourceOverrides.secondaryModels =
      overrides'.bind ResourceOverrides.secondaryModels := hfields .secondaryModels
  have hnormal : ∀ o, overrides = some o → o ≠ {} := h
  have hnormal' : ∀ o, overrides' = some o → o ≠ {} := h'
  obtain _ | ⟨model, fallback, secondary⟩ := overrides <;>
    obtain _ | ⟨model', fallback', secondary'⟩ := overrides' <;> simp_all

theorem eq_default_iff (h : e.IsNormal) :
    e = {} ↔ ∀ kind : SettingKind, kind.field? e = none := by
  constructor
  · rintro rfl kind
    cases kind <;> rfl
  · intro hnone
    refine h.eq_of_field? nofun fun kind => ?_
    rw [hnone]
    cases kind <;> rfl

theorem isEmpty_iff (h : e.IsNormal) : e.isEmpty ↔ e = {} := by
  obtain ⟨id, index, overrides⟩ := e
  cases overrides with
  | none => simp [isEmpty]
  | some o => simp [isEmpty, ResourceOverrides.isEmpty_iff, h o rfl]

theorem toJson_eq_obj_nil_iff (h : e.IsNormal) : e.toJson = .obj [] ↔ e = {} := by
  obtain ⟨id, index, overrides⟩ := e
  simp [toJson, Json.memberOf?]

end IsNormal

/-! ## What is built -/

theorem built_eq_default_iff {settings : List Setting} :
    built settings = {} ↔ ∀ setting ∈ settings, ¬ setting.IsEffective := by
  rw [(isNormal_built settings).eq_default_iff]
  simp only [SettingKind.field?_built, SettingKind.last?_eq_none_iff]
  constructor
  · intro h setting hmem
    exact h setting.kind setting hmem rfl
  · intro h kind setting hmem _
    exact h setting hmem

/-- Only the order of the steps of one kind counts. -/
theorem built_congr {settings settings' : List Setting}
    (h : ∀ kind, settings.filter (·.kind = kind) = settings'.filter (·.kind = kind)) :
    built settings = built settings' := by
  refine (isNormal_built settings).eq_of_field? (isNormal_built settings') fun kind => ?_
  rw [SettingKind.field?_built, SettingKind.field?_built, ← SettingKind.last?_filter, h,
    SettingKind.last?_filter]

/-- **The last step of each kind counts.** Each field of an extension that is built holds what the
last effective step of its kind gives. Steps may be put in any other order that is the same for each
kind. There are no overrides in which nothing is set, and the extension is empty, and is sent as the
empty object, exactly if no step gives anything. -/
theorem built_spec (settings : List Setting) :
    (∀ kind : SettingKind, kind.field? (built settings) = kind.last? settings) ∧
    (∀ settings' : List Setting, settings'.Perm settings →
      (∀ kind, settings'.filter (·.kind = kind) = settings.filter (·.kind = kind)) →
      built settings' = built settings) ∧
    (∀ o, (built settings).overrides = some o → ¬ o.isEmpty) ∧
    ((built settings).isEmpty ↔ ∀ setting ∈ settings, ¬ setting.IsEffective) ∧
    ((built settings).isEmpty ↔ (built settings).toJson = .obj []) := by
  have hnormal := isNormal_built settings
  refine ⟨fun kind => SettingKind.field?_built kind settings, fun _ _ h => built_congr h, ?_, ?_,
    ?_⟩
  · intro o ho
    exact mt ResourceOverrides.isEmpty_iff.mp (hnormal o ho)
  · rw [hnormal.isEmpty_iff, built_eq_default_iff]
  · rw [hnormal.isEmpty_iff, hnormal.toJson_eq_obj_nil_iff]

/-- An override without members behind one that has some, and steps of other kinds moved to the
front. -/
theorem built_spec_of_moved_steps :
    let first : ModelOverride := { provider := some "openai" }
    let settings : List Setting := [.modelOverride first, .fallbackModels [{}], .correlationId "a",
      .modelOverride {}, .correlationId "b", .fallbackModels []]
    let moved : List Setting := [.correlationId "a", .correlationId "b", .fallbackModels [{}],
      .fallbackModels [], .modelOverride first, .modelOverride {}]
    built moved = built settings ∧
      SettingKind.modelOverride.field? (built moved) = some first ∧
      SettingKind.correlationId.field? (built moved) = some "b" ∧ ¬ (built moved).isEmpty := by
  intro first settings moved
  obtain ⟨hfields, hmoved, -, hempty, -⟩ := built_spec settings
  have heq : built moved = built settings := by
    refine hmoved moved ?_ fun kind => by cases kind <;> rfl
    decide
  refine ⟨heq, ?_, ?_, ?_⟩
  · rw [heq, hfields]
    rfl
  · rw [heq, hfields]
    rfl
  · rw [heq, hempty]
    simp [settings, Setting.IsEffective]

/-! ## Empty overrides -/

/-- The overrides of an extension, as they are sent. -/
def sentOverrides? (sent : Json) : Option Json := sent.get? "resourceConfigOverrides"

/-- The elements of a list in the overrides, as they are sent. -/
def sentModels? (key : String) (sent : Json) : Option (List Json) :=
  ((sentOverrides? sent).bind (Json.get? key)).bind Json.asArray?

/-- An object without members is sent as the overrides, as the model in them, or as an element of
one of the lists in them. -/
inductive HoldsEmptyOverride (sent : Json) : Prop where
  | overrides (h : sentOverrides? sent = some (.obj []))
  | model (h : (sentOverrides? sent).bind (Json.get? "model") = some (.obj []))
  | listed {key : String} {models : List Json} (hkey : key ∈ ["fallbackModels", "secondaryModels"])
      (hmodels : sentModels? key sent = some models) (hmem : .obj [] ∈ models)

theorem sentOverrides?_toJson (e : RoutingExtension) :
    sentOverrides? e.toJson = e.overrides.map ResourceOverrides.toJson := by
  simp [sentOverrides?, toJson, Json.get?]

theorem sentModel?_toJson (e : RoutingExtension) :
    (sentOverrides? e.toJson).bind (Json.get? "model") =
      (e.overrides.bind ResourceOverrides.model).map ModelOverride.toJson := by
  rw [sentOverrides?_toJson]
  cases e.overrides <;> simp [ResourceOverrides.toJson, Json.get?]

theorem sentModels?_toJson (e : RoutingExtension) :
    sentModels? "fallbackModels" e.toJson =
      (e.overrides.bind ResourceOverrides.fallbackModels).map (·.map ModelOverride.toJson) ∧
    sentModels? "secondaryModels" e.toJson =
      (e.overrides.bind ResourceOverrides.secondaryModels).map (·.map ModelOverride.toJson) := by
  rw [sentModels?, sentModels?, sentOverrides?_toJson]
  cases e.overrides with
  | none => exact ⟨rfl, rfl⟩
  | some o =>
    constructor
    · cases h : o.fallbackModels <;> simp [ResourceOverrides.toJson, Json.get?, h, Json.asArray?]
    · cases h : o.secondaryModels <;> simp [ResourceOverrides.toJson, Json.get?, h, Json.asArray?]

theorem obj_nil_mem_map_toJson_iff {ms : List ModelOverride} :
    .obj [] ∈ ms.map ModelOverride.toJson ↔ {} ∈ ms := by
  simp [ModelOverride.toJson_eq_obj_nil_iff]

/-- **Where an empty override comes from.** Of an extension that is built, neither the overrides nor
the model in them are sent empty. There is an empty override in what is sent exactly if the last
list of fallback models, or of secondary models, that has been given has one. -/
theorem holdsEmptyOverride_built (settings : List Setting) :
    let sent := (built settings).toJson
    sentOverrides? sent ≠ some (.obj []) ∧
    (sentOverrides? sent).bind (Json.get? "model") ≠ some (.obj []) ∧
    (HoldsEmptyOverride sent ↔ ∃ ms : List ModelOverride,
      (SettingKind.fallbackModels.last? settings = some ms ∨
        SettingKind.secondaryModels.last? settings = some ms) ∧ {} ∈ ms) := by
  intro sent
  have hmodelField : (built settings).overrides.bind ResourceOverrides.model =
      SettingKind.modelOverride.last? settings := SettingKind.field?_built .modelOverride settings
  have hfallback : sentModels? "fallbackModels" sent =
      (SettingKind.fallbackModels.last? settings).map (List.map ModelOverride.toJson) := by
    rw [(sentModels?_toJson _).1]
    exact congrArg (Option.map _) (SettingKind.field?_built .fallbackModels settings)
  have hsecondary : sentModels? "secondaryModels" sent =
      (SettingKind.secondaryModels.last? settings).map (List.map ModelOverride.toJson) := by
    rw [(sentModels?_toJson _).2]
    exact congrArg (Option.map _) (SettingKind.field?_built .secondaryModels settings)
  have hoverrides : sentOverrides? sent ≠ some (.obj []) := by
    intro h
    rw [sentOverrides?_toJson] at h
    obtain ⟨o, ho, hempty⟩ := Option.map_eq_some_iff.mp h
    exact isNormal_built settings o ho (ResourceOverrides.toJson_eq_obj_nil_iff.mp hempty)
  have hmodel : (sentOverrides? sent).bind (Json.get? "model") ≠ some (.obj []) := by
    intro h
    rw [sentModel?_toJson, hmodelField] at h
    obtain ⟨m, hm, hempty⟩ := Option.map_eq_some_iff.mp h
    exact SettingKind.ne_default_of_last? hm (ModelOverride.toJson_eq_obj_nil_iff.mp hempty)
  refine ⟨hoverrides, hmodel, ?_, ?_⟩
  · rintro (h | h | ⟨hkey, hmodels, hmem⟩)
    · exact absurd h hoverrides
    · exact absurd h hmodel
    · obtain rfl | rfl := (by simpa using hkey : _ ∨ _)
      · obtain ⟨ms, hms, rfl⟩ := Option.map_eq_some_iff.mp (hfallback.symm.trans hmodels)
        exact ⟨ms, .inl hms, obj_nil_mem_map_toJson_iff.mp hmem⟩
      · obtain ⟨ms, hms, rfl⟩ := Option.map_eq_some_iff.mp (hsecondary.symm.trans hmodels)
        exact ⟨ms, .inr hms, obj_nil_mem_map_toJson_iff.mp hmem⟩
  · rintro ⟨ms, hms | hms, hmem⟩
    · exact .listed (by simp) (hfallback.trans (congrArg _ hms))
        (obj_nil_mem_map_toJson_iff.mpr hmem)
    · exact .listed (by simp) (hsecondary.trans (congrArg _ hms))
        (obj_nil_mem_map_toJson_iff.mpr hmem)

/-- A list of fallback models of which the only one names nothing. -/
theorem holdsEmptyOverride_of_empty_fallback :
    HoldsEmptyOverride (built [.fallbackModels [{}]]).toJson := by
  have hmodels : sentModels? "fallbackModels" (built [.fallbackModels [{}]]).toJson =
      some [.obj []] := by decide
  exact .listed List.mem_cons_self hmodels (List.mem_singleton_self _)

end RoutingExtension

end ToolAgent
