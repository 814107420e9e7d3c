import ToolAgent.CommandLine.Options

/-!
# Precedence of flags

Six settings have both a flag and a variable (`Setting`). All variables are read before a flag is
looked at, so that one that is set and is not text fails the configuration, even if its flag is
given. Otherwise the flag wins over the variable, and the variable over the default
(`Options.config_eq_ok_iff`).
-/

namespace ToolAgent

namespace CommandLine

/-! ## Settings -/

/-- What both a flag and a variable can set. -/
inductive Setting where
  | host | workspaceId | environmentId | resourceId | apiKey | model
deriving DecidableEq, Repr

namespace Setting

/-- The settings in the order in which their variables are read. -/
def all : List Setting := [host, workspaceId, environmentId, resourceId, apiKey, model]

theorem mem_all (setting : Setting) : setting ∈ all := by
  cases setting <;> decide

def variableName : Setting → String
  | host => "VMX_AI_HOST"
  | workspaceId => "VMX_AI_WORKSPACE_ID"
  | environmentId => "VMX_AI_ENVIRONMENT_ID"
  | resourceId => "VMX_AI_RESOURCE_ID"
  | apiKey => "VMX_AI_API_KEY"
  | model => "VMX_AI_MODEL"

/-- What the flag says. -/
def option? (o : Options) : Setting → Option String
  | host => o.host
  | workspaceId => o.workspaceId
  | environmentId => o.environmentId
  | resourceId => o.resourceId
  | apiKey => o.apiKey
  | model => o.model

def default? : Setting → Option String
  | host => some GatewayConfig.defaultHost
  | workspaceId => some GatewayConfig.defaultWorkspaceId
  | environmentId => some GatewayConfig.defaultEnvironmentId
  | resourceId => some GatewayConfig.defaultResourceId
  | apiKey => none
  | model => some GatewayConfig.routerModel

/-- What a configuration has for the setting. -/
def value? (config : GatewayConfig) : Setting → Option String
  | host => some config.host
  | workspaceId => some config.workspaceId
  | environmentId => some config.environmentId
  | resourceId => some config.resourceId
  | apiKey => config.apiKey
  | model => some config.model

theorem value?_variableName (env : Environment) (setting : Setting) :
    env.value? setting.variableName = env setting.variableName := by
  cases setting <;> rfl

/-- The bytes of the variable, if they are not text. -/
def notText? (env : Environment) (setting : Setting) : Option Bytes :=
  (env setting.variableName).filter fun value => value.toString?.isNone

/-- The text of the variable, if it has one that is not blank. -/
def text? (env : Environment) (setting : Setting) : Option String :=
  ((env setting.variableName).bind Bytes.toString?).filter fun text => !Text.allBlank text

theorem lookup_eq (env : Environment) (setting : Setting) (default : Option String) :
    env.lookup setting.variableName false default =
      match setting.notText? env with
      | some value => .error (.notText value)
      | none => .ok ((setting.text? env).or default) := by
  rw [Environment.lookup, value?_variableName, notText?, text?]
  cases env setting.variableName with
  | none => rfl
  | some value =>
    cases htext : value.toString? with
    | none => simp [Option.filter, htext]
    | some text => cases hblank : Text.allBlank text <;> simp [Option.filter, htext, hblank]

/-! ## What the environment asks for -/

/-- The configuration with these texts, and with the defaults where there is none. -/
def configOf (texts : Setting → Option String) : GatewayConfig where
  host := (texts host).getD GatewayConfig.defaultHost
  workspaceId := (texts workspaceId).getD GatewayConfig.defaultWorkspaceId
  environmentId := (texts environmentId).getD GatewayConfig.defaultEnvironmentId
  resourceId := (texts resourceId).getD GatewayConfig.defaultResourceId
  apiKey := texts apiKey
  model := (texts model).getD GatewayConfig.routerModel

theorem value?_configOf (texts : Setting → Option String) (setting : Setting) :
    setting.value? (configOf texts) = (texts setting).or setting.default? := by
  cases setting with
  | apiKey => exact Option.or_none.symm
  | host | workspaceId | environmentId | resourceId | model => exact Option.or_some.symm

/-- Configurations that agree on the settings and on the rest are the same. -/
theorem config_ext {config config' : GatewayConfig}
    (hvalue : ∀ setting, value? config setting = value? config' setting)
    (htemperature : config.temperature = config'.temperature)
    (hmaxTokens : config.maxTokens = config'.maxTokens)
    (hextension : config.extension = config'.extension) : config = config' := by
  cases config
  cases config'
  simp only [GatewayConfig.mk.injEq]
  exact ⟨Option.some.inj (hvalue host), Option.some.inj (hvalue workspaceId),
    Option.some.inj (hvalue environmentId), Option.some.inj (hvalue resourceId), hvalue apiKey,
    Option.some.inj (hvalue model), htemperature, hmaxTokens, hextension⟩

/-- The variables are read one after the other, and the first that is not text fails the
configuration. -/
theorem ofEnvironment_eq (env : Environment) :
    GatewayConfig.ofEnvironment env =
      match all.findSome? (notText? env) with
      | some value => .error (.notText value)
      | none => .ok (configOf (text? env)) := by
  have hsetting (setting : Setting) (default : String) :
      env.setting setting.variableName default =
        match setting.notText? env with
        | some value => .error (.notText value)
        | none => .ok ((setting.text? env).getD default) := by
    rw [Environment.setting, lookup_eq]
    cases setting.notText? env with
    | some value => rfl
    | none => cases text? env setting <;> rfl
  rw [GatewayConfig.ofEnvironment, show env.setting "VMX_AI_HOST" _ = _ from hsetting host _,
    show env.setting "VMX_AI_WORKSPACE_ID" _ = _ from hsetting workspaceId _,
    show env.setting "VMX_AI_ENVIRONMENT_ID" _ = _ from hsetting environmentId _,
    show env.setting "VMX_AI_RESOURCE_ID" _ = _ from hsetting resourceId _,
    show env.setting "VMX_AI_MODEL" _ = _ from hsetting model _,
    show env.lookup "VMX_AI_API_KEY" _ _ = _ from lookup_eq env apiKey _]
  simp only [all, List.findSome?_cons, List.findSome?_nil, Option.or_none]
  -- behind the first that is not text no variable matters
  cases notText? env host with
  | some value => rfl
  | none =>
  cases notText? env workspaceId with
  | some value => rfl
  | none =>
  cases notText? env environmentId with
  | some value => rfl
  | none =>
  cases notText? env resourceId with
  | some value => rfl
  | none =>
  cases notText? env apiKey with
  | some value => rfl
  | none => cases notText? env model <;> rfl

end Setting

/-! ## What the flags and the environment ask for -/

namespace Options

open Setting (notText? text?)

/-- The value of a setting: what the flag says, or else the variable, or else the default. -/
def resolve (o : Options) (env : Environment) (setting : Setting) : Option String :=
  (setting.option? o).or ((text? env setting).or setting.default?)

theorem value?_overriding (o : Options) (config : GatewayConfig) (setting : Setting) :
    setting.value? (o.overriding config) = (setting.option? o).or (setting.value? config) := by
  cases setting with
  | apiKey => rfl
  | host | workspaceId | environmentId | resourceId | model => exact Option.or_some.symm

/-- What there is but for the settings is up to the flags. -/
structure KeepsFlags (o : Options) (config : GatewayConfig) : Prop where
  temperature : config.temperature = o.temperature
  maxTokens : config.maxTokens = o.maxTokens
  extension : config.extension = if o.extension.isEmpty then none else some o.extension

/-- If every variable is text or unset, the settings have the values that the flags and the
environment give them. -/
theorem config_eq_ok_iff {o : Options} {env : Environment} {config : GatewayConfig} :
    o.config env = .ok config ↔
      (∀ setting, notText? env setting = none) ∧
      (∀ setting, Setting.value? config setting = o.resolve env setting) ∧ o.KeepsFlags config := by
  let made := (o.overriding (Setting.configOf (text? env))).withExtension o.extension
  have hmade (setting : Setting) : Setting.value? made setting = o.resolve env setting := by
    rw [resolve, ← Setting.value?_configOf, ← value?_overriding]
    cases setting <;> rfl
  have hflags : o.KeepsFlags made := ⟨Option.or_none, Option.or_none, rfl⟩
  rw [Options.config, Setting.ofEnvironment_eq]
  cases hfirst : Setting.all.findSome? (notText? env) with
  | some value =>
    obtain ⟨setting, -, hvalue⟩ := List.exists_of_findSome?_eq_some hfirst
    simp only [Except.map, reduceCtorEq, false_iff]
    rintro ⟨hnone, -⟩
    simp [hnone setting] at hvalue
  | none =>
    have hnone (setting : Setting) : notText? env setting = none :=
      List.findSome?_eq_none_iff.mp hfirst setting setting.mem_all
    simp only [Except.map, Except.ok.injEq]
    constructor
    · rintro rfl
      exact ⟨hnone, hmade, hflags⟩
    · rintro ⟨-, hvalue, h⟩
      exact Setting.config_ext (fun setting => (hmade setting).trans (hvalue setting).symm)
        (hflags.temperature.trans h.temperature.symm) (hflags.maxTokens.trans h.maxTokens.symm)
        (hflags.extension.trans h.extension.symm)

theorem config_eq_error_iff {o : Options} {env : Environment} {e : EnvironmentError} :
    o.config env = .error e ↔
      ∃ value, Setting.all.findSome? (notText? env) = some value ∧ e = .notText value := by
  rw [config, Setting.ofEnvironment_eq]
  cases Setting.all.findSome? (notText? env) with
  | some value => simp [Except.map, eq_comm]
  | none => simp [Except.map]

/-- **Where the environment is text, flags win over it.** A setting has the value of its flag, or
else the text of its variable if that is not blank, or else its default. The first variable that is
not text fails the configuration, whatever the flags; with the flag of a setting given, nothing else
of its variable matters. -/
theorem config_eq_of_flag (o : Options) (env : Environment) :
    (∀ config, o.config env = .ok config → ∀ setting, Setting.value? config setting =
      (setting.option? o).or ((text? env setting).or setting.default?)) ∧
    (∀ e, o.config env = .error e ↔
      ∃ value, Setting.all.findSome? (notText? env) = some value ∧ e = .notText value) ∧
    (∀ setting, setting.option? o ≠ none → ∀ env' : Environment,
      (∀ other, other ≠ setting → env other.variableName = env' other.variableName) →
      notText? env setting = none → notText? env' setting = none →
      o.config env = o.config env') := by
  refine ⟨fun config h => (config_eq_ok_iff.mp h).2.1, fun e => config_eq_error_iff, ?_⟩
  intro setting hflag env' hothers henv henv'
  have hnotText (other : Setting) : notText? env other = notText? env' other := by
    by_cases h : other = setting
    · rw [h, henv, henv']
    · rw [notText?, notText?, hothers other h]
  have hresolve (other : Setting) : o.resolve env other = o.resolve env' other := by
    by_cases h : other = setting
    · obtain ⟨value, hvalue⟩ := Option.ne_none_iff_exists'.mp hflag
      rw [resolve, resolve, h, hvalue, Option.some_or, Option.some_or]
    · rw [resolve, resolve, text?, text?, hothers other h]
  cases houtcome : o.config env' with
  | error e =>
    rw [config_eq_error_iff, funext hnotText]
    exact config_eq_error_iff.mp houtcome
  | ok config =>
    obtain ⟨hnone, hvalue, hflags⟩ := config_eq_ok_iff.mp houtcome
    exact config_eq_ok_iff.mpr ⟨fun other => (hnotText other).trans (hnone other),
      fun other => (hvalue other).trans (hresolve other).symm, hflags⟩

/-- A host that both a flag and a variable name, and a model that only a variable does. -/
theorem config_eq_of_host_flag :
    let o : Options := { host := some "http://a" }
    let model := ("VMX_AI_MODEL", Bytes.ofString "m")
    let env := Environment.ofList [("VMX_AI_HOST", Bytes.ofString "http://b"), model]
    let env' := Environment.ofList [model]
    Setting.host.option? o ≠ none ∧
    (∀ other, other ≠ Setting.host → env other.variableName = env' other.variableName) ∧
    notText? env .host = none ∧ notText? env' .host = none ∧ o.config env = o.config env' ∧
    ∃ config, o.config env = .ok config ∧ Setting.value? config .host = some "http://a" ∧
      Setting.value? config .model = some "m" ∧ Setting.value? config .apiKey = none := by
  intro o model env env'
  obtain ⟨hvalue, -, hsame⟩ := config_eq_of_flag o env
  have hothers (other : Setting) (hne : other ≠ .host) :
      env other.variableName = env' other.variableName := by
    cases other <;> first | exact absurd rfl hne | rfl
  have hflag : Setting.host.option? o ≠ none := nofun
  have hok : ∃ config, o.config env = .ok config := ⟨_, rfl⟩
  obtain ⟨config, hok⟩ := hok
  exact ⟨hflag, hothers, rfl, rfl, hsame .host hflag env' hothers rfl rfl, config, hok,
    hvalue config hok .host, hvalue config hok .model, hvalue config hok .apiKey⟩

/-- A variable that is not text fails the configuration although its flag is given, and without the
variable the flag is followed. -/
theorem config_ne_of_host_not_text :
    let o : Options := { host := some "http://h" }
    let env := Environment.ofList [("VMX_AI_HOST", [0xFF])]
    let env' := Environment.ofList []
    (∀ other, other ≠ Setting.host → env other.variableName = env' other.variableName) ∧
    o.config env = .error (.notText [0xFF]) ∧
    ∃ config, o.config env' = .ok config ∧ config.host = "http://h" := by
  intro o env env'
  refine ⟨fun other hne => ?_, rfl, _, rfl, rfl⟩
  cases other <;> first | exact absurd rfl hne | rfl

end Options

end CommandLine

end ToolAgent
