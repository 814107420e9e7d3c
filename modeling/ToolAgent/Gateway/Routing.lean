import ToolAgent.Json.Decoder

/-!
# Routing extension of a request

The extension rides along in the body of a request and lets that one request bypass the model and
the routing configured for its resource. Nothing that is unset is written.
-/

namespace ToolAgent

/-- A provider, model and connection to send a request to. -/
structure ModelOverride where
  provider : Option String := none
  model : Option String := none
  connectionId : Option String := none
deriving DecidableEq, Repr

/-- Parts of a resource's configuration, replaced for one request. -/
structure ResourceOverrides where
  model : Option ModelOverride := none
  fallbackModels : Option (List ModelOverride) := none
  secondaryModels : Option (List ModelOverride) := none
deriving DecidableEq, Repr

structure RoutingExtension where
  correlationId : Option String := none
  /-- Which of the resource's secondary models to use in place of the primary one. -/
  secondaryModelIndex : Option UInt32 := none
  overrides : Option ResourceOverrides := none
deriving DecidableEq, Repr

def ModelOverride.isEmpty (m : ModelOverride) : Bool :=
  m.provider.isNone && m.model.isNone && m.connectionId.isNone

def ResourceOverrides.isEmpty (o : ResourceOverrides) : Bool :=
  o.model.isNone && o.fallbackModels.isNone && o.secondaryModels.isNone

namespace RoutingExtension

def isEmpty (e : RoutingExtension) : Bool :=
  e.correlationId.isNone && e.secondaryModelIndex.isNone &&
    e.overrides.all ResourceOverrides.isEmpty

section Building

/-- Changes the overrides, which come into being if there are none yet. -/
def modifyOverrides (e : RoutingExtension) (f : ResourceOverrides → ResourceOverrides) :
    RoutingExtension :=
  { e with overrides := some (f (e.overrides.getD {})) }

/-- An empty override changes nothing. -/
def withModelOverride (e : RoutingExtension) (m : ModelOverride) : RoutingExtension :=
  if m.isEmpty then e else e.modifyOverrides ({ · with model := some m })

/-- Models to try in order when the primary one fails; none changes nothing. -/
def withFallbackModels (e : RoutingExtension) (ms : List ModelOverride) : RoutingExtension :=
  if ms.isEmpty then e else e.modifyOverrides ({ · with fallbackModels := some ms })

/-- Models that `secondaryModelIndex` counts; none changes nothing. -/
def withSecondaryModels (e : RoutingExtension) (ms : List ModelOverride) : RoutingExtension :=
  if ms.isEmpty then e else e.modifyOverrides ({ · with secondaryModels := some ms })

def withCorrelationId (e : RoutingExtension) (id : String) : RoutingExtension :=
  { e with correlationId := some id }

def withSecondaryModelIndex (e : RoutingExtension) (index : UInt32) : RoutingExtension :=
  { e with secondaryModelIndex := some index }

end Building

end RoutingExtension

section Wire

open Json (Decoder)

def ModelOverride.toJson (m : ModelOverride) : Json :=
  .obj (Json.memberOf? "provider" .str m.provider ++ Json.memberOf? "model" .str m.model ++
    Json.memberOf? "connectionId" .str m.connectionId)

def ResourceOverrides.toJson (o : ResourceOverrides) : Json :=
  let models (ms : List ModelOverride) : Json := .arr (ms.map ModelOverride.toJson)
  .obj (Json.memberOf? "model" ModelOverride.toJson o.model ++
    Json.memberOf? "fallbackModels" models o.fallbackModels ++
    Json.memberOf? "secondaryModels" models o.secondaryModels)

def RoutingExtension.toJson (e : RoutingExtension) : Json :=
  .obj (Json.memberOf? "correlationId" .str e.correlationId ++
    Json.memberOf? "secondaryModelIndex" .ofUInt32 e.secondaryModelIndex ++
    Json.memberOf? "resourceConfigOverrides" ResourceOverrides.toJson e.overrides)

def ModelOverride.decoder : Decoder ModelOverride :=
  (Decoder.record "ModelOverride" <|
    .cons (.optional "provider" .string) <|
    .cons (.optional "model" .string) <|
    .cons (.optional "connectionId" .string) .nil).map
  fun (provider, model, connectionId, ()) => { provider, model, connectionId }

def ResourceOverrides.decoder : Decoder ResourceOverrides :=
  (Decoder.record "ResourceConfigOverrides" <|
    .cons (.optional "model" ModelOverride.decoder) <|
    .cons (.optional "fallbackModels" (.list ModelOverride.decoder)) <|
    .cons (.optional "secondaryModels" (.list ModelOverride.decoder)) .nil).map
  fun (model, fallbackModels, secondaryModels, ()) => { model, fallbackModels, secondaryModels }

def RoutingExtension.decoder : Decoder RoutingExtension :=
  (Decoder.record "VmxExtension" <|
    .cons (.optional "correlationId" .string) <|
    .cons (.optional "secondaryModelIndex" .uint32) <|
    .cons (.optional "resourceConfigOverrides" ResourceOverrides.decoder) .nil).map
  fun (correlationId, secondaryModelIndex, overrides, ()) =>
    { correlationId, secondaryModelIndex, overrides }

end Wire

end ToolAgent
