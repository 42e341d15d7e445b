-- SUMMARY: Items: one part of a payload applied to the entity it is about.

import Appliance.Entity
import Appliance.Feature.Spray

namespace Appliance

/-! ## Items

An item is applied as a single change. What it must hold depends on the kind
of the entity and on the namespace it comes from: toggles reach everything
that can be on, thermostat items also feed a temperature sensor. -/

namespace Entity

/-- The item cannot be used. -/
def reject (e : Entity) (error : Error) : Change (Except Error Bool) := e.keep (.error error)

/-- A toggle item. -/
def applyToggle (ns : Namespace) (item : Json) (e : Entity) : Change (Except Error Bool) :=
  match item.flagAt? "onoff" with
  | some on => (e.updatePower on).map .ok
  | none => e.reject (.payload ns .missingOnoff)

/-- An item for a light. A mode outside the list is told as an error after the
    rest of the item has been applied. -/
def applyLight (ns : Namespace) (item : Json) (e : Entity) : Change (Except Error Bool) :=
  let report := Light.Report.ofItem (e.kind = .diffuserLight) item
  if report.isEmpty then e.keep (.ok false)
  else
    (e.commit (e.status.reviseLight report)).map fun changed =>
      match report.unknownMode? with
      | some mode => .error (.payload ns (.unknownLightMode mode))
      | none => .ok changed

/-- An item for a spray. -/
def applySpray (ns : Namespace) (item : Json) (e : Entity) : Change (Except Error Bool) :=
  match item.int64At? "mode" with
  | none => e.reject (.payload ns .missingSprayMode)
  | some mode =>
    match Spray.option? mode with
    | none => e.reject (.payload ns (.unknownSprayMode mode))
    | some option => (e.updateState option).map .ok

/-- An item for a thermostat. -/
def applyClimate (item : Json) (e : Entity) : Change (Except Error Bool) :=
  match item.flagAt? "onoff", item.int64At? "mode" with
  | none, _ => e.reject (.payload .thermostatMode .missingOnoff)
  | some _, none => e.reject (.payload .thermostatMode .missingMode)
  | some power, some mode =>
    let report : Climate.Report :=
      { power, mode
        warning := item.get? "warning"
        min := item.floatAt? "min"
        max := item.floatAt? "max"
        current := item.floatAt? "currentTemp"
        target := item.floatAt? "targetTemp"
        active := item.flagAt? "state" }
    (e.commit (e.status.reviseClimate report)).map .ok

/-- A thermostat item for a temperature sensor. -/
def applyTemperature (item : Json) (e : Entity) : Change (Except Error Bool) :=
  match item.floatAt? "currentTemp" with
  | some x => (e.updateDevice x).map .ok
  | none => e.keep (.ok false)

/-- An item for a media player. -/
def applyPlayer (item : Json) (e : Entity) : Change (Except Error Bool) :=
  let report := Player.Report.ofItem item
  if report.isEmpty then e.keep (.ok false)
  else (e.commit (e.status.revisePlayer report)).map .ok

/-- An item for a sensor. -/
def applyValue (ns : Namespace) (item : Json) (e : Entity) : Change (Except Error Bool) :=
  match item.floatAt? "value" with
  | some x => (e.updateDevice x).map .ok
  | none => e.reject (.payload ns .missingValue)

/-- The item is a toggle item for this entity. -/
def isToggledBy (e : Entity) (ns : Namespace) : Bool :=
  (ns = .toggle || ns = .toggleX) && e.status.power.isSome

/-- Applies an item from a namespace. -/
def parse (ns : Namespace) (item : Json) (e : Entity) : Change (Except Error Bool) :=
  if e.isToggledBy ns then e.applyToggle ns item
  else
    match e.kind, ns with
    | .light, _ | .diffuserLight, _ => e.applyLight ns item
    | .diffuserSpray, _ => e.applySpray ns item
    | .climate, .thermostatMode => e.applyClimate item
    | .sensor, .thermostatMode => e.applyTemperature item
    | .mediaPlayer, .mp3 => e.applyPlayer item
    | .sensor, _ => e.applyValue ns item
    | kind, ns => e.reject (.unsupported (.cannotParse kind ns))

end Entity

end Appliance
