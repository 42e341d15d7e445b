-- SUMMARY: What is known of an entity: its availability, its components and its attributes, and the edits to them.

import Appliance.Feature.Climate
import Appliance.Feature.Light
import Appliance.Feature.Measure
import Appliance.Feature.Player
import Appliance.Feature.Preset

namespace Appliance

/-! ## Status

A status has the components that its kind of entity carries. A component that
is carried may still be unknown: `some none` is a switch whose position
nobody has told. -/

/-- What is known of an entity. -/
structure Status where
  available : Bool := false
  measure : Option Measure := none
  power : Option (Option Bool) := none
  state : Option (Option String) := none
  selection : Option Selection := none
  light : Option Light := none
  climate : Option Climate := none
  player : Option Player := none
  /-- Attributes shown beside the components. -/
  extra : List (String × Json) := []
deriving BEq, Inhabited

namespace Status

/-! ## Edits

An edit touches one component. Where the component is not carried it does
nothing. -/

def setPower (on : Bool) (s : Status) : Tracked Status := do
  let power ← Tracked.within (assign · (some (some on))) s.power
  return { s with power }

def setDevice (x : Float) (s : Status) : Tracked Status := do
  let measure ← Tracked.within (·.setDevice x) s.measure
  return { s with measure }

def setNative (x : Float) (s : Status) : Tracked Status := do
  let measure ← Tracked.within (·.setNative x) s.measure
  return { s with measure }

def setState (text : String) (s : Status) : Tracked Status := do
  let state ← Tracked.within (assign · (some (some text))) s.state
  return { s with state }

def select (mode : Int64) (s : Status) : Tracked Status := do
  let selection ← Tracked.within (·.select mode) s.selection
  return { s with selection }

/-- Replaces all attributes. -/
def setExtra (attributes : List (String × Json)) (s : Status) : Tracked Status := do
  let extra ← assign s.extra (some attributes)
  return { s with extra }

def setHumidity (humidity : Float) (s : Status) : Tracked Status := do
  let climate ← Tracked.within (·.reviseHumidity humidity) s.climate
  return { s with climate }

/-! ## Reports -/

/-- The status after a report on a light. -/
def reviseLight (r : Light.Report) (s : Status) : Tracked Status := do
  let power ← Tracked.within (assign · (r.power.map some)) s.power
  let light ← (s.light.getD {}).revise r
  return { s with power, light := some light }

/-- The status after a report on a player. What it is doing follows from
    whether it is muted. -/
def revisePlayer (r : Player.Report) (s : Status) : Tracked Status := do
  let player ← Tracked.within (·.revise r) s.player
  let state ← Tracked.within (assign · (r.mute.map fun m => some (Player.activity m))) s.state
  return { s with player, state }

/-- The status after a report on a thermostat. -/
def reviseClimate (r : Climate.Report) (s : Status) : Tracked Status := do
  let s ← s.setPower r.power
  let s ← s.select r.mode
  let s ← s.setExtra r.attributes
  let climate ← (s.climate.getD {}).revise r
  return { s with climate := some climate }

/-- Nothing is known: every component that is carried is empty. -/
def clear (s : Status) : Status where
  measure := s.measure.map (·.clear)
  power := s.power.map fun _ => none
  state := s.state.map fun _ => none
  selection := s.selection.map (·.clear)
  light := s.light.map fun _ => {}
  climate := s.climate.map fun _ => {}
  player := s.player.map fun _ => {}

end Status

end Appliance
