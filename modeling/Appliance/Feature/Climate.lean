-- SUMMARY: Thermostats: what an item reports about one, and the temperatures that are kept of it.

import Appliance.Json
import Appliance.Tracked

namespace Appliance

/-! ## Climates

Devices report temperatures in tenths of a degree. -/

/-- The climate at a thermostat, as far as it is known. -/
structure Climate where
  current : Option Float := none
  target : Option Float := none
  min : Option Float := none
  max : Option Float := none
  humidity : Option Float := none
  heating : Option Bool := none
deriving BEq, Repr, Inhabited

/-- What one item reports about a thermostat; whether it is on and its mode
    are always reported. -/
structure Climate.Report where
  power : Bool
  mode : Int64
  warning : Option Json
  min : Option Float
  max : Option Float
  current : Option Float
  target : Option Float
  /-- The valve is open or the relay closed. -/
  active : Option Bool

namespace Climate

/-- The units in a degree. -/
def scale : Float := 10.0

/-- The attributes shown beside the state: a warning, if there is one. -/
def Report.attributes (r : Report) : List (String × Json) :=
  (r.warning.map fun w => ("warning", w)).toList

/-- A report in device units as a temperature. -/
def degrees (t : Option Float) : Option (Option Float) := t.map fun t => some (t / scale)

/-- The climate after a report. Only a thermostat that is on heats. -/
def revise (c : Climate) (r : Report) : Tracked Climate := do
  let min ← assign c.min (degrees r.min)
  let max ← assign c.max (degrees r.max)
  let current ← assign c.current (degrees r.current)
  let target ← assign c.target (degrees r.target)
  let heating ← assign c.heating (r.active.map fun active => some (active && r.power))
  return { c with min, max, current, target, heating }

/-- The climate after a reading of the humidity. -/
def reviseHumidity (c : Climate) (humidity : Float) : Tracked Climate := do
  let humidity ← assign c.humidity (some (some humidity))
  return { c with humidity }

/-- What a derived sensor shows of a thermostat's mode. -/
def activity (power heating : Option Bool) : String :=
  if power = some false then "off" else if heating = some true then "heating" else "idle"

end Climate

end Appliance
