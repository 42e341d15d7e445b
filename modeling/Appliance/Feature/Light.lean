-- SUMMARY: Lights: what an item reports about one, and the state that is kept of it.

import Appliance.Json
import Appliance.Tracked

namespace Appliance

/-! ## Lights

A diffuser light has a mode. The color mode shows a plain color; the other
modes of the list show an effect. A mode outside the list shows none. -/

/-- The state of a light, as far as it is known. -/
structure Light where
  luminance : Option Int64 := none
  rgb : Option Int64 := none
  temperature : Option Int64 := none
  effect : Option String := none
deriving DecidableEq, Repr, Inhabited

/-- What one item reports about a light. -/
structure Light.Report where
  power : Option Bool
  luminance : Option Int64
  rgb : Option Int64
  temperature : Option Int64
  /-- The diffuser mode. -/
  mode : Option Int64
deriving DecidableEq, Repr

namespace Light

/-- The mode that shows a plain color. -/
def colorMode : Int64 := 1

/-- The names of the diffuser modes, from mode zero on. -/
def modeNames : List String := ["Rainbow", "Color", "Temperature"]

/-- The name of a diffuser mode. -/
def modeName? (mode : Int64) : Option String :=
  if mode < 0 then none else modeNames[mode.toInt.toNat]?

/-- The effect that a diffuser mode shows. -/
def effectOf (mode : Int64) : Option String :=
  if mode = colorMode then none else modeName? mode

namespace Report

/-- The report of an item. Only diffusers have a mode. -/
def ofItem (isDiffuser : Bool) (item : Json) : Report where
  power := item.flagAt? "onoff"
  luminance := item.int64At? "luminance"
  rgb := item.int64At? "rgb"
  temperature := item.int64At? "temperature"
  mode := if isDiffuser then item.int64At? "mode" else none

/-- Nothing is reported. -/
def isEmpty (r : Report) : Bool :=
  r.power.isNone && r.luminance.isNone && r.rgb.isNone && r.temperature.isNone && r.mode.isNone

/-- The reported mode, if it is outside the list. -/
def unknownMode? (r : Report) : Option Int64 := r.mode.filter fun m => (modeName? m).isNone

end Report

/-- The state after a report. -/
def revise (l : Light) (r : Report) : Tracked Light := do
  let luminance ← assign l.luminance (r.luminance.map some)
  let rgb ← assign l.rgb (r.rgb.map some)
  let temperature ← assign l.temperature (r.temperature.map some)
  let effect ← assign l.effect (r.mode.map effectOf)
  return { luminance, rgb, temperature, effect }

end Light

end Appliance
