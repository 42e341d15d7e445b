-- SUMMARY: Measured values in the device's units and in natural ones, and the scales between them.

import Appliance.Tracked

namespace Appliance

/-! ## Measures

A measure is kept twice: as the device reports it, and divided by the scale.
Whichever is set, the other is computed from it. -/

/-- A measured value, if known, in both units. -/
structure Measure where
  device : Option Float := none
  native : Option Float := none
  scale : Float
deriving BEq, Repr, Inhabited

namespace Measure

/-- Sets the value in the device's units. -/
def setDevice (m : Measure) (x : Float) : Tracked Measure :=
  if m.device == some x then ⟨m, false⟩
  else ⟨{ m with device := some x, native := some (x / m.scale) }, true⟩

/-- Sets the value in natural units. -/
def setNative (m : Measure) (x : Float) : Tracked Measure :=
  if m.native == some x then ⟨m, false⟩
  else ⟨{ m with native := some x, device := some (x * m.scale) }, true⟩

/-- No value is known. -/
def clear (m : Measure) : Measure := { scale := m.scale }

/-- The scale of a sensor, by its key. -/
def scaleOf (key : String) : Float :=
  if key = "humi" then 10.0 else if key = "temp" then 100.0 else 1.0

end Measure

end Appliance
