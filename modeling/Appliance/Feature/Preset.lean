-- SUMMARY: The presets of thermostats: which raw mode selects which.

import Appliance.Tracked

namespace Appliance

/-! ## Presets -/

/-- The presets of a thermostat, each with the mode that selects it. Of two
    pairs with the same mode, or the same name, the first counts. -/
structure Presets where
  pairs : List (Int64 × String)
deriving DecidableEq, Repr, Inhabited

namespace Presets

/-- The preset that a mode selects. -/
def preset? (p : Presets) (mode : Int64) : Option String := p.pairs.lookup mode

/-- The mode that selects a preset. -/
def mode? (p : Presets) (preset : String) : Option Int64 :=
  (p.pairs.find? (·.2 == preset)).map (·.1)

/-- The presets of a radiator valve. -/
def mts100 : Presets :=
  ⟨[(0, "custom"), (1, "comfort"), (2, "sleep"), (3, "auto"), (4, "away")]⟩

/-- The presets of a wall thermostat. -/
def mts200 : Presets :=
  ⟨[(0, "comfort"), (1, "sleep"), (2, "away"), (3, "auto"), (4, "custom")]⟩

/-- The presets behind the thermostat namespace, which wall thermostats alone carry. -/
def thermostat : Presets := mts200

end Presets

/-! ## Selections -/

/-- The mode that a thermostat is in, if known, and the preset that goes with it. -/
structure Selection where
  mode : Option Int64 := none
  preset : Option String := none
  presets : Presets
deriving DecidableEq, Repr, Inhabited

namespace Selection

/-- Selects a mode. The preset follows it. -/
def select (s : Selection) (mode : Int64) : Tracked Selection :=
  if s.mode == some mode then ⟨s, false⟩
  else ⟨{ s with mode := some mode, preset := s.presets.preset? mode }, true⟩

/-- No mode is known. -/
def clear (s : Selection) : Selection := { presets := s.presets }

end Selection

end Appliance
