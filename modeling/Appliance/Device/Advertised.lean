-- SUMMARY: The entities that a descriptor advertises, and the device that is built from it.

import Appliance.Device.Inbound

namespace Appliance

/-! ## Members -/

/-- An entity that a device has from the start, and the namespace it is
    registered for. -/
structure Member where
  entity : Entity
  ns : Option Namespace
deriving Inhabited

namespace Member

/-- The channels that the data of a namespace names. -/
def channelsOf (ns : Namespace) (data : Option Json) : List Channel :=
  match data.map (Item.split ns) with
  | some (.ok items) => items.filterMap (·.channel)
  | some (.error _) | none => []

/-- Creates the sensor that shows whether a climate heats. -/
def outputPowerBit : UInt8 := 1

/-- Creates the sensor that shows the mode of a climate. -/
def modeStateBit : UInt8 := 2

/-- The sensors that a mask derives from the climate on a channel. -/
def derived (mask : UInt8) (channel : Channel) : List Member :=
  (if mask &&& outputPowerBit ≠ 0 then
    [⟨.binarySensor (.keyed channel Device.outputPowerKey), none⟩] else []) ++
  (if mask &&& modeStateBit ≠ 0 then
    [⟨.stateSensor (.keyed channel Device.modeStateKey), none⟩] else [])

/-- A climate with its temperature sensor and its derived sensors. -/
def thermostat (mask : UInt8) (channel : Channel) : List Member :=
  [⟨.climate (.channel channel) .thermostat, some .thermostatMode⟩,
    ⟨.sensor (.keyed channel "temperature") Climate.scale, some .thermostatMode⟩] ++
  derived mask channel

/-- The members that a digest speaks of. -/
def ofDigest (mask : UInt8) (digest : Json) : List Member :=
  ((channelsOf .light (digest.get? "light")).map fun c =>
    ⟨.light (.channel c) .light, some .light⟩) ++
  (if ((digest.get? "toggle").map Json.isObject).getD false then
    [⟨.switch (.channel (.int 0)) .toggle, some .toggle⟩] else []) ++
  ((channelsOf .toggleX (digest.get? "togglex")).map fun c =>
    ⟨.switch (.channel c) .toggleX, some .toggleX⟩) ++
  ((channelsOf .diffuserLight (digest.descend? ["diffuser", "light"])).map fun c =>
    ⟨.diffuserLight (.channel c), some .diffuserLight⟩) ++
  ((channelsOf .diffuserSpray (digest.descend? ["diffuser", "spray"])).map fun c =>
    ⟨.diffuserSpray (Device.defaultId .diffuserSpray c), some .diffuserSpray⟩) ++
  ((channelsOf .thermostatMode (digest.descend? ["thermostat", "mode"])).flatMap
    (thermostat mask))

/-- The members of a device. A player is known from the ability alone. -/
def ofDescriptor (mask : UInt8) (descriptor : Descriptor) : List Member :=
  ofDigest mask descriptor.digest ++
  (if descriptor.ability.contains .mp3 then
    [⟨.mediaPlayer (.keyed (.int 0) "mp3"), some .mp3⟩] else [])

end Member

/-! ## Building a device -/

namespace Device

/-- Adds a member. Where the id is taken, what has it is registered. -/
def join (d : Device) (m : Member) : Device :=
  match m.ns with
  | some ns => d.addAndRegister m.entity ns
  | none =>
    match d.add m.entity with
    | .ok d => d
    | .error _ => d

/-- Gives a namespace a reader of its own, if the device has the namespace. -/
def readApart (d : Device) (ns : Namespace) : Device :=
  { d with dispatcher := (d.dispatcher.registerCustom ns).2 }

/-- The device with its members, of which nothing is known yet. -/
def furnish (mask : UInt8) (descriptor : Descriptor) : Device :=
  let d := (Member.ofDescriptor mask descriptor).foldl join (blank descriptor mask)
  [.diffuserSensor, .sensorLatest, .sensorLatestX].foldl readApart d

/-- Builds a device from its descriptor and takes in the digest. -/
def build (mask : UInt8) (descriptor : Descriptor) : Outcome Unit :=
  parseDigest descriptor.digest (furnish mask descriptor)

end Device

end Appliance
