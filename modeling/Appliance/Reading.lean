-- SUMMARY: Readings: the measured values in the payloads of the three sensor namespaces.

import Appliance.Error
import Appliance.Feature.Measure

namespace Appliance

/-! ## Readings

A sensor payload is a list of readings and of parts that cannot be read, in
the order in which they stand. A part that cannot be read does not keep the
others from being read. -/

/-- A measured value. -/
structure Reading where
  id : EntityId
  /-- The scale of the sensor, if it has to be made. -/
  scale : Float
  value : Float
  /-- The attributes that come with the value; `none` leaves those of the
      sensor alone. -/
  attributes : Option (List (String × Json))
  /-- The channel whose climate takes the value as its humidity. -/
  humidityOf : Option Channel
deriving Inhabited

/-- A part of a sensor payload: a reading, or what is wrong with it. -/
abbrev Reading.Part := Except Fault Reading

namespace Reading

/-- The key of the sensor for a kind of reading. -/
def sensorKey (key : String) : String := "sensor_" ++ key

/-- Fields beside the readings that hold times. -/
def isTime (name : String) : Bool := name = "timestamp" || name = "timestampMs"

/-! ### Diffusers

A diffuser reports humidity and temperature in tenths. The two sensors belong
to no channel. -/

def ofDiffuser (payload : Json) : List Part :=
  ["humidity", "temperature"].filterMap fun key =>
    (payload.get? key).map fun sensor =>
      match sensor.floatAt? "value" with
      | some value => .ok ⟨.key key, 10.0, value, none, none⟩
      | none => .error (.withoutValue key)

/-! ### Latest values

Each item is about a channel and lists values, which are objects with a
reading in each field. -/

/-- The reading in a field of a value. -/
def ofField (channel : Channel) (key : String) (j : Json) : Part :=
  match j.asFloat? with
  | none => .error (.notNumeric key)
  | some value =>
    .ok {
      id := .keyed channel (sensorKey key)
      scale := Measure.scaleOf key
      value
      attributes := none
      humidityOf := if key = "humi" then some channel else none }

/-- The readings in a value. What is no object has none. -/
def ofValue (channel : Channel) (j : Json) : List Part :=
  (j.asFields?.getD []).filterMap fun (key, j) =>
    if isTime key then none else some (ofField channel key j)

/-- The readings in an item. -/
def ofLatest (item : Json) : List Part :=
  match (item.get? "channel").bind Channel.ofJson? with
  | none => [.error .itemWithoutChannel]
  | some channel =>
    match (item.get? "value").bind Json.asItems? with
    | none => [.error .missingValueList]
    | some values => values.flatMap (ofValue channel)

/-! ### Latest samples

Each item is about a channel and holds an object with a list of samples in
each field. The first sample counts; what it holds beside the value and the
times becomes the attributes of the sensor. -/

def attributesOf (sample : Json) : List (String × Json) :=
  (sample.asFields?.getD []).filter fun (name, _) => name ≠ "value" && !isTime name

/-- The reading in a field of an item. Where there is no sample there is none. -/
def ofSamples (channel : Channel) (key : String) (samples : Json) : Option Part :=
  match samples.asItems? with
  | some (sample :: _) =>
    match sample.floatAt? "value" with
    | none => some (.error (.withoutValue key))
    | some value =>
      some (.ok {
        id := .keyed channel (sensorKey key)
        scale := Measure.scaleOf key
        value
        attributes := some (attributesOf sample)
        humidityOf := none })
  | _ => none

/-- The readings in an item. -/
def ofLatestSamples (item : Json) : List Part :=
  match (item.get? "channel").bind Channel.ofJson?, (item.get? "data").bind Json.asFields? with
  | some channel, some data => data.filterMap fun (key, samples) => ofSamples channel key samples
  | _, _ => [.error .missingChannelOrData]

/-! ### Payloads -/

/-- The parts of a payload of one of the three namespaces. -/
def ofPayload (ns : Namespace) (payload : Json) : Except Fault (List Part) :=
  match ns with
  | .diffuserSensor => .ok (ofDiffuser payload)
  | .sensorLatest | .sensorLatestX =>
    match (payload.get? "latest").bind Json.asItems? with
    | none => .error .missingLatest
    | some items =>
      .ok (items.flatMap (if ns = .sensorLatest then ofLatest else ofLatestSamples))
  | .systemAll | .systemAbility | .toggle | .toggleX | .light | .diffuserLight | .diffuserSpray
  | .thermostatMode | .mp3 => .ok []

end Reading

end Appliance
