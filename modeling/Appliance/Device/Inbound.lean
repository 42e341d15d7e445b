-- SUMMARY: Inbound messages: how digests, items and readings reach the entities of a device.

import Appliance.Device
import Appliance.Payload
import Appliance.Reading

namespace Appliance

namespace Device

/-! ## Warnings -/

def warnMalformed (ns : Namespace) (error : Error) : Action Unit :=
  .warn (.malformed ns error)

def warnUndefined (ns : String) (payload : Json) : Action Unit :=
  .warn (.undefined ns payload)

/-! ## Derived climate sensors

Two sensors on the channel of a climate may show whether it heats and what
mode it is in. They follow the climate and have no registrations. -/

def outputPowerKey : String := "output_power_state"

def modeStateKey : String := "mode_state"

/-- The climate that the derived sensors of a channel follow. Without any
    derived sensors, or while the climate is unavailable, they follow none. -/
def leader? (d : Device) (channel : Channel) : Option Entity :=
  if d.climateSensors = 0 then none
  else (d.entity? (.channel channel)).filter fun e => e.kind = .climate && e.status.available

/-- What the mode sensor shows beside the mode. -/
def leaderAttributes (climate : Entity) : List (String × Json) :=
  (climate.preset?.map fun p => ("preset", .str p)).toList ++
    (climate.target?.map fun t => ("target_temperature", .ofFloat t)).toList

/-- The sensor of the heating follows, if it is known whether there is any. -/
def followHeating (channel : Channel) : Option Bool → Action Unit
  | some on => change (.keyed channel outputPowerKey) (·.updatePower on)
  | none => pure ()

/-- The mode sensor follows. -/
def followMode (channel : Channel) (climate : Entity) : Action Unit :=
  change (.keyed channel modeStateKey)
    (·.updateStateWith (Climate.activity climate.power? climate.heating?)
      (leaderAttributes climate))

/-- Brings the derived sensors of a channel in line with its climate. -/
def syncClimateSensors (channel : Channel) : Action Unit := do
  match (← Action.device).leader? channel with
  | none => pure ()
  | some climate =>
    followHeating channel climate.heating?
    followMode channel climate

/-! ## Items -/

/-- The id of the entity that is made for a channel. A spray shares its
    channel with a light and is told apart by its key. -/
def defaultId (kind : Kind) (channel : Channel) : EntityId :=
  if kind = .diffuserSpray then .keyed channel "spray" else .channel channel

/-- Applies an item to an entity, if it is there. -/
def parseEntity (ns : Namespace) (body : Json) (id : EntityId) : Action Unit := do
  match ← update id (·.parse ns body) with
  | some (.error error) => warnMalformed ns error
  | some (.ok _) | none => pure ()

/-- Only thermostat items concern the derived sensors of their channel. -/
def syncAfter (ns : Namespace) (channel : Channel) : Action Unit :=
  if ns = .thermostatMode then syncClimateSensors channel else pure ()

/-- Passes an item on to whoever it is for. -/
def dispatchItem (ns : Namespace) (item : Item) : Action Unit := do
  match item.channel with
  | none => warnMalformed ns (.payload ns .itemWithoutChannel)
  | some channel =>
    match (← Action.device).dispatcher.lookup ns channel with
    | .found ids =>
      .forEach ids (parseEntity ns item.body)
      syncAfter ns channel
    | .notFound (.createDefault kind) =>
      let id := defaultId kind channel
      .modify (·.addAndRegister (.ofKind kind id ns) ns)
      parseEntity ns item.body id
    | .notFound .logOnly => warnUndefined ns.name item.body
    | .notFound .ignore => pure ()

/-- Passes on items, or tells why there are none. -/
def dispatchItems (ns : Namespace) : Except Error (List Item) → Action Unit
  | .ok items => .forEach items (dispatchItem ns)
  | .error error => warnMalformed ns error

/-! ## Digests -/

/-- Where a digest holds the data of which namespace. -/
def digestRoutes : List (List String × Namespace) :=
  [(["light"], .light), (["toggle"], .toggle), (["togglex"], .toggleX),
    (["diffuser", "light"], .diffuserLight), (["diffuser", "spray"], .diffuserSpray),
    (["thermostat", "mode"], .thermostatMode)]

/-- Passes on what a digest holds for one namespace. -/
def parseRoute (digest : Json) (path : List String) (ns : Namespace) : Action Unit :=
  match digest.descend? path with
  | some data => dispatchItems ns (Item.split ns data)
  | none => pure ()

/-- Passes on all that a digest holds. -/
def parseDigest (digest : Json) : Action Unit :=
  .forEach digestRoutes fun (path, ns) => parseRoute digest path ns

/-! ## Readings -/

/-- The sensor with an id, made if there is none. It has no registrations. -/
def ensureSensor (d : Device) (id : EntityId) (scale : Float) : Device :=
  if d.entities.contains id then d
  else { d with entities := d.entities.insert id (.sensor id scale) }

/-- Gives a humidity to what a channel has, if that is a climate. -/
def giveHumidity (humidity : Float) (e : Entity) : Entity.Change Bool :=
  if e.kind = .climate then e.updateHumidity humidity else e.keep false

/-- Passes the humidity that a sensor shows on to the climate of a channel. -/
def shareHumidity (sensor : EntityId) (channel : Channel) : Action Unit := do
  match ((← Action.device).entity? sensor).bind (·.native?) with
  | some humidity => change (.channel channel) (giveHumidity humidity)
  | none => pure ()

/-- Takes a reading into its sensor. -/
def measure (r : Reading) (e : Entity) : Entity.Change Bool :=
  match r.attributes with
  | some attributes => e.updateDeviceWith r.value attributes
  | none => e.updateDevice r.value

/-- Takes in a reading, and a humidity also into the climate. -/
def applyReading (r : Reading) : Action Unit := do
  .modify (·.ensureSensor r.id r.scale)
  change r.id (measure r)
  match r.humidityOf with
  | some channel => shareHumidity r.id channel
  | none => pure ()

/-- Takes in a part of a sensor payload. -/
def applyPart (ns : Namespace) : Reading.Part → Action Unit
  | .ok r => applyReading r
  | .error fault => warnMalformed ns (.payload ns fault)

/-- Takes in a sensor payload. -/
def applyReadings (ns : Namespace) (payload : Json) : Action Unit :=
  match Reading.ofPayload ns payload with
  | .ok parts => .forEach parts (applyPart ns)
  | .error fault => warnMalformed ns (.payload ns fault)

/-! ## Messages -/

/-- Passes on a payload of a namespace that is not about the system. -/
def dispatchNamespace (ns : Namespace) (payload : Json) : Action Unit := do
  if (← Action.device).dispatcher.isCustom ns then applyReadings ns payload
  else dispatchItems ns (Item.ofPayload ns payload)

/-- Takes in a summary of the device. Its digest is kept once it has been
    passed on. -/
def dispatchSummary (payload : Json) : Action Unit :=
  match payload.descend? ["all", "digest"] with
  | some digest => do
    parseDigest digest
    .modify fun d => { d with descriptor := { d.descriptor with digest } }
  | none => warnMalformed .systemAll (.payload .systemAll .missingDigest)

/-- Passes on a payload. -/
def dispatch (header : Header) (payload : Json) : Action Unit :=
  match header.known? with
  | some .systemAll => dispatchSummary payload
  | some .systemAbility => pure ()
  | some ns => dispatchNamespace ns payload
  | none => warnUndefined header.ns payload

/-- Takes in a message. Devices speak of themselves in pushes and in answers
    to requests. -/
def handle (m : Message) : Action Unit :=
  match m.header.method with
  | .push | .getAck => dispatch m.header m.payload
  | .error => .warn (.replied m.header.ns m.payload)
  | .get | .set | .setAck => pure ()

end Device

end Appliance
