-- SUMMARY: Commands: what is asked of an entity, the one request that it takes, and what its acknowledgement does.

import Appliance.Device.Inbound

namespace Appliance

/-! ## Transports -/

/-- Whoever carries a request to a device and brings back what it answers. -/
abbrev Transport := Request → Except Error Message

/-- Sends a request. -/
def Action.send (t : Transport) (r : Request) : Action (Except Error Message) :=
  fun d => ⟨d, [.sent r], t r⟩

/-! ## Commands -/

/-- What can be asked of an entity. -/
inductive Command where
  | power (on : Bool)
  | mode (mode : Int64)
  | preset (preset : String)
  | spray (option : String)
  | mute (on : Bool)
  /-- A level between zero and one. -/
  | volume (level : Float)
  | next
  | previous
deriving Repr, Inhabited

/-! ## Orders

A command becomes an order once it is known that the entity can take it and
which namespace and channel it goes to. -/

/-- A command in the terms of the device. -/
inductive Order where
  | power (ns : Namespace) (channel : Channel) (on : Bool)
  | mode (channel : Channel) (mode : Int64)
  | spray (channel : Channel) (option : String) (mode : Int64)
  | player (channel : Channel) (key : String) (value : Int64)
deriving DecidableEq, Repr, Inhabited

namespace Order

def ns : Order → Namespace
  | .power ns .. => ns
  | .mode .. => .thermostatMode
  | .spray .. => .diffuserSpray
  | .player .. => .mp3

def payload : Order → Json
  | .power ns channel on => Payload.power ns channel on
  | .mode channel m => Payload.mode channel m
  | .spray channel _ m => Payload.spray channel m
  | .player channel key value => Payload.player channel key (.ofInt64 value)

/-- The request that gives the order. -/
def request (o : Order) : Request := ⟨o.ns, .set, o.payload⟩

end Order

namespace Device

/-- The entity that a command is for. -/
def find (d : Device) (id : EntityId) : Except Error Entity :=
  match d.entity? id with
  | some e => .ok e
  | none => .error (.unknownEntity id.text)

/-- The channel that a command goes to. -/
def channelOf (id : EntityId) : Except Error Channel :=
  match id.channel? with
  | some c => .ok c
  | none => .error (.unsupported (.noChannel id))

/-- The entity can be turned on and off by a command. -/
def isToggle (kind : Kind) : Bool :=
  match kind with
  | .switch | .light | .diffuserLight | .climate => true
  | .sensor | .binarySensor | .stateSensor | .diffuserSpray | .mediaPlayer => false

/-- The namespace by which an entity is turned on and off. A light that is
    registered for extended toggles is switched by them. -/
def powerNamespace? (e : Entity) : Option Namespace :=
  if e.kind = .light && e.namespaces.contains .toggleX then some .toggleX else e.commandedBy

def orderPower (d : Device) (id : EntityId) (on : Bool) : Except Error Order := do
  let e ← d.find id
  if isToggle e.kind then
    match powerNamespace? e with
    | some ns => return .power ns (← channelOf id) on
    | none => .error (.unsupported (.noOnoff id))
  else .error (.unsupported (.notToggle id))

def orderMode (d : Device) (id : EntityId) (mode : Int64) : Except Error Order := do
  let e ← d.find id
  if e.kind = .climate then return .mode (← channelOf id) mode
  else .error (.unsupported (.noThermostatMode id))

def orderPreset (d : Device) (id : EntityId) (preset : String) : Except Error Order := do
  let e ← d.find id
  match e.status.selection.bind (·.presets.mode? preset) with
  | some mode => d.orderMode id mode
  | none => .error (.unsupported (.unknownPreset preset id))

def orderSpray (d : Device) (id : EntityId) (option : String) : Except Error Order := do
  let e ← d.find id
  if e.kind = .diffuserSpray then
    match Spray.mode? option with
    | some mode => return .spray (← channelOf id) option mode
    | none => .error (.unsupported (.unknownSprayOption option))
  else .error (.unsupported (.notSpray id))

/-- Sets a field of a player to a value that may hang on the track it plays. -/
def orderPlayer (d : Device) (id : EntityId) (key : String)
    (value : Option Int64 → Int64) : Except Error Order := do
  let e ← d.find id
  if e.kind = .mediaPlayer then return .player (← channelOf id) key (value e.track?)
  else .error (.unsupported (.notPlayer id))

/-- The order that a command comes to. -/
def order (d : Device) (id : EntityId) : Command → Except Error Order
  | .power on => d.orderPower id on
  | .mode mode => d.orderMode id mode
  | .preset preset => d.orderPreset id preset
  | .spray option => d.orderSpray id option
  | .mute on => d.orderPlayer id "mute" fun _ => if on then 1 else 0
  | .volume level => d.orderPlayer id "volume" fun _ => Player.volumeStep level
  | .next => d.orderPlayer id "song" Player.nextSong
  | .previous => d.orderPlayer id "song" Player.previousSong

/-! ## Acknowledgement

An order that the device has accepted shows at the entity at once, without
waiting for the device to speak of it. -/

/-- Lets an accepted order show. A player takes it as an item of the device. -/
def carryOut (id : EntityId) : Order → Action (Except Error Unit)
  | .power ns channel on => do
    change id (·.updatePower on)
    syncAfter ns channel
    return .ok ()
  | .mode channel mode => do
    change id (·.updateMode mode)
    syncClimateSensors channel
    return .ok ()
  | .spray _ option _ => do
    change id (·.updateState option)
    return .ok ()
  | .player channel key value => do
    match ← update id (·.parse .mp3 (Payload.playerItem channel key (.ofInt64 value))) with
    | some (.error error) => return .error error
    | some (.ok _) | none => return .ok ()

/-- Gives a command: the request goes out if the entity can take it, and shows
    once the device accepts it. -/
def command (t : Transport) (id : EntityId) (c : Command) : Action (Except Error Unit) := do
  match (← Action.device).order id c with
  | .error error => return .error error
  | .ok order =>
    match ← Action.send t order.request with
    | .error error => return .error error
    | .ok answer =>
      if answer.acknowledges .set then carryOut id order
      else return .error (.notAcknowledged order.ns)

/-! ## Polls -/

/-- A device that is not reached loses all its values. -/
def noteFailure (error : Error) : Action Unit :=
  if error.isUnreachable then setUnavailable else pure ()

/-- Asks for a namespace and takes in the answer. -/
def poll (t : Transport) (ns : Namespace) : Action (Except Error Unit) := do
  match ← Action.send t ⟨ns, .get, Payload.get ns⟩ with
  | .error error =>
    noteFailure error
    return .error error
  | .ok answer =>
    if answer.acknowledges .get then
      handle answer
      return .ok ()
    else return .error (.notAcknowledged ns)

end Device

end Appliance
