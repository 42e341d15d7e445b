-- SUMMARY: Payloads: the ones that requests carry, and the items of the ones that come in.

import Appliance.Error

namespace Appliance

/-! ## Outgoing payloads -/

namespace Payload

/-- What is asked for by a request to get a namespace. -/
def get (ns : Namespace) : Json :=
  match ns with
  | .systemAll | .systemAbility | .diffuserSensor => .obj []
  | .sensorLatest | .sensorLatestX =>
    .obj [(ns.key, .arr [.obj [("channel", .int 0)]])]
  | .toggle | .toggleX | .light | .diffuserLight | .diffuserSpray | .thermostatMode | .mp3 =>
    .obj [(ns.key, .arr [])]

/-- Turns a channel on or off. Two namespaces take a list of items. -/
def power (ns : Namespace) (channel : Channel) (on : Bool) : Json :=
  let item := Json.ofFields [("channel", channel.toJson), ("onoff", .int on.toInt)]
  match ns with
  | .diffuserLight | .thermostatMode => .obj [(ns.key, .arr [item])]
  | _ => .obj [(ns.key, item)]

/-- Sets the mode of a thermostat. -/
def mode (channel : Channel) (mode : Int64) : Json :=
  .obj [("mode", .arr [Json.ofFields [("channel", channel.toJson), ("mode", .ofInt64 mode)]])]

/-- Sets the mode of a spray. -/
def spray (channel : Channel) (mode : Int64) : Json :=
  .obj [("spray", .arr [Json.ofFields [("channel", channel.toJson), ("mode", .ofInt64 mode)]])]

/-- The item that sets one field of a player. -/
def playerItem (channel : Channel) (key : String) (value : Json) : Json :=
  Json.ofFields [("channel", channel.toJson), (key, value)]

/-- Sets one field of a player. -/
def player (channel : Channel) (key : String) (value : Json) : Json :=
  .obj [("mp3", playerItem channel key value)]

end Payload

/-! ## Items of a payload -/

/-- An item of a payload: the channel it names, if that can be used, and the item itself. -/
structure Item where
  channel : Option Channel
  body : Json
deriving Inhabited

namespace Item

/-- An item of a list. -/
def ofListed (body : Json) : Item := ⟨(body.get? "channel").bind Channel.ofJson?, body⟩

/-- An object that stands alone; it is about channel zero unless it names another. -/
def ofSingle (body : Json) : Item :=
  match body.get? "channel" with
  | some c => ⟨Channel.ofJson? c, body⟩
  | none => ⟨some (.int 0), body⟩

/-- The items of a namespace's data, which is a list or a single object. -/
def split (ns : Namespace) : Json → Except Error (List Item)
  | .arr items => .ok (items.map ofListed)
  | .obj fields => .ok [ofSingle (.obj fields)]
  | _ => .error (.payload ns .unexpectedShape)

/-- The items of a payload. -/
def ofPayload (ns : Namespace) (payload : Json) : Except Error (List Item) :=
  match payload.get? ns.key with
  | some data => split ns data
  | none => .error (.payload ns (.missingKey ns.key))

end Item

/-- The first item of a list that has a value in a field. -/
def Json.findItem? (list : Json) (key : String) (value : Json) : Option Json :=
  list.asItems?.bind fun items =>
    items.find? fun item =>
      match item.get? key with
      | some v => v == value
      | none => false

end Appliance
