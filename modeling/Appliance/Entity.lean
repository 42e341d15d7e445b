-- SUMMARY: Entities: the parts of a device, how they are made, and how their status changes and is passed on.

import Appliance.Error
import Appliance.Status

namespace Appliance

/-! ## Entities -/

/-- A part of a device. -/
structure Entity where
  id : EntityId
  kind : Kind
  /-- The namespace of its commands, if it takes any. -/
  commandedBy : Option Namespace
  status : Status
  /-- The namespaces whose items it is registered for. -/
  namespaces : Table Namespace Unit
deriving Inhabited

namespace Entity

/-! ### Kinds of entities -/

/-- An entity that nothing is known of yet. -/
def fresh (id : EntityId) (kind : Kind) (commandedBy : Option Namespace) (status : Status) :
    Entity :=
  { id, kind, commandedBy, status, namespaces := .empty }

def switch (id : EntityId) (ns : Namespace) : Entity :=
  fresh id .switch ns { power := some none }

def light (id : EntityId) (ns : Namespace) : Entity :=
  fresh id .light ns { power := some none, light := some {} }

def diffuserLight (id : EntityId) : Entity :=
  fresh id .diffuserLight (some .diffuserLight) { power := some none, light := some {} }

def diffuserSpray (id : EntityId) : Entity :=
  fresh id .diffuserSpray (some .diffuserSpray) { state := some none }

def climate (id : EntityId) (presets : Presets) : Entity :=
  fresh id .climate (some .thermostatMode)
    { power := some none, selection := some { presets }, climate := some {} }

/-- A sensor whose reports are divided by a scale. -/
def sensor (id : EntityId) (scale : Float) : Entity :=
  fresh id .sensor none { measure := some { scale } }

/-- An on/off state that follows another entity. -/
def binarySensor (id : EntityId) : Entity :=
  fresh id .binarySensor none { power := some none }

/-- A named state that follows another entity. -/
def stateSensor (id : EntityId) : Entity :=
  fresh id .stateSensor none { state := some none }

def mediaPlayer (id : EntityId) : Entity :=
  fresh id .mediaPlayer (some .mp3) { state := some none, player := some {} }

/-- The entity of a kind that is made when a namespace first speaks of it. -/
def ofKind (kind : Kind) (id : EntityId) (ns : Namespace) : Entity :=
  match kind with
  | .switch => switch id ns
  | .light => light id ns
  | .diffuserLight => diffuserLight id
  | .diffuserSpray => diffuserSpray id
  | .climate => climate id .thermostat
  | .sensor => sensor id 1.0
  | .binarySensor => binarySensor id
  | .stateSensor => stateSensor id
  | .mediaPlayer => mediaPlayer id

def power? (e : Entity) : Option Bool := e.status.power.join

def state? (e : Entity) : Option String := e.status.state.join

def preset? (e : Entity) : Option String := e.status.selection.bind (·.preset)

def native? (e : Entity) : Option Float := e.status.measure.bind (·.native)

def heating? (e : Entity) : Option Bool := e.status.climate.bind (·.heating)

def target? (e : Entity) : Option Float := e.status.climate.bind (·.target)

def track? (e : Entity) : Option Int64 := e.status.player.bind (·.track)

/-! ### Changes

A change hands the entity to the listeners when its status has become
different, once, after the last edit. The listed entities are what they saw. -/

/-- What an operation on an entity leaves. -/
structure Change (α : Type) where
  entity : Entity
  /-- The entity as it was handed to the listeners. -/
  flushes : List Entity
  answer : α

namespace Change

def map {α β : Type} (f : α → β) (c : Change α) : Change β := { c with answer := f c.answer }

@[simp] theorem entity_map {α β : Type} (f : α → β) (c : Change α) :
    (c.map f).entity = c.entity := rfl

@[simp] theorem flushes_map {α β : Type} (f : α → β) (c : Change α) :
    (c.map f).flushes = c.flushes := rfl

@[simp] theorem answer_map {α β : Type} (f : α → β) (c : Change α) :
    (c.map f).answer = f c.answer := rfl

end Change

/-- Nothing happens. -/
def keep {α : Type} (e : Entity) (answer : α) : Change α := ⟨e, [], answer⟩

/-- Takes on an edited status. A value that reaches an unavailable entity
    makes it available, which is itself a change. -/
def commit (e : Entity) (s : Tracked Status) : Change Bool :=
  let changed := s.changed || !s.value.available
  let e := { e with status := { s.value with available := true } }
  ⟨e, if changed then [e] else [], changed⟩

/-! ### Updates

An update of a component that the entity does not carry does nothing. The
answer tells whether the entity changed. -/

def updatePower (on : Bool) (e : Entity) : Change Bool :=
  if e.status.power.isSome then e.commit (e.status.setPower on) else e.keep false

def updateDevice (x : Float) (e : Entity) : Change Bool :=
  if e.status.measure.isSome then e.commit (e.status.setDevice x) else e.keep false

def updateNative (x : Float) (e : Entity) : Change Bool :=
  if e.status.measure.isSome then e.commit (e.status.setNative x) else e.keep false

def updateState (text : String) (e : Entity) : Change Bool :=
  if e.status.state.isSome then e.commit (e.status.setState text) else e.keep false

def updateMode (mode : Int64) (e : Entity) : Change Bool :=
  if e.status.selection.isSome then e.commit (e.status.select mode) else e.keep false

def updateHumidity (humidity : Float) (e : Entity) : Change Bool :=
  if e.status.climate.isSome then e.commit (e.status.setHumidity humidity) else e.keep false

/-- An empty list of attributes carries no value, so it does not make an
    unavailable entity available. -/
def updateExtra (attributes : List (String × Json)) (e : Entity) : Change Bool :=
  if attributes.isEmpty && !e.status.available then e.keep false
  else e.commit (e.status.setExtra attributes)

def updateStateWith (text : String) (attributes : List (String × Json)) (e : Entity) :
    Change Bool :=
  if e.status.state.isSome then
    e.commit do
      let s ← e.status.setState text
      s.setExtra attributes
  else e.keep false

def updateDeviceWith (x : Float) (attributes : List (String × Json)) (e : Entity) :
    Change Bool :=
  if e.status.measure.isSome then
    e.commit do
      let s ← e.status.setDevice x
      s.setExtra attributes
  else e.keep false

/-- Forgets all values. Only an entity that was available is handed on. -/
def setUnavailable (e : Entity) : Change Bool :=
  let cleared := { e with status := e.status.clear }
  ⟨cleared, if e.status.available then [cleared] else [], e.status.available⟩

end Entity

end Appliance
