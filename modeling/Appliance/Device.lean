-- SUMMARY: Devices: what they advertise, the entities they have, what they tell while they work, and the registry of their entities.

import Appliance.Dispatcher
import Appliance.Entity
import Appliance.Entity.Item
import Appliance.Message

namespace Appliance

/-! ## Descriptors -/

/-- What a device advertises about itself. -/
structure Descriptor where
  uuid : String
  ability : Table Namespace Unit
  /-- The state of all features, as the device sums it up. -/
  digest : Json
deriving Inhabited

/-- Reads the payloads in which a device describes itself. Namespaces outside
    the registry are left out; a missing digest is empty. -/
def Descriptor.ofPayloads (all ability : Json) : Except Error Descriptor :=
  match (all.descend? ["all", "system", "hardware", "uuid"]).bind Json.asString? with
  | none => .error (.payload .systemAll .missingUuid)
  | some uuid =>
    match (ability.get? "ability").bind Json.asFields? with
    | none => .error (.payload .systemAbility .missingAbility)
    | some fields =>
      .ok {
        uuid
        ability := .ofKeys (fields.filterMap fun (name, _) => Namespace.ofName? name)
        digest := (all.descend? ["all", "digest"]).getD (.obj []) }

/-! ## Devices -/

/-- A device: its descriptor, its entities and the dispatcher of its messages. -/
structure Device where
  descriptor : Descriptor
  entities : Table EntityId Entity
  dispatcher : Dispatcher
  /-- Which sensors are derived from each climate, as a mask; zero is none. -/
  climateSensors : UInt8
deriving Inhabited

/-! ## Events

While a device works it hands changed entities to the listeners, warns about
what it cannot use, and sends requests. The listeners hear an entity from when
it is added until it is removed, so all that an entity of the device flushes is
an event. -/

/-- A warning. -/
inductive Warning where
  | malformed (ns : Namespace) (error : Error)
  /-- Nothing is set up for a namespace, or for a channel of it. -/
  | undefined (ns : String) (payload : Json)
  /-- The device answered with an error. -/
  | replied (ns : String) (payload : Json)
deriving Inhabited

namespace Warning

/-- The key under which repetitions are held back. An answer of the device is
    never held back. -/
def key? : Warning → Option String
  | .malformed ns error => some (ns.name ++ ":" ++ error.message)
  | .undefined ns _ => some ("undefined:" ++ ns)
  | .replied .. => none

def message : Warning → String
  | .malformed .. => "skipping malformed payload"
  | .undefined .. => "handler undefined for payload"
  | .replied .. => "device replied with error"

end Warning

/-- What is asked of a device. -/
structure Request where
  ns : Namespace
  method : Method
  payload : Json
deriving Inhabited

/-- Something that a device does where others can see it. -/
inductive Event where
  | flushed (e : Entity)
  | warned (w : Warning)
  | sent (r : Request)
deriving Inhabited

/-! ## Actions

An action takes a device on, tells events in order and gives an answer. -/

/-- What an action leaves. -/
structure Outcome (α : Type) where
  device : Device
  events : List Event
  answer : α

/-- A piece of work on a device. -/
def Action (α : Type) : Type := Device → Outcome α

namespace Action

variable {α β : Type}

protected def pure (a : α) : Action α := fun d => ⟨d, [], a⟩

protected def bind (f : Action α) (g : α → Action β) : Action β := fun d =>
  let x := f d
  let y := g x.answer x.device
  ⟨y.device, x.events ++ y.events, y.answer⟩

instance : Monad Action where
  pure := Action.pure
  bind := Action.bind

/-- The device as it is. -/
def device : Action Device := fun d => ⟨d, [], d⟩

/-- Changes the device without telling anybody. -/
def modify (f : Device → Device) : Action Unit := fun d => ⟨f d, [], ()⟩

def tell (es : List Event) : Action Unit := fun d => ⟨d, es, ()⟩

def warn (w : Warning) : Action Unit := tell [.warned w]

/-- Does the same for each element of a list, in order. -/
def forEach (xs : List α) (f : α → Action Unit) : Action Unit :=
  match xs with
  | [] => Action.pure ()
  | x :: xs => Action.bind (f x) fun _ => forEach xs f

theorem pure_apply (a : α) (d : Device) : (pure a : Action α) d = ⟨d, [], a⟩ := rfl

theorem bind_apply (f : Action α) (g : α → Action β) (d : Device) :
    (f >>= g) d =
      ⟨(g (f d).answer (f d).device).device,
        (f d).events ++ (g (f d).answer (f d).device).events,
        (g (f d).answer (f d).device).answer⟩ := rfl

@[simp] theorem forEach_nil (f : α → Action Unit) : forEach [] f = Action.pure () := rfl

@[simp] theorem forEach_cons (x : α) (xs : List α) (f : α → Action Unit) :
    forEach (x :: xs) f = Action.bind (f x) fun _ => forEach xs f := rfl

/-- Work on two lists in turn is work on both at once. -/
theorem forEach_append (xs ys : List α) (f : α → Action Unit) (d : Device) :
    forEach (xs ++ ys) f d =
      ⟨(forEach ys f (forEach xs f d).device).device,
        (forEach xs f d).events ++ (forEach ys f (forEach xs f d).device).events, ()⟩ := by
  induction xs generalizing d with
  | nil => simp [Action.pure]
  | cons x xs ih => simp [Action.bind, ih]

end Action

/-! ## The registry -/

namespace Device

/-- A device without entities. -/
def blank (descriptor : Descriptor) (climateSensors : UInt8) : Device where
  descriptor
  entities := .empty
  dispatcher := .ofAbility descriptor.ability
  climateSensors

/-- The entity with an id. -/
def entity? (d : Device) (id : EntityId) : Option Entity := d.entities.get? id

/-- Adds an entity, unless its id is taken. -/
def add (d : Device) (e : Entity) : Except Error Device :=
  if d.entities.contains e.id then .error (.unsupported (.entityExists e.id))
  else .ok { d with entities := d.entities.insert e.id e }

/-- Registers an entity for the items of a namespace. Tells whether it is. -/
def register (d : Device) (ns : Namespace) (id : EntityId) : Bool × Device :=
  match d.entity? id with
  | none => (false, d)
  | some e =>
    match d.dispatcher.register ns id with
    | (false, _) => (false, d)
    | (true, dispatcher) =>
      let e := { e with namespaces := e.namespaces.insert ns () }
      (true, { d with dispatcher, entities := d.entities.insert id e })

/-- Takes an entity out of the device and its registrations with it. -/
def remove (d : Device) (id : EntityId) : Option Entity × Device :=
  match d.entity? id with
  | none => (none, d)
  | some e =>
    let dispatcher := e.namespaces.keys.foldl (fun s ns => s.unregister ns id) d.dispatcher
    (some { e with namespaces := .empty },
      { d with dispatcher, entities := d.entities.erase id })

/-- Takes out all entities. -/
def shutdown (d : Device) : Device :=
  d.entities.keys.foldl (fun d id => (d.remove id).2) d

/-- Adds an entity if its id is free, and registers what has the id. -/
def addAndRegister (d : Device) (e : Entity) (ns : Namespace) : Device :=
  let d :=
    match d.add e with
    | .ok d => d
    | .error _ => d
  (d.register ns e.id).2

/-- Changes an entity, if it is there, and tells the listeners. -/
def update {α : Type} (id : EntityId) (f : Entity → Entity.Change α) : Action (Option α) :=
  fun d =>
    match d.entity? id with
    | none => ⟨d, [], none⟩
    | some e =>
      let c := f e
      ⟨{ d with entities := d.entities.insert id c.entity }, c.flushes.map .flushed,
        some c.answer⟩

/-- Changes an entity, if it is there, whatever it answers. -/
def change {α : Type} (id : EntityId) (f : Entity → Entity.Change α) : Action Unit := do
  let _ ← update id f

/-- Makes all entities unavailable, in the order of their ids. -/
def setUnavailable : Action Unit := fun d =>
  ⟨{ d with entities := d.entities.map fun _ e => e.setUnavailable.entity },
    d.entities.values.flatMap fun e => e.setUnavailable.flushes.map .flushed, ()⟩

/-! ### What the registry holds

Each operation is told by what `entity?` gives after it. -/

@[simp] theorem entity?_blank (descriptor : Descriptor) (mask : UInt8) (id : EntityId) :
    (blank descriptor mask).entity? id = none := rfl

theorem entity?_of_add {d d' : Device} {e : Entity} (h : d.add e = .ok d') (id : EntityId) :
    d'.entity? id = if id = e.id then some e else d.entity? id := by
  unfold add at h
  split at h
  · cases h
  · cases h
    simp [entity?, Table.get?_insert]

/-- Registering an entity leaves what is known of it as it is. -/
theorem status_register (d : Device) (ns : Namespace) (id id' : EntityId) :
    ((d.register ns id).2.entity? id').map (·.status) = (d.entity? id').map (·.status) := by
  unfold register
  split
  · rfl
  · rename_i e he
    split
    · rfl
    · by_cases h : id' = id
      · subst h
        simp_all [entity?]
      · simp [entity?, Table.get?_insert, h]

theorem entity?_remove (d : Device) (id id' : EntityId) :
    (d.remove id).2.entity? id' = if id' = id then none else d.entity? id' := by
  unfold remove
  split
  · rename_i hnone
    by_cases h : id' = id
    · subst h
      simp [hnone]
    · simp [h]
  · simp [entity?, Table.get?_erase]

theorem entity?_update {α : Type} (d : Device) (id id' : EntityId)
    (f : Entity → Entity.Change α) :
    (update id f d).device.entity? id' =
      if id' = id then (d.entity? id).map fun e => (f e).entity else d.entity? id' := by
  unfold update
  split
  · rename_i hnone
    by_cases h : id' = id
    · subst h
      simp [hnone]
    · simp [h]
  · simp_all [entity?, Table.get?_insert]

theorem device_change {α : Type} (d : Device) (id : EntityId) (f : Entity → Entity.Change α) :
    (change id f d).device = (update id f d).device := rfl

theorem entity?_setUnavailable (d : Device) (id : EntityId) :
    (setUnavailable d).device.entity? id =
      (d.entity? id).map fun e => e.setUnavailable.entity := by
  simp [setUnavailable, entity?]

end Device

end Appliance
