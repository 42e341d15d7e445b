-- SUMMARY: The smallest things that happen to a device, and the traces of them that all work on it comes to.

import Appliance.Device.Command
import Appliance.Proofs.EntityOp

namespace Appliance

/-! ## Moves

Whatever is done to a device comes to moves, one after the other. A property
that every move preserves is preserved by all work.

Work is told in three layers. What callers ask of a device comes to deeds
(`OperationDeed`): an item is passed on, a reading is taken in, an order is
carried out. A deed comes to moves of the device (`DeviceMove`), and the move
that changes an entity is an operation on it (`EntityOp`). What is said of a row
of operations on entities names them too: `Entity.TookOps` of one entity, and
`Device.TookOpsAt` of what has an id. -/

inductive DeviceMove where
  | edit (id : EntityId) (op : EntityOp)
  | insert (e : Entity)
  | register (ns : Namespace) (id : EntityId)
  | remove (id : EntityId)
  | keepDigest (digest : Json)
  | warn (w : Warning)
  | send (r : Request)

namespace Device

/-- Adds an entity whose id is free. -/
def insert (d : Device) (e : Entity) : Device :=
  match d.add e with
  | .ok d => d
  | .error _ => d

theorem entity?_insert (d : Device) (e : Entity) (id : EntityId) :
    (d.insert e).entity? id =
      if d.entity? e.id = none ∧ id = e.id then some e else d.entity? id := by
  unfold insert
  cases h : d.add e with
  | ok d' =>
    have hfree : d.entity? e.id = none := by
      unfold add at h
      split at h
      · cases h
      · rename_i hc
        simpa [Table.contains, entity?] using hc
    simp [entity?_of_add h, hfree]
  | error error =>
    have htaken : d.entity? e.id ≠ none := by
      unfold add at h
      split at h
      · rename_i hc
        intro hnone
        unfold entity? at hnone
        simp [Table.contains, hnone] at hc
      · cases h
    simp [htaken]

theorem entity?_register (d : Device) (ns : Namespace) (id id' : EntityId) :
    (d.register ns id).2.entity? id' =
      if (d.register ns id).1 = true ∧ id' = id then
        (d.entity? id).map fun e => { e with namespaces := e.namespaces.insert ns () }
      else d.entity? id' := by
  unfold register
  cases he : d.entity? id with
  | none => simp
  | some e =>
    rcases hr : d.dispatcher.register ns id with ⟨_ | _, dispatcher⟩
    · simp
    · simp only [entity?, Table.get?_insert]
      by_cases h : id' = id <;> simp [h]

end Device

namespace DeviceMove

def run : DeviceMove → Action Unit
  | edit id op => Device.change id op.run
  | insert e => .modify (·.insert e)
  | register ns id => .modify fun d => (d.register ns id).2
  | remove id => .modify fun d => (d.remove id).2
  | keepDigest digest => .modify fun d => { d with descriptor := { d.descriptor with digest } }
  | warn w => .warn w
  | send r => .tell [.sent r]

theorem device_insert (e : Entity) (d : Device) : ((insert e).run d).device = d.insert e := rfl

theorem device_register (ns : Namespace) (id : EntityId) (d : Device) :
    ((register ns id).run d).device = (d.register ns id).2 := rfl

theorem device_remove (id : EntityId) (d : Device) :
    ((remove id).run d).device = (d.remove id).2 := rfl

/-- What an entity that is there after a move was before. -/
theorem entity?_cases {m : DeviceMove} {d : Device} {id : EntityId} {e' : Entity}
    (h : (m.run d).device.entity? id = some e') :
    d.entity? id = some e' ∨
      (∃ op e, m = .edit id op ∧ d.entity? id = some e ∧ e' = (op.run e).entity) ∨
      (m = .insert e' ∧ e'.id = id ∧ d.entity? id = none) ∨
      (∃ ns e, m = .register ns id ∧ d.entity? id = some e ∧
        e' = { e with namespaces := e.namespaces.insert ns () }) := by
  cases m with
  | edit i op =>
    rw [run, Device.device_change, Device.entity?_update] at h
    split at h
    · rename_i hid
      subst hid
      obtain ⟨e, he, rfl⟩ := Option.map_eq_some_iff.1 h
      exact .inr (.inl ⟨op, e, rfl, he, rfl⟩)
    · exact .inl h
  | insert e =>
    rw [device_insert, Device.entity?_insert] at h
    split at h
    · rename_i hfree
      obtain ⟨hfree, rfl⟩ := hfree
      cases h
      exact .inr (.inr (.inl ⟨rfl, rfl, hfree⟩))
    · exact .inl h
  | register ns i =>
    rw [device_register, Device.entity?_register] at h
    split at h
    · rename_i hid
      obtain ⟨-, rfl⟩ := hid
      obtain ⟨e, he, rfl⟩ := Option.map_eq_some_iff.1 h
      exact .inr (.inr (.inr ⟨ns, e, rfl, he, rfl⟩))
    · exact .inl h
  | remove i =>
    rw [device_remove, Device.entity?_remove] at h
    split at h
    · cases h
    · exact .inl h
  | keepDigest _ | warn _ | send _ => exact .inl h

end DeviceMove

/-! ### Scopes

Different work makes different moves: messages never take an entity out, and
what they put in is new. -/

namespace Entity

/-- What the entity measures is a number, in the device's units and in natural ones. -/
def Clean (e : Entity) : Prop :=
  ∀ m, e.status.measure = some m → Double.IsScale m.scale ∧ Proper m.device

theorem Made.clean {e : Entity} (h : e.Made) (hs : e.Scaled) : e.Clean := by
  intro m hm
  refine ⟨hs m hm, ?_⟩
  cases h <;> cases hm
  exact proper_none

theorem Clean.native_ne_nan {e : Entity} (h : e.Clean) (hs : e.Sound) {x : Float}
    (hx : e.native? = some x) : x ≠ Float.nan := by
  obtain ⟨m, hm, hnative⟩ := Option.bind_eq_some_iff.1 hx
  obtain ⟨hscale, hdevice⟩ := h m hm
  rw [hs.consistent.native m hm] at hnative
  obtain ⟨y, hy, rfl⟩ := Option.map_eq_some_iff.1 hnative
  rw [hy] at hdevice
  exact Double.div_ne_nan (proper_float.1 hdevice) hscale

/-- An entity that a device makes by itself: for an item that nothing is there
    for, or for a reading. -/
inductive Supplied : Entity → Prop where
  | item {ns : Namespace} {kind : Kind} (policy : ns.policy = .createDefault kind)
      (c : Channel) : Supplied (.ofKind kind (Device.defaultId kind c) ns)
  | reading (id : EntityId) {scale : Float} (hscale : Double.IsScale scale) :
      Supplied (.sensor id scale)

theorem Supplied.made {e : Entity} (h : e.Supplied) : e.Made := by
  cases h with
  | item => exact made_ofKind _ _ _
  | reading id => exact .sensor id _

theorem scaled_ofKind (kind : Kind) (id : EntityId) (ns : Namespace) :
    (ofKind kind id ns).Scaled := by
  intro m hm
  cases kind <;> cases hm
  decide

theorem Supplied.scaled {e : Entity} (h : e.Supplied) : e.Scaled := by
  cases h with
  | item => exact scaled_ofKind _ _ _
  | reading id hscale =>
    intro m hm
    cases hm
    exact hscale

end Entity

namespace Device

def Clean (d : Device) : Prop := ∀ id e, d.entity? id = some e → e.Sound ∧ e.Clean

end Device

/-- What may happen: which entities come in, whether entities go, and whether
    all that is reported is proper. -/
structure Scope where
  enters : Entity → Prop
  leaves : Prop
  proper : Prop

namespace Scope

def Allows (sc : Scope) (d : Device) : DeviceMove → Prop
  | .edit _ op => sc.proper → d.Clean → op.Proper
  | .insert e => sc.enters e
  | .remove _ => sc.leaves
  | _ => True

/-- What a device makes by itself may come in. -/
def Opens (sc : Scope) : Prop := ∀ e : Entity, e.Supplied → sc.enters e

end Scope

/-! ## Traces -/

inductive Trace (sc : Scope) : Device → List Event → Device → Prop where
  | nil (d : Device) : Trace sc d [] d
  | cons {d d' : Device} {es : List Event} (m : DeviceMove) (allowed : sc.Allows d m)
      (rest : Trace sc (m.run d).device es d') : Trace sc d ((m.run d).events ++ es) d'

namespace Trace

variable {sc : Scope} {d d' d'' : Device} {es es' : List Event}

theorem trans (h : Trace sc d es d') (h' : Trace sc d' es' d'') : Trace sc d (es ++ es') d'' := by
  induction h with
  | nil d => exact h'
  | cons m allowed rest ih =>
    rw [List.append_assoc]
    exact cons m allowed (ih h')

theorem move (m : DeviceMove) (h : sc.Allows d m) : Trace sc d (m.run d).events
    (m.run d).device := by
  have htrace := cons m h (nil (m.run d).device)
  rwa [List.append_nil] at htrace

/-- What every allowed move preserves every trace preserves. -/
theorem invariant {I : Device → Prop}
    (step : ∀ d m, I d → sc.Allows d m → I (m.run d).device) (h : Trace sc d es d') (hd : I d) :
    I d' := by
  induction h with
  | nil d => exact hd
  | cons m allowed rest ih => exact ih (step _ m hd allowed)

end Trace

/-- What an action does on a device is a trace of allowed moves. -/
def Traced {α : Type} (sc : Scope) (f : Action α) (d : Device) : Prop :=
  Trace sc d (f d).events (f d).device

namespace Traced

variable {α β : Type} {sc : Scope}

theorem pure (a : α) (d : Device) : Traced sc (pure a : Action α) d := Trace.nil d

theorem bind {f : Action α} {g : α → Action β} {d : Device} (hf : Traced sc f d)
    (hg : Traced sc (g (f d).answer) (f d).device) : Traced sc (f >>= g) d :=
  Trace.trans hf hg

/-- Reading the device is no move. -/
theorem device {g : Device → Action β} {d : Device} (h : Traced sc (g d) d) :
    Traced sc (Action.device >>= g) d := h

theorem move (m : DeviceMove) {d : Device} (h : sc.Allows d m) : Traced sc m.run d := Trace.move m h

theorem warn (w : Warning) (d : Device) : Traced sc (Action.warn w) d :=
  Trace.move (.warn w) trivial

theorem forEach {xs : List α} {f : α → Action Unit} (h : ∀ x ∈ xs, ∀ d, Traced sc (f x) d)
    (d : Device) : Traced sc (Action.forEach xs f) d := by
  induction xs generalizing d with
  | nil => exact Trace.nil d
  | cons x xs ih =>
    have hx := h x (List.mem_cons_self ..) d
    exact Trace.trans hx (ih (fun y hy => h y (List.mem_cons_of_mem _ hy)) _)

theorem update {f : Entity → Entity.Change α} (op : EntityOp) {id : EntityId} {d : Device}
    (hop : ∀ e, op.run e = (f e).map fun _ => ()) (h : sc.Allows d (.edit id op)) :
    Traced sc (Device.update id f) d := by
  have hmove : Trace sc d _ _ := Trace.move (.edit id op) h
  have hdevice : ((DeviceMove.edit id op).run d).device = (Device.update id f d).device := by
    simp only [DeviceMove.run, Device.device_change, Device.update, hop]
    split <;> rfl
  have hevents : ((DeviceMove.edit id op).run d).events = (Device.update id f d).events := by
    simp only [DeviceMove.run, Device.change, Action.bind_apply, Device.update, hop]
    split <;> simp [Action.pure_apply]
  rw [hdevice, hevents] at hmove
  exact hmove

theorem change {f : Entity → Entity.Change α} (op : EntityOp) {id : EntityId} {d : Device}
    (hop : ∀ e, op.run e = (f e).map fun _ => ()) (h : sc.Allows d (.edit id op)) :
    Traced sc (Device.change id f) d :=
  bind (update op hop h) (pure _ _)

end Traced

end Appliance
