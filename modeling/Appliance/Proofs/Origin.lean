-- SUMMARY: What the entities of a device stem from: a member, a caller, or an entity that the device made by itself.

import Appliance.Proofs.Chronicle

namespace Appliance

/-! ## Bare entities

An entity without what is known of it and without its registrations. It is
then as it was made, and work on it leaves it so. -/

namespace Entity

/-- The entity as it was when it was made. -/
def bare (e : Entity) : Entity := { e with status := e.status.clear, namespaces := .empty }

@[simp] theorem id_bare (e : Entity) : e.bare.id = e.id := rfl

@[simp] theorem kind_bare (e : Entity) : e.bare.kind = e.kind := rfl

@[simp] theorem commandedBy_bare (e : Entity) : e.bare.commandedBy = e.commandedBy := rfl

theorem Made.bare {e : Entity} (h : e.Made) : e.bare = e := by
  cases h <;> rfl

end Entity

theorem EntityOp.bare_run (op : EntityOp) {e : Entity} (h : e.Sound) :
    (op.run e).entity.bare = e.bare := by
  rw [Entity.bare, clear_run op h, run_frame op h]
  rfl

namespace DeviceMove

/-- What is there after a move was there before, or the move put it in. -/
theorem bare_cases {m : DeviceMove} {d : Device} (hd : d.Sound) {id : EntityId} {e' : Entity}
    (h : (m.run d).device.entity? id = some e') :
    (∃ e, d.entity? id = some e ∧ e'.bare = e.bare) ∨
      (m = .insert e' ∧ e'.id = id ∧ d.entity? id = none) := by
  rcases entity?_cases h with he | ⟨op, e, -, he, rfl⟩ | hinsert | ⟨ns, e, -, he, rfl⟩
  · exact .inl ⟨e', he, rfl⟩
  · exact .inl ⟨e, he, EntityOp.bare_run op (hd id e he)⟩
  · exact .inr hinsert
  · exact .inl ⟨e, he, rfl⟩

/-- What is not taken out stays. -/
theorem bare_stays {m : DeviceMove} {d : Device} (hd : d.Sound) {id : EntityId} {e : Entity}
    (he : d.entity? id = some e) (hm : m ≠ .remove id) :
    ∃ e', (m.run d).device.entity? id = some e' ∧ e'.bare = e.bare := by
  cases m with
  | edit i op =>
    rw [run, Device.device_change, Device.entity?_update]
    split
    · rename_i hid
      subst hid
      rw [he]
      exact ⟨_, rfl, EntityOp.bare_run op (hd id e he)⟩
    · exact ⟨e, he, rfl⟩
  | insert e₀ =>
    rw [device_insert, Device.entity?_insert, if_neg]
    · exact ⟨e, he, rfl⟩
    · rintro ⟨hfree, rfl⟩
      rw [hfree] at he
      cases he
  | register ns i =>
    rw [device_register, Device.entity?_register]
    split
    · rename_i hid
      obtain ⟨-, rfl⟩ := hid
      rw [he]
      exact ⟨_, rfl, rfl⟩
    · exact ⟨e, he, rfl⟩
  | remove i =>
    rw [device_remove, Device.entity?_remove, if_neg]
    · exact ⟨e, he, rfl⟩
    · rintro rfl
      exact hm rfl
  | keepDigest _ | warn _ | send _ => exact ⟨e, he, rfl⟩

end DeviceMove

/-! ## Traces

What is allowed to come in says what may be there in the end; where nothing is
allowed to go, all that was there still is. -/

namespace Trace

variable {sc : Scope} {d d' : Device} {es : List Event}

theorem stems (h : Trace sc d es d') (henters : ∀ e, sc.enters e → e.Sound) (hd : d.Sound)
    {id : EntityId} {e' : Entity} (he' : d'.entity? id = some e') :
    (∃ e, d.entity? id = some e ∧ e'.bare = e.bare) ∨
      ∃ e, sc.enters e ∧ e.id = id ∧ e'.bare = e.bare := by
  induction h with
  | nil d => exact .inl ⟨e', he', rfl⟩
  | @cons d _ _ m allowed rest ih =>
    rcases ih (hd.move henters allowed) he' with ⟨e, he, hbare⟩ | hentered
    · rcases DeviceMove.bare_cases hd he with ⟨e₀, he₀, hbare₀⟩ | ⟨rfl, hid, -⟩
      · exact .inl ⟨e₀, he₀, hbare.trans hbare₀⟩
      · exact .inr ⟨e, allowed, hid, hbare⟩
    · exact .inr hentered

theorem stays (h : Trace sc d es d') (henters : ∀ e, sc.enters e → e.Sound) (hd : d.Sound)
    (hleaves : ¬sc.leaves) {id : EntityId} {e : Entity} (he : d.entity? id = some e) :
    ∃ e', d'.entity? id = some e' ∧ e'.bare = e.bare := by
  induction h generalizing e with
  | nil d => exact ⟨e, he, rfl⟩
  | @cons d _ _ m allowed rest ih =>
    have hm : m ≠ .remove id := by
      rintro rfl
      exact hleaves allowed
    obtain ⟨e₁, he₁, hbare₁⟩ := DeviceMove.bare_stays hd he hm
    obtain ⟨e₂, he₂, hbare₂⟩ := ih (hd.move henters allowed) he₁
    exact ⟨e₂, he₂, hbare₂.trans hbare₁⟩

end Trace

/-! ## Members

A new device has the first member for each id, and nothing else. -/

namespace Device

theorem bare_join {d : Device} {m : Member} (hm : m.entity.Made) (id : EntityId) :
    ((d.join m).entity? id).map Entity.bare =
      ((d.entity? id).map Entity.bare).or
        (if m.entity.id = id then some m.entity else none) := by
  have hinsert : ((d.insert m.entity).entity? id).map Entity.bare =
      ((d.entity? id).map Entity.bare).or
        (if m.entity.id = id then some m.entity else none) := by
    rw [entity?_insert]
    by_cases hid : m.entity.id = id
    · subst hid
      cases he : d.entity? m.entity.id <;> simp [hm.bare]
    · simp [hid, Ne.symm hid]
  unfold join
  cases m.ns with
  | none => exact hinsert
  | some ns =>
    change (((d.insert m.entity).register ns m.entity.id).2.entity? id).map Entity.bare = _
    rw [← hinsert, entity?_register]
    split
    · rename_i hid
      obtain ⟨-, rfl⟩ := hid
      cases (d.insert m.entity).entity? m.entity.id <;> rfl
    · rfl

/-- Readers bring nothing in. -/
theorem entity?_furnish (mask : UInt8) (descriptor : Descriptor) (id : EntityId) :
    (furnish mask descriptor).entity? id =
      ((Member.ofDescriptor mask descriptor).foldl join (blank descriptor mask)).entity? id := by
  have hapart : ∀ d : Device,
      ([Namespace.diffuserSensor, .sensorLatest, .sensorLatestX].foldl readApart d).entity? id =
        d.entity? id := fun _ => rfl
  simp only [furnish, hapart]

theorem bare_furnish (mask : UInt8) (descriptor : Descriptor) (id : EntityId) :
    ((furnish mask descriptor).entity? id).map Entity.bare =
      ((Member.ofDescriptor mask descriptor).find? (·.entity.id = id)).map (·.entity) := by
  have hjoins : ∀ (ms : List Member) (d : Device), (∀ m ∈ ms, m.entity.Made) →
      ((ms.foldl join d).entity? id).map Entity.bare =
        ((d.entity? id).map Entity.bare).or
          ((ms.find? (·.entity.id = id)).map (·.entity)) := by
    intro ms
    induction ms with
    | nil => simp
    | cons m ms ih =>
      intro d hms
      obtain ⟨hm, hrest⟩ := List.forall_mem_cons.1 hms
      rw [List.foldl_cons, ih _ hrest, bare_join hm, Option.or_assoc, List.find?_cons]
      by_cases hid : m.entity.id = id <;> simp [hid]
  rw [entity?_furnish, hjoins _ _ fun m hm => (sane_member hm).made, entity?_blank,
    Option.map_none, Option.none_or]

end Device

/-! ## Homegrown devices

What a device makes it makes when it is built or by itself later on. Only
callers bring in anything else. -/

namespace Entity

/-- An entity that some device makes. -/
inductive Native : Entity → Prop where
  | member {mask : UInt8} {descriptor : Descriptor} {m : Member}
      (h : m ∈ Member.ofDescriptor mask descriptor) : Native m.entity
  | supplied {e : Entity} (h : e.Supplied) : Native e

theorem Native.made {e : Entity} (h : e.Native) : e.Made := by
  cases h with
  | member h => exact (Device.sane_member h).made
  | supplied h => exact h.made

/-- The entities that devices make, by their ids. -/
inductive Shape : Entity → Prop where
  | light (c : Channel) : Shape (light (.channel c) .light)
  | switch (c : Channel) {ns : Namespace} (toggles : ns = .toggle ∨ ns = .toggleX) :
      Shape (switch (.channel c) ns)
  | diffuserLight (c : Channel) : Shape (diffuserLight (.channel c))
  | diffuserSpray (c : Channel) : Shape (diffuserSpray (.keyed c "spray"))
  | climate (c : Channel) : Shape (climate (.channel c) .thermostat)
  | sensor (id : EntityId) (scale : Float) : Shape (sensor id scale)
  | outputPower (c : Channel) : Shape (binarySensor (.keyed c Device.outputPowerKey))
  | modeState (c : Channel) : Shape (stateSensor (.keyed c Device.modeStateKey))
  | mediaPlayer : Shape (mediaPlayer (.keyed (.int 0) "mp3"))

theorem shape_member {m : Member} (h : Device.Form m) : m.entity.Shape := by
  cases h with
  | toggle => exact .switch (.int 0) (.inl rfl)
  | toggleX c => exact .switch c (.inr rfl)
  | _ => constructor

theorem Supplied.shape {e : Entity} (h : e.Supplied) : e.Shape := by
  cases h with
  | @item ns kind policy c =>
    cases ns <;> cases policy
    · exact .switch c (.inr rfl)
    · exact .diffuserLight c
    · exact .diffuserSpray c
  | reading id => exact .sensor id _

theorem Native.shape {e : Entity} (h : e.Native) : e.Shape := by
  cases h with
  | member h => exact shape_member (Device.form_member h)
  | supplied h => exact h.shape

end Entity

/-- What happens to a device that callers bring nothing to. -/
def Scope.homegrown : Scope := ⟨Entity.Native, True, False⟩

theorem Scope.opens_homegrown : Scope.homegrown.Opens := fun _ h => .supplied h

namespace Device

/-- Every entity is one that some device makes. -/
def Homegrown (d : Device) : Prop := ∀ id e, d.entity? id = some e → e.bare.Native

theorem homegrown_furnish (mask : UInt8) (descriptor : Descriptor) :
    (furnish mask descriptor).Homegrown := by
  intro id e he
  have hfind := bare_furnish mask descriptor id
  rw [he, Option.map_some] at hfind
  obtain ⟨m, hm, hbare⟩ := Option.map_eq_some_iff.1 hfind.symm
  rw [← hbare]
  exact .member (List.mem_of_find?_eq_some hm)

theorem Homegrown.trace {d d' : Device} {es : List Event} (h : d.Homegrown) (hd : d.Sound)
    (ht : Trace .homegrown d es d') : d'.Homegrown := by
  intro id e' he'
  rcases ht.stems (fun e (he : e.Native) => he.made.sound) hd he' with
    ⟨e, he, hbare⟩ | ⟨e, hnative, -, hbare⟩
  · rw [hbare]
    exact h id e he
  · rw [hbare, Entity.Made.bare (Entity.Native.made hnative)]
    exact hnative

end Device

/-- Where callers add nothing all entities are made by the device. -/
theorem Reached.homegrown {mask : UInt8} {descriptor : Descriptor} {c : Chronicle}
    (h : Reached (fun _ op => ∀ e, op ≠ .add e) mask descriptor c) : c.device.Homegrown := by
  induction h with
  | built =>
    have htrace : Traced .homegrown (Device.parseDigest descriptor.digest)
        (Device.furnish mask descriptor) :=
      Device.traced_parseDigest Scope.opens_homegrown (fun hp => hp.elim) _
    exact (Device.homegrown_furnish mask descriptor).trace (Device.sound_furnish _ _) htrace
  | @step c h t op _ hadd ih =>
    have hwithin : op.Within .homegrown := by
      cases op with
      | add e => exact absurd rfl (hadd e)
      | _ => trivial
    exact ih.trace h.sound.1
      (Operation.traced_run Scope.opens_homegrown hwithin (fun hp => hp.elim)
        (fun hp => hp.elim) c.device)

end Appliance
