-- SUMMARY: Devices in use: all that can be reached from a built device, with what was taken out and what listeners were shown.

import Appliance.Proofs.Work

namespace Appliance

/-! ## Chronicles

A chronicle is a device with what its callers know of it: the entities that
they took out, and for each entity in it the statuses that were shown since it
came in. The first of these is the status it came in with; each call of the
listeners adds one. -/

structure Chronicle where
  device : Device
  held : List Entity
  shown : EntityId → List Status

/-- The statuses of an entity that events hand on. -/
def snapshots (id : EntityId) (es : List Event) : List Status :=
  es.filterMap fun
    | .flushed e => if e.id = id then some e.status else none
    | .warned _ | .sent _ => none

namespace Operation

/-- The status that an entity came in with. What is not added by the caller is
    made by the device, and nothing is known of it at first. -/
def arrival (op : Operation) (e : Entity) : Status :=
  match op with
  | .add added => added.status
  | _ => e.status.clear

/-- What an operation takes out and hands to the caller. -/
def taken (op : Operation) (d : Device) : List Entity :=
  match op with
  | .remove id => (d.remove id).1.toList
  | _ => []

/-- Callers add what a constructor made or what they took out before. -/
def Admissible (held : List Entity) : Operation → Prop
  | .add e => e.Made ∨ e ∈ held
  | _ => True

end Operation

namespace Chronicle

/-- The chronicle of a device that was just built. -/
def start (mask : UInt8) (descriptor : Descriptor) : Chronicle where
  device := (Device.build mask descriptor).device
  held := []
  shown id :=
    match (Device.build mask descriptor).device.entity? id with
    | none => []
    | some e => e.status.clear :: snapshots id (Device.build mask descriptor).events

/-- The chronicle after an operation. -/
def next (c : Chronicle) (t : Transport) (op : Operation) : Chronicle where
  device := (op.run t c.device).device
  held := op.taken c.device ++ c.held
  shown id :=
    match c.device.entity? id, (op.run t c.device).device.entity? id with
    | _, none => []
    | none, some e => op.arrival e :: snapshots id (op.run t c.device).events
    | some _, some _ => c.shown id ++ snapshots id (op.run t c.device).events

end Chronicle

/-- What can be reached by operations from a built device. Transports and
    operations may be restricted. -/
inductive Reached (fit : Transport → Operation → Prop) (mask : UInt8) (descriptor : Descriptor) :
    Chronicle → Prop where
  | built : Reached fit mask descriptor (.start mask descriptor)
  | step {c : Chronicle} (h : Reached fit mask descriptor c) {t : Transport} {op : Operation}
      (admissible : op.Admissible c.held) (fits : fit t op) :
      Reached fit mask descriptor (c.next t op)

/-- A device that can be reached by any operations over any transports. -/
def Device.Reachable (d : Device) : Prop :=
  ∃ mask descriptor c, Reached (fun _ _ => True) mask descriptor c ∧ c.device = d

namespace Reached

variable {fit : Transport → Operation → Prop} {mask : UInt8} {descriptor : Descriptor}
  {c : Chronicle}

theorem reachable (h : Reached fit mask descriptor c) : c.device.Reachable := by
  refine ⟨mask, descriptor, c, ?_, rfl⟩
  induction h with
  | built => exact .built
  | step _ admissible _ ih => exact .step ih admissible trivial

end Reached

/-! ## Loose entities

An entity outside of any device is registered for nothing. -/

namespace Entity

structure Loose (e : Entity) : Prop where
  sound : e.Sound
  namespaces : e.namespaces = .empty

theorem Made.loose {e : Entity} (h : e.Made) : e.Loose := ⟨h.sound, h.namespaces⟩

end Entity

/-- What happens to a device in use, whatever is reported to it. -/
def Scope.any : Scope := ⟨Entity.Loose, True, False⟩

theorem Scope.opens_any : Scope.any.Opens := fun _ h => h.made.loose

namespace Device

/-- Every entity is as its constructor made it, but for what is known of it. -/
def Sound (d : Device) : Prop := ∀ id e, d.entity? id = some e → e.Sound

theorem Sound.move {d : Device} (h : d.Sound) {sc : Scope}
    (hsc : ∀ e, sc.enters e → e.Sound) {m : DeviceMove} (hm : sc.Allows d m) :
    (m.run d).device.Sound := by
  intro id e' he'
  rcases DeviceMove.entity?_cases he' with
    he | ⟨op, e, -, he, rfl⟩ | ⟨rfl, -, -⟩ | ⟨ns, e, -, he, rfl⟩
  · exact h id e' he
  · exact EntityOp.sound_run op (h id e he)
  · exact hsc e' hm
  · exact ⟨(h id e he).shaped, (h id e he).consistent, (h id e he).idle⟩

theorem Sound.trace {d d' : Device} {es : List Event} (h : d.Sound) (ht : Trace .any d es d') :
    d'.Sound :=
  ht.invariant (fun _ _ hd hm => hd.move (fun _ (he : Entity.Loose _) => he.sound) hm) h

theorem loose_of_remove {d : Device} (h : d.Sound) {id : EntityId} {e : Entity}
    (he : (d.remove id).1 = some e) : e.Loose := by
  unfold remove at he
  split at he
  · cases he
  · rename_i e' he'
    cases he
    exact ⟨⟨(h id e' he').shaped, (h id e' he').consistent, (h id e' he').idle⟩, rfl⟩

/-! ## Building -/

/-- The members that devices have. -/
inductive Form : Member → Prop where
  | light (c : Channel) : Form ⟨.light (.channel c) .light, some .light⟩
  | toggle : Form ⟨.switch (.channel (.int 0)) .toggle, some .toggle⟩
  | toggleX (c : Channel) : Form ⟨.switch (.channel c) .toggleX, some .toggleX⟩
  | diffuserLight (c : Channel) : Form ⟨.diffuserLight (.channel c), some .diffuserLight⟩
  | diffuserSpray (c : Channel) : Form ⟨.diffuserSpray (.keyed c "spray"), some .diffuserSpray⟩
  | climate (c : Channel) : Form ⟨.climate (.channel c) .thermostat, some .thermostatMode⟩
  | temperature (c : Channel) :
      Form ⟨.sensor (.keyed c "temperature") Climate.scale, some .thermostatMode⟩
  | outputPower (c : Channel) : Form ⟨.binarySensor (.keyed c outputPowerKey), none⟩
  | modeState (c : Channel) : Form ⟨.stateSensor (.keyed c modeStateKey), none⟩
  | mediaPlayer : Form ⟨.mediaPlayer (.keyed (.int 0) "mp3"), some .mp3⟩

theorem form_derived {mask : UInt8} {channel : Channel} {m : Member}
    (h : m ∈ Member.derived mask channel) : Form m := by
  rcases List.mem_append.1 h with h | h
  · split at h
    · obtain rfl := List.mem_singleton.1 h
      exact .outputPower channel
    · cases h
  · split at h
    · obtain rfl := List.mem_singleton.1 h
      exact .modeState channel
    · cases h

theorem form_thermostat {mask : UInt8} {channel : Channel} {m : Member}
    (h : m ∈ Member.thermostat mask channel) : Form m := by
  rcases List.mem_append.1 h with h | h
  · rcases List.mem_pair.1 h with rfl | rfl
    · exact .climate channel
    · exact .temperature channel
  · exact form_derived h

theorem form_member {mask : UInt8} {descriptor : Descriptor} {m : Member}
    (h : m ∈ Member.ofDescriptor mask descriptor) : Form m := by
  simp only [Member.ofDescriptor, Member.ofDigest, List.mem_append, List.mem_map,
    List.mem_flatMap] at h
  rcases h with (((((⟨c, -, rfl⟩ | h) | ⟨c, -, rfl⟩) | ⟨c, -, rfl⟩) | ⟨c, -, rfl⟩) |
    ⟨c, -, h⟩) | h
  · exact .light c
  · split at h
    · obtain rfl := List.mem_singleton.1 h
      exact .toggle
    · cases h
  · exact .toggleX c
  · exact .diffuserLight c
  · exact .diffuserSpray c
  · exact form_thermostat h
  · split at h
    · obtain rfl := List.mem_singleton.1 h
      exact .mediaPlayer
    · cases h

/-- A member is new, it measures by a scale, and its namespace has items. -/
structure SaneMember (m : Member) : Prop where
  made : m.entity.Made
  scaled : m.entity.Scaled
  ns : ∀ ns, m.ns = some ns → ns ∉ [Namespace.diffuserSensor, .sensorLatest, .sensorLatestX]

theorem Form.made {m : Member} (h : Form m) : m.entity.Made := by
  cases h <;> constructor

theorem Form.sane {m : Member} (h : Form m) : SaneMember m := by
  refine ⟨h.made, fun x hx => ?_, fun ns hns => ?_⟩
  · cases h <;> cases hx
    decide
  · cases h <;> cases hns <;> decide

theorem sane_member {mask : UInt8} {descriptor : Descriptor} {m : Member}
    (h : m ∈ Member.ofDescriptor mask descriptor) : SaneMember m := (form_member h).sane

/-- A joining member comes in and is registered. -/
theorem trace_join {sc : Scope} {m : Member} (h : sc.enters m.entity) (d : Device) :
    Trace sc d [] (d.join m) := by
  have hinsert : Trace sc d [] (d.insert m.entity) := Trace.move (.insert m.entity) h
  unfold join
  cases m.ns with
  | none => exact hinsert
  | some ns => exact Trace.trans hinsert (Trace.move (.register ns m.entity.id) trivial)

theorem furnish_invariant {I : Device → Prop} {mask : UInt8} {descriptor : Descriptor}
    (hblank : I (blank descriptor mask))
    (hjoin : ∀ d m, SaneMember m → I d → I (d.join m))
    (hapart : ∀ d, ∀ ns ∈ [Namespace.diffuserSensor, .sensorLatest, .sensorLatestX],
      I d → I (d.readApart ns)) : I (furnish mask descriptor) := by
  have hmembers : I ((Member.ofDescriptor mask descriptor).foldl join (blank descriptor mask)) :=
    List.foldlRecOn _ join hblank fun d hd m hm => hjoin d m (sane_member hm) hd
  exact List.foldlRecOn _ readApart hmembers fun d hd ns hns => hapart d ns hns hd

theorem sound_furnish (mask : UInt8) (descriptor : Descriptor) :
    (furnish mask descriptor).Sound := by
  refine furnish_invariant (fun id e he => by cases he) (fun d m hm hd => ?_)
    fun d ns _ hd => hd
  exact hd.trace (trace_join hm.made.loose d)

end Device

/-! ## Invariants -/

namespace Reached

variable {fit : Transport → Operation → Prop} {mask : UInt8} {descriptor : Descriptor}
  {c : Chronicle}

/-- All that an admissible operation does is within the scope of devices in use. -/
theorem within_any {op : Operation} {held : List Entity} (h : op.Admissible held)
    (hheld : ∀ e ∈ held, e.Loose) : op.Within .any := by
  cases op with
  | add e => exact h.elim (fun h => h.loose) (hheld e)
  | _ => trivial

theorem trace_step {op : Operation} {held : List Entity} (h : op.Admissible held)
    (hheld : ∀ e ∈ held, e.Loose) (t : Transport) (d : Device) : Traced .any (op.run t) d :=
  Operation.traced_run Scope.opens_any (within_any h hheld) (fun hp => hp.elim)
    (fun hp => hp.elim) d

theorem trace_start (mask : UInt8) (descriptor : Descriptor) :
    Traced .any (Device.parseDigest descriptor.digest) (Device.furnish mask descriptor) :=
  Device.traced_parseDigest Scope.opens_any (fun hp => hp.elim) _

/-- Callers hold only entities that are registered nowhere. -/
theorem sound (h : Reached fit mask descriptor c) :
    c.device.Sound ∧ ∀ e ∈ c.held, e.Loose := by
  induction h with
  | built =>
    exact ⟨(Device.sound_furnish mask descriptor).trace (trace_start mask descriptor), by
      simp [Chronicle.start]⟩
  | @step c h t op admissible _ ih =>
    refine ⟨ih.1.trace (trace_step admissible ih.2 t c.device), fun e he => ?_⟩
    rcases List.mem_append.1 he with he | he
    · cases op with
      | remove id => exact Device.loose_of_remove ih.1 (Option.mem_toList.1 he)
      | _ => cases he
    · exact ih.2 e he

/-- What holds of every furnished device and is preserved by every move holds
    wherever operations lead. -/
theorem invariant {I : Device → Prop} (hfurnish : I (Device.furnish mask descriptor))
    (hmove : ∀ d m, d.Sound → I d → Scope.any.Allows d m → I (m.run d).device)
    (h : Reached fit mask descriptor c) : I c.device := by
  have htrace : ∀ {es d d'}, Trace .any d es d' → d.Sound → I d → I d' := by
    intro es d d' ht hd hI
    refine (ht.invariant (I := fun d => d.Sound ∧ I d) (fun d m hdm hm => ?_) ⟨hd, hI⟩).2
    exact ⟨hdm.1.trace (Trace.move m hm), hmove d m hdm.1 hdm.2 hm⟩
  induction h with
  | built => exact htrace (trace_start mask descriptor) (Device.sound_furnish _ _) hfurnish
  | @step c h t op admissible _ ih =>
    exact htrace (trace_step admissible h.sound.2 t c.device) h.sound.1 ih

end Reached

theorem Device.Reachable.sound {d : Device} (h : d.Reachable) : d.Sound := by
  obtain ⟨mask, descriptor, c, hreached, rfl⟩ := h
  exact hreached.sound.1

end Appliance
