-- SUMMARY: What each deed does to the climate on a channel and to the sensors derived from it.

import Appliance.Proofs.Roster

namespace Appliance

namespace Device

open Entity (TookOps)

/-! ## Thermostats of a new device

A channel has a climate only where nothing else came first. -/

section Roster

variable {mask : UInt8} {descriptor : Descriptor} {c : Channel}

theorem climate_of_roster {id : EntityId} {e : Entity} (h : descriptor.roster mask id = some e)
    (hkind : e.kind = .climate) :
    ∃ c ∈ descriptor.channels .thermostatMode,
      id = .channel c ∧ e.commandedBy = some .thermostatMode := by
  cases id with
  | channel c =>
    dsimp only [Descriptor.roster] at h
    split_ifs at h with _ _ _ _ hc <;> cases h <;> cases hkind
    exact ⟨c, hc, rfl, rfl⟩
  | keyed c key =>
    dsimp only [Descriptor.roster] at h
    split at h
    case h_6 => cases h
    all_goals
      obtain ⟨-, hmade⟩ := Option.ite_none_right_eq_some.1 h
      cases hmade
      cases hkind
  | key k => cases h

theorem kind_of_toggled {e : Entity}
    (htoggled : c ∈ descriptor.channels .toggle ∨ c ∈ descriptor.channels .toggleX)
    (h : descriptor.roster mask (.channel c) = some e) : e.kind ≠ .climate := by
  dsimp only [Descriptor.roster] at h
  split_ifs at h with _ htoggle htoggleX <;> cases h
  · nofun
  · nofun
  · nofun
  all_goals exact absurd htoggled (not_or.2 ⟨htoggle, htoggleX⟩)

theorem kind_of_roster {id : EntityId} {e : Entity} (hid : id ∈ derivedIds c)
    (h : descriptor.roster mask id = some e) : e.kind = .binarySensor ∨ e.kind = .stateSensor := by
  rcases List.mem_pair.1 hid with rfl | rfl
  · obtain ⟨-, hmade⟩ := Option.ite_none_right_eq_some.1 h
    cases hmade
    exact .inl rfl
  · obtain ⟨-, hmade⟩ := Option.ite_none_right_eq_some.1 h
    cases hmade
    exact .inr rfl

/-- Derived sensors are for no items. -/
theorem derivedApart_furnish (mask : UInt8) (descriptor : Descriptor) :
    (furnish mask descriptor).DerivedApart := by
  refine derivedApart_of_not_registered (wired_furnish mask descriptor) fun ns c id hid h => ?_
  obtain ⟨-, c', -, hnamed⟩ := registered_furnish_iff.1 h
  rcases List.mem_pair.1 hid with rfl | rfl <;> cases ns <;>
    simp [Namespace.ids, outputPowerKey, modeStateKey] at hnamed

/-- What a new device has by an id is what the descriptor speaks of. -/
theorem roster_of_furnish {id : EntityId} {e : Entity}
    (he : (furnish mask descriptor).entity? id = some e) :
    descriptor.roster mask id = some e.bare := by
  rw [← roster_furnish, he]
  rfl

/-- No climate of a new device is toggled by its digest. -/
theorem kind_of_digest {ns : Namespace} {item : Item}
    (hx : (ns, item) ∈ digestItems descriptor.digest) (hns : ns = .toggle ∨ ns = .toggleX)
    (hchannel : item.channel = some c)
    (haddressed : .channel c ∈ (furnish mask descriptor).addressees ns c) {k : Entity}
    (hk : (furnish mask descriptor).entity? (.channel c) = some k) : k.kind ≠ .climate := by
  refine kind_of_toggled (e := k.bare) ?_ (roster_of_furnish hk)
  rcases hns with rfl | rfl
  · -- Toggles are never made by default.
    rcases lookup_of_addressees (furnish mask descriptor) .toggle c with
      ⟨-, htargets, -⟩ | ⟨-, hlookup⟩
    · rw [htargets, (wired_furnish mask descriptor).mem_targets] at haddressed
      obtain ⟨-, c', hc', hnamed⟩ := registered_furnish_iff.1 haddressed.2
      cases List.mem_singleton.1 hnamed
      exact .inl hc'
    · rw [addressees_eq, hlookup] at haddressed
      cases haddressed
  · exact .inr (mem_channels hx hchannel nofun)

end Roster

/-! ## Thermostats of a device in use -/

/-- Sensors take no orders. -/
theorem not_serves {s : Entity}
    (hkind : s.kind = .binarySensor ∨ s.kind = .stateSensor ∨ s.kind = .sensor) {o : Order}
    {ch : Channel} {cmd : Command} : ¬o.ServesCommand s ch cmd := by
  intro hserves
  cases hserves with
  | power htoggle =>
    rcases hkind with hkind | hkind | hkind <;> rw [hkind] at htoggle <;> cases htoggle
  | mode hk | preset hk | spray hk | mute hk | volume hk | next hk | previous hk =>
    rw [hk] at hkind
    rcases hkind with hkind | hkind | hkind <;> cases hkind

namespace Descends

variable {mask : UInt8} {descriptor : Descriptor} {d : Device} {c : Channel}
  (h : Descends mask descriptor d)
include h

theorem apart : d.DerivedApart := by
  intro c id hid ns c' hmem
  rw [h.addressees] at hmem
  exact derivedApart_furnish mask descriptor c id hid ns c' hmem

/-- The descriptor speaks of every climate. -/
theorem roster {id : EntityId} {k : Entity} (hk : d.entity? id = some k)
    (hkind : k.kind = .climate) : descriptor.roster mask id = some k.bare := by
  obtain ⟨k₀, hk₀, hbare⟩ := h.climate hk hkind
  rw [roster_of_furnish hk₀, hbare]

/-- A climate is that of a thermostat. -/
theorem thermostat {id : EntityId} {k : Entity} (hk : d.entity? id = some k)
    (hkind : k.kind = .climate) :
    ∃ c, id = .channel c ∧ k.commandedBy = some .thermostatMode := by
  obtain ⟨c, -, hid, hcommanded⟩ := climate_of_roster (h.roster hk hkind) hkind
  exact ⟨c, hid, hcommanded⟩

theorem listed {k : Entity} (hk : d.entity? (.channel c) = some k) (hkind : k.kind = .climate) :
    c ∈ descriptor.channels .thermostatMode := by
  obtain ⟨c', hc', hsame, -⟩ := climate_of_roster (h.roster hk hkind) hkind
  rwa [EntityId.channel.inj hsame]

theorem present {id : EntityId} {e : Entity} (hroster : descriptor.roster mask id = some e) :
    ∃ s, d.entity? id = some s ∧ s.kind = e.kind := by
  rw [← roster_furnish] at hroster
  obtain ⟨s₀, hs₀, rfl⟩ := Option.map_eq_some_iff.1 hroster
  obtain ⟨s, hs, hbare⟩ := h.stays hs₀
  refine ⟨s, hs, ?_⟩
  rw [← hbare]
  rfl

theorem outputPower {k : Entity} (hk : d.entity? (.channel c) = some k)
    (hkind : k.kind = .climate) (hmask : mask &&& Member.outputPowerBit ≠ 0) :
    ∃ s, d.entity? (.keyed c outputPowerKey) = some s ∧ s.kind = .binarySensor := by
  have hroster : descriptor.roster mask (.keyed c outputPowerKey) =
      some (.binarySensor (.keyed c outputPowerKey)) := if_pos ⟨h.listed hk hkind, hmask⟩
  exact h.present hroster

theorem modeState {k : Entity} (hk : d.entity? (.channel c) = some k)
    (hkind : k.kind = .climate) (hmask : mask &&& Member.modeStateBit ≠ 0) :
    ∃ s, d.entity? (.keyed c modeStateKey) = some s ∧ s.kind = .stateSensor := by
  have hroster : descriptor.roster mask (.keyed c modeStateKey) =
      some (.stateSensor (.keyed c modeStateKey)) := if_pos ⟨h.listed hk hkind, hmask⟩
  exact h.present hroster

/-- What the descriptor does not speak of, and no item makes, a reading has made. -/
theorem kind_of_stray {id : EntityId} {s : Entity} (hs : d.entity? id = some s)
    (hmade : ∀ kind c, id ≠ defaultId kind c) :
    (∃ e, descriptor.roster mask id = some e ∧ e.kind = s.kind) ∨ s.kind = .sensor := by
  obtain ⟨es, htrace⟩ := h.trace
  have hsound : ∀ e, Scope.selfmade.enters e → e.Sound :=
    fun e he => (Entity.Supplied.made he).sound
  rcases htrace.stems hsound (sound_furnish mask descriptor) hs with
    ⟨s₀, hs₀, hbare⟩ | ⟨e, hsupplied, rfl, hbare⟩
  · refine .inl ⟨s₀.bare, roster_of_furnish hs₀, ?_⟩
    rw [← hbare, Entity.kind_bare]
  · rw [← Entity.kind_bare s, hbare, Entity.kind_bare]
    cases (hsupplied : e.Supplied) with
    | @item ns kind policy c' => exact absurd (id_ofKind ..) (hmade kind c')
    | reading id hscale => exact .inr rfl

/-- What has the id of a derived sensor is a sensor of some kind. -/
theorem kind_of_derivedIds {id : EntityId} {s : Entity} (hs : d.entity? id = some s)
    (hid : id ∈ derivedIds c) :
    s.kind = .binarySensor ∨ s.kind = .stateSensor ∨ s.kind = .sensor := by
  have hmade : ∀ kind c', id ≠ defaultId kind c' := by
    rintro kind c' rfl
    exact defaultId_not_mem_derivedIds kind c' c hid
  rcases h.kind_of_stray hs hmade with ⟨e, hroster, hkind⟩ | hsensor
  · rw [← hkind]
    rcases kind_of_roster hid hroster with hbinary | hstate
    · exact .inl hbinary
    · exact .inr (.inl hstate)
  · exact .inr (.inr hsensor)

/-- What has the id of a derived sensor takes no orders. -/
theorem serves_none {id : EntityId} {s : Entity} (hs : d.entity? id = some s)
    (hid : id ∈ derivedIds c) {o : Order} {ch : Channel} {cmd : Command} :
    ¬o.ServesCommand s ch cmd := not_serves (h.kind_of_derivedIds hs hid)

end Descends

/-! ## Stirs

A deed is at most one operation for the climate on a channel. The sensors
derived from the climate follow it then, or they stay as they are. -/

structure Stirs (c : Channel) (ops : List EntityOp) (synced : Prop) (d d' : Device) : Prop where
  climate : TookOpsAt d d' (.channel c) ops
  single : ops.length ≤ 1
  follow : synced → ∀ id ∈ derivedIds c, TookOpsAt d d' id (d'.following c id)
  stay : ¬synced → ∀ id ∈ derivedIds c, TookOpsAt d d' id []

namespace OperationDeed

/-- What a deed is for what has a channel as its id. -/
def opsAt (d : Device) (c : Channel) : OperationDeed → List EntityOp
  | pass x => d.plainOps (.channel c) x
  | read r => (d.measured r).sharedOps r (.channel c)
  | carry id o => d.opAt id o.op (.channel c)
  | forget | keep _ => []

/-- The deed makes the derived sensors of a channel follow. -/
def Syncs (d : Device) (c : Channel) : OperationDeed → Prop
  | pass x => d.Leads c x
  | carry id o => o.ns = .thermostatMode ∧ id.channel? = some c
  | read _ | forget | keep _ => False

end OperationDeed

section Stirs

variable {mask : UInt8} {descriptor : Descriptor} {d : Device}
  (hd : Descends mask descriptor d) (c : Channel)
include hd

theorem stirs_pass (x : Namespace × Item) :
    Stirs c (d.plainOps (.channel c) x) (d.Leads c x) d (pass x d).device where
  climate := by
    have htookAt := tookOpsAt_pass hd.fit x (.channel c)
    rwa [itemOps_channel] at htookAt
  single := length_plainOps d (.channel c) x
  follow hleads id hid := by
    have htookAt := tookOpsAt_pass hd.fit x id
    rwa [itemOps, hd.apart.plainOps hid, followOps_of_leads hd.fit hleads,
      List.nil_append] at htookAt
  stay hleads id hid := by
    have htookAt := tookOpsAt_pass hd.fit x id
    rwa [itemOps, hd.apart.plainOps hid, followOps_of_not_leads hid hleads] at htookAt

theorem stirs_read {r : Reading} (hkeyed : ∀ c, r.id ≠ .channel c)
    (hapart : ∀ c, r.id ∉ derivedIds c) :
    Stirs c ((d.measured r).sharedOps r (.channel c)) False d (applyReading r d).device where
  climate := by
    have htookAt := tookOpsAt_applyReading hd.fit.sound r (.channel c)
    rwa [partOps_channel hkeyed] at htookAt
  single := by
    unfold sharedOps
    split
    · exact Nat.zero_le 1
    · exact length_opAt ..
  follow hfalse := hfalse.elim
  stay _ id hid := by
    have htookAt := tookOpsAt_applyReading hd.fit.sound r id
    have hid' : ∀ c', id ≠ .channel c' := by
      rintro c' rfl
      exact not_mem_derivedIds_channel c' c hid
    have hne : id ≠ r.id := by
      rintro rfl
      exact hapart c hid
    rwa [partOps_sensor hid', measureOps, if_neg hne] at htookAt

omit hd in
/-- An order for a thermostat makes the derived sensors of its channel follow. -/
theorem tookOpsAt_carryOut (hs : d.Sound) {id : EntityId} {o : Order} {e : Entity} {ch : Channel}
    {cmd : Command}
    (he : d.entity? id = some e) (hserves : o.ServesCommand e ch cmd) (i : EntityId) :
    TookOpsAt d (carryOut id o d).device i (d.opAt id o.op i ++
      if o.ns = .thermostatMode then (carryOut id o d).device.following ch i else []) := by
  have hop : ∀ e, o.op.run e = (o.op.run e).map fun _ => () := fun _ => rfl
  have htookAt : TookOpsAt d (update id o.op.run d).device i (d.opAt id o.op i) :=
    tookOpsAt_update o.op hop hs o.op_ne_unavailable id i
  have hsound : (update id o.op.run d).device.Sound := by
    have htrace : Traced .any (update id o.op.run) d :=
      Traced.update o.op hop fun hp _ => hp.elim
    exact hs.trace htrace
  rw [carryOut_eq he hserves]
  change TookOpsAt d (syncAfter o.ns ch (update id o.op.run d).device).device i (_ ++
    if o.ns = .thermostatMode then
      (syncAfter o.ns ch (update id o.op.run d).device).device.following ch i else [])
  unfold syncAfter
  split
  · rw [following_sync hsound]
    exact htookAt.trans (tookOpsAt_sync hsound ch i)
  · rw [List.append_nil]
    exact htookAt

theorem stirs_carry {id : EntityId} {o : Order} {e : Entity} {ch : Channel} {cmd : Command}
    (he : d.entity? id = some e) (hch : id.channel? = some ch)
    (hserves : o.ServesCommand e ch cmd) :
    Stirs c (d.opAt id o.op (.channel c)) (o.ns = .thermostatMode ∧ id.channel? = some c) d
      (carryOut id o d).device := by
  have htookAt := tookOpsAt_carryOut hd.fit.sound he hserves
  have hderived : ∀ i ∈ derivedIds c, d.opAt id o.op i = [] := by
    intro i hi
    apply opAt_of_ne
    rintro rfl
    exact hd.serves_none he hi hserves
  refine ⟨?climate, length_opAt .., fun hsynced i hi => ?follow, fun hsynced i hi => ?stay⟩
  case climate =>
    have hchannel := htookAt (.channel c)
    rw [following_of_not_mem (not_mem_derivedIds_channel c ch), ite_self,
      List.append_nil] at hchannel
    exact hchannel
  case follow =>
    obtain rfl := Option.some.inj (hch.symm.trans hsynced.2)
    have hfollow := htookAt i
    rw [hderived i hi, if_pos hsynced.1] at hfollow
    exact hfollow
  case stay =>
    have hstay := htookAt i
    rw [hderived i hi, List.nil_append] at hstay
    split at hstay
    · rename_i hns
      rw [following_of_not_mem fun hi' => ?_] at hstay
      · exact hstay
      · have hsame := (channel?_of_mem_derivedIds hi').symm.trans (channel?_of_mem_derivedIds hi)
        exact hsynced ⟨hns, hch.trans hsame⟩
    · exact hstay

/-- What a deed other than a loss does at a channel. -/
theorem stirs {x : OperationDeed} (hapt : x.Apt d) (hx : x ≠ .forget) :
    Stirs c (x.opsAt d c) (x.Syncs d c) d (x.act d).device := by
  cases x with
  | pass x => exact stirs_pass hd c x
  | read r => exact stirs_read hd c hapt.2.1 hapt.2.2
  | forget => exact absurd rfl hx
  | carry id o =>
    obtain ⟨e, ch, cmd, he, hch, hserves⟩ := hapt
    exact stirs_carry hd c he hch hserves
  | keep digest =>
    exact ⟨.of_eq rfl, Nat.zero_le 1, fun hfalse => hfalse.elim, fun _ _ _ => .of_eq rfl⟩

end Stirs

/-! ### What reaches a climate -/

/-- How a deed reaches the climate on a channel. -/
inductive Reaches (d : Device) (c : Channel) : OperationDeed → List EntityOp → Prop where
  | nothing {x : OperationDeed} : Reaches d c x []
  | item {ns : Namespace} {item : Item} (channel : item.channel = some c)
      (addressed : .channel c ∈ d.addressees ns c) :
      Reaches d c (.pass (ns, item)) [.item ns item.body]
  | humidity {r : Reading} (x : Float) (shared : r.humidityOf = some c) :
      Reaches d c (.read r) [.humidity x]
  | power (on : Bool) :
      Reaches d c (.carry (.channel c) (.power .thermostatMode c on)) [.power on]
  | mode (m : Int64) : Reaches d c (.carry (.channel c) (.mode c m)) [.mode m]

section Reaches

variable {mask : UInt8} {descriptor : Descriptor} {d : Device} (hd : Descends mask descriptor d)
  {c : Channel}
include hd

theorem reaches_pass (x : Namespace × Item) :
    Reaches d c (.pass x) (d.plainOps (.channel c) x) := by
  unfold plainOps
  split
  · rename_i hfor
    obtain ⟨c', hc, hmem⟩ := Option.any_eq_true .. |>.1 hfor
    have hmem := List.contains_iff_mem.1 hmem
    obtain rfl := Option.some.inj (mem_addressees hd.fit.wired hmem).1
    exact .item hc hmem
  · exact .nothing

omit hd in
theorem reaches_read (r : Reading) :
    Reaches d c (.read r) ((d.measured r).sharedOps r (.channel c)) := by
  unfold sharedOps
  split
  · exact .nothing
  · rename_i c' y hpassed
    obtain ⟨c'', hshared, hx⟩ := Option.bind_eq_some_iff.1 hpassed
    obtain ⟨_, -, hpair⟩ := Option.map_eq_some_iff.1 hx
    cases hpair
    unfold opAt
    split
    · rename_i hhere
      obtain rfl := EntityId.channel.inj hhere.1
      exact .humidity y hshared
    · exact .nothing

/-- An order for a thermostat turns it on or off, or sets its mode. -/
theorem reaches_carry {o : Order} {k : Entity} (hk : d.entity? (.channel c) = some k)
    (hkind : k.kind = .climate) {cmd : Command} (hserves : o.ServesCommand k c cmd) :
    Reaches d c (.carry (.channel c) o) [o.op] := by
  obtain ⟨-, -, hcommanded⟩ := hd.thermostat hk hkind
  cases hserves with
  | @power ns on _ hns =>
    rw [powerNamespace?, hkind, hcommanded] at hns
    cases hns
    exact .power on
  | mode | preset => exact .mode _
  | spray h | mute h | volume h | next h | previous h =>
    rw [hkind] at h
    cases h

theorem reaches {x : OperationDeed} (hapt : x.Apt d) {k : Entity}
    (hk : d.entity? (.channel c) = some k) (hkind : k.kind = .climate) :
    Reaches d c x (x.opsAt d c) := by
  cases x with
  | pass x => exact reaches_pass hd x
  | read r => exact reaches_read r
  | carry id o =>
    obtain ⟨e, ch, cmd, he, hch, hserves⟩ := hapt
    change Reaches d c _ (d.opAt id o.op (.channel c))
    unfold opAt
    split
    · rename_i hhere
      obtain ⟨rfl, -⟩ := hhere
      obtain rfl := Option.some.inj hch
      obtain rfl := Option.some.inj (hk.symm.trans he)
      exact reaches_carry hd hk hkind hserves
    · exact .nothing
  | forget | keep digest => exact .nothing

end Reaches

/-- The climate that is on a channel after a deed was on it before, and took what reached it. -/
theorem climate_act {mask : UInt8} {descriptor : Descriptor} {d : Device}
    (hd : Descends mask descriptor d) {x : OperationDeed} (hapt : x.Apt d) (hx : x ≠ .forget)
    {c : Channel} {k' : Entity} (hk' : (x.act d).device.entity? (.channel c) = some k')
    (hkind : k'.kind = .climate) :
    ∃ k, d.entity? (.channel c) = some k ∧ k.kind = .climate ∧
      Reaches d c x (x.opsAt d c) ∧ TookOps (x.opsAt d c) k k' := by
  obtain ⟨k₀, hk₀, hbare₀⟩ := (hd.act hapt).climate hk' hkind
  obtain ⟨k, hk, hbare⟩ := hd.stays hk₀
  have hkind' : k.kind = .climate := by
    rw [← Entity.kind_bare, hbare, ← hbare₀]
    exact hkind
  obtain ⟨k'', hk'', htook⟩ := (stirs hd c hapt hx).climate.present k hk
  obtain rfl := Option.some.inj (hk'.symm.trans hk'')
  exact ⟨k, hk, hkind', reaches hd hapt hk hkind', htook⟩

end Device

/-- What a radiator with one thermostat, whose valve is open, tells of it. -/
def Descriptor.radiatorDigest (on : Int) : Json :=
  .obj [("thermostat", .obj [("mode", .arr [.obj [("channel", .int 0), ("mode", .int 0),
    ("onoff", .int on), ("state", .int 1)]])])]

/-- A radiator with one thermostat, which is on and heats. -/
def Descriptor.radiator : Descriptor where
  uuid := "radiator"
  ability := .ofKeys [.thermostatMode]
  digest := radiatorDigest 1

end Appliance
