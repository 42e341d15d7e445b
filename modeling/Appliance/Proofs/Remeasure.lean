-- SUMMARY: Sensor payloads that are taken in again leave the device as it is.

import Appliance.Proofs.Delivery

namespace Appliance

namespace Reading

/-! ## Apt readings -/

/-- What holds of the readings of a payload: they are sane, their sensors are
    no channels' own, and just those of a humidity sensor are passed on. -/
structure Apt (parts : List Part) : Prop where
  sane : ∀ r, .ok r ∈ parts → Device.SaneReading True r
  keyed : ∀ r, .ok r ∈ parts → ∀ c, r.id ≠ .channel c
  shared : ∀ r, .ok r ∈ parts → ∀ c, r.humidityOf = some c →
    r.id = humidityId c ∧ r.scale = Measure.scaleOf "humi"
  alike : ∀ r, .ok r ∈ parts → ∀ r', .ok r' ∈ parts → r.id = r'.id → r.humidityOf = r'.humidityOf

theorem Apt.tail {part : Part} {parts : List Part} (h : Apt (part :: parts)) : Apt parts where
  sane r hr := h.sane r (List.mem_cons_of_mem _ hr)
  keyed r hr := h.keyed r (List.mem_cons_of_mem _ hr)
  shared r hr := h.shared r (List.mem_cons_of_mem _ hr)
  alike r hr r' hr' := h.alike r (List.mem_cons_of_mem _ hr) r' (List.mem_cons_of_mem _ hr')

theorem Source.apt {parts : List Part} (h : Source parts)
    (hsane : ∀ r, .ok r ∈ parts → Device.SaneReading True r) : Apt parts where
  sane := hsane
  keyed r hr c hid := by
    cases h with
    | diffuser h =>
      obtain ⟨-, key, hkey⟩ := h r hr
      rw [hkey] at hid
      cases hid
    | values h =>
      obtain ⟨c', key, hfor, -⟩ := h r hr
      rw [hfor.id] at hid
      cases hid
    | samples h =>
      obtain ⟨-, c', key, hfor⟩ := h r hr
      rw [hfor.id] at hid
      cases hid
  shared r hr c hc := by
    cases h with
    | diffuser h | samples h =>
      rw [(h r hr).1] at hc
      cases hc
    | values h =>
      obtain ⟨c', key, hfor, hhumidity⟩ := h r hr
      rw [hhumidity] at hc
      split at hc
      · rename_i hkey
        subst hkey
        cases hc
        exact ⟨hfor.id, hfor.scale⟩
      · cases hc
  alike r hr r' hr' hid := by
    cases h with
    | diffuser h | samples h => rw [(h r hr).1, (h r' hr').1]
    | values h =>
      obtain ⟨c, key, hfor, hhumidity⟩ := h r hr
      obtain ⟨c', key', hfor', hhumidity'⟩ := h r' hr'
      obtain ⟨rfl, rfl⟩ := hfor.inj hfor' hid
      rw [hhumidity, hhumidity']

theorem apt_ofPayload {ns : Namespace} {payload : Json} (hwf : payload.WellFormed)
    {parts : List Part} (h : ofPayload ns payload = .ok parts) : Apt parts :=
  (source_ofPayload h).apt fun _ hr => Device.sane_ofPayload (fun _ => hwf) h hr

end Reading

namespace Device

open Entity (TookOps Replays)
open Reading (Apt humidityId)

/-! ## Readings as operations

A reading is measured by its sensor. A humidity goes on, as the sensor then
shows it, to the climate of the channel. -/

/-- The operation by which a sensor measures a reading. -/
def measureOp (r : Reading) : EntityOp :=
  match r.attributes with
  | some attributes => .deviceWith r.value attributes
  | none => .device r.value

theorem run_measureOp (r : Reading) (e : Entity) :
    (measureOp r).run e = (measure r e).map fun _ => () := by
  unfold measureOp measure
  cases r.attributes <;> rfl

theorem measureOp_ne_unavailable (r : Reading) : measureOp r ≠ .unavailable := by
  unfold measureOp
  cases r.attributes <;> exact EntityOp.noConfusion

/-- The device once a reading was measured. -/
def measured (d : Device) (r : Reading) : Device :=
  (update r.id (measure r) (d.ensureSensor r.id r.scale)).device

/-- The humidity that a sensor, once it measured a reading, passes on. -/
def passedOn? (d : Device) (r : Reading) : Option (Channel × Float) :=
  r.humidityOf.bind fun c => ((d.entity? r.id).bind (·.native?)).map fun x => (c, x)

/-- What follows the measuring of a reading. -/
def sharedOps (d : Device) (r : Reading) (id : EntityId) : List EntityOp :=
  match d.passedOn? r with
  | none => []
  | some (c, x) => d.opAt (.channel c) (.humidity x) id

/-- What a part does to what has an id. -/
def partOps : Reading.Part → Device → EntityId → List EntityOp
  | .error _, _, _ => []
  | .ok r, d, id => (if id = r.id then [measureOp r] else []) ++ (d.measured r).sharedOps r id

/-- A part measures its reading, and shares no more than a humidity. -/
theorem mem_partOps {part : Reading.Part} {d : Device} {id : EntityId} {op : EntityOp}
    (h : op ∈ partOps part d id) : (∃ r, op = measureOp r) ∨ ∃ x, op = .humidity x := by
  cases part with
  | error fault => cases h
  | ok r =>
    rcases List.mem_append.1 h with hmeasure | hshared
    · split at hmeasure
      · exact .inl ⟨r, List.mem_singleton.1 hmeasure⟩
      · cases hmeasure
    · unfold sharedOps at hshared
      split at hshared
      · cases hshared
      · exact .inr ⟨_, (mem_opAt hshared).2⟩

/-- A reading that was measured has its sensor. -/
def Measured (part : Reading.Part) (d : Device) : Prop :=
  ∀ r, part = .ok r → ∃ e, d.entity? r.id = some e

section Reading

variable {r : Reading} {d : Device}

theorem device_applyReading (r : Reading) (d : Device) :
    (applyReading r d).device =
      match (d.measured r).passedOn? r with
      | none => d.measured r
      | some (c, x) => (update (.channel c) (giveHumidity x) (d.measured r)).device := by
  unfold applyReading measured passedOn?
  simp only [Action.bind_apply, Action.modify, device_change]
  cases r.humidityOf with
  | none => rfl
  | some c =>
    simp only [shareHumidity, Action.bind_apply, Action.device, Option.bind_some]
    cases ((update r.id (measure r) (d.ensureSensor r.id r.scale)).device.entity? r.id).bind
      (·.native?) <;> rfl

theorem entity?_ensureSensor (d : Device) (id id' : EntityId) (scale : Float) :
    (d.ensureSensor id scale).entity? id' =
      if id' = id then some ((d.entity? id).getD (.sensor id scale)) else d.entity? id' := by
  rw [← insert_sensor, entity?_insert]
  change (if d.entity? id = none ∧ id' = id then _ else _) = _
  by_cases hid : id' = id
  · subst hid
    cases d.entity? id' <;> simp
  · simp [hid]

theorem entity?_measured (d : Device) (r : Reading) (id : EntityId) :
    (d.measured r).entity? id =
      if id = r.id then
        some ((measureOp r).run ((d.entity? r.id).getD (.sensor r.id r.scale))).entity
      else d.entity? id := by
  rw [measured, entity?_update]
  split
  · rw [entity?_ensureSensor, if_pos rfl, Option.map_some, run_measureOp]
    rfl
  · rename_i hid
    rw [entity?_ensureSensor, if_neg hid]

/-- What has the id of a sensor, or else the sensor that is made, is sound. -/
theorem sound_getD (hs : d.Sound) (id : EntityId) (scale : Float) :
    ((d.entity? id).getD (.sensor id scale)).Sound := by
  cases he : d.entity? id with
  | none => exact (Entity.Made.sensor id scale).sound
  | some e => exact hs id e he

theorem tookOps_measured (hs : d.Sound) (r : Reading) :
    TookOps [measureOp r] ((d.entity? r.id).getD (.sensor r.id r.scale))
      ((measureOp r).run ((d.entity? r.id).getD (.sensor r.id r.scale))).entity :=
  TookOps.run (sound_getD hs r.id r.scale) (measureOp_ne_unavailable r)

theorem sound_measured (hs : d.Sound) (r : Reading) : (d.measured r).Sound := by
  intro id e he
  rw [entity?_measured] at he
  split at he
  · obtain rfl := Option.some.inj he
    exact EntityOp.sound_run _ (sound_getD hs r.id r.scale)
  · exact hs id e he

theorem tookOpsAt_measured (hs : d.Sound) (r : Reading) (id : EntityId) :
    TookOpsAt d (d.measured r) id (if id = r.id then [measureOp r] else []) := by
  have hafter := entity?_measured d r id
  split
  · rename_i hid
    subst hid
    rw [if_pos rfl] at hafter
    have htook := tookOps_measured hs r
    refine ⟨fun e he => ?_, fun hnone => ?_⟩
    · rw [he, Option.getD_some] at hafter htook
      exact ⟨_, hafter, htook⟩
    · rw [hnone, Option.getD_none] at hafter htook
      exact .inr ⟨_, _, .sensor r.id r.scale, hafter, htook⟩
  · rename_i hid
    rw [if_neg hid] at hafter
    exact .of_eq hafter

theorem tookOpsAt_shared (hs : d.Sound) (r : Reading) (id : EntityId) :
    TookOpsAt (d.measured r) (applyReading r d).device id ((d.measured r).sharedOps r id) := by
  rw [device_applyReading, sharedOps]
  cases (d.measured r).passedOn? r with
  | none => exact .of_eq rfl
  | some p =>
    exact tookOpsAt_update (.humidity p.2) (fun _ => rfl) (sound_measured hs r)
      EntityOp.noConfusion _ id

theorem tookOpsAt_applyReading (hs : d.Sound) (r : Reading) (id : EntityId) :
    TookOpsAt d (applyReading r d).device id (partOps (.ok r) d id) :=
  (tookOpsAt_measured hs r id).trans (tookOpsAt_shared hs r id)

/-- A reading whose sensor is there makes and registers nothing. -/
theorem leaves_applyReading (hs : d.Sound) {e : Entity} (he : d.entity? r.id = some e) :
    Leaves d (applyReading r d).device := by
  have hcontains : d.entities.contains r.id = true := by
    unfold entity? at he
    rw [Table.contains, he]
    rfl
  have hmeasured : Leaves d (d.measured r) := by
    rw [measured, ensureSensor, if_pos hcontains]
    exact leaves_update (measureOp r) (run_measureOp r) hs r.id
  refine hmeasured.trans ?_
  rw [device_applyReading]
  cases (d.measured r).passedOn? r with
  | none => exact .refl _
  | some p => exact leaves_update (.humidity p.2) (fun _ => rfl) (sound_measured hs r) _

end Reading

theorem repeatable_applyPart (ns : Namespace) {parts : List Reading.Part} (hapt : Apt parts) :
    Repeatable (applyPart ns) partOps Measured parts where
  fit part hpart d hd := by
    cases part with
    | error fault => exact hd
    | ok r =>
      have hsane : SaneReading False r :=
        ⟨(hapt.sane r hpart).scale, fun h => h.elim, fun h => h.elim⟩
      exact hd.trace (traced_applyReading Scope.opens_calm hsane d)
  tookOpsAt part _ d hd id := by
    cases part with
    | error fault => exact .of_eq rfl
    | ok r => exact tookOpsAt_applyReading hd.sound r id
  ready part _ d hd := by
    rintro r rfl
    have hmeasured := entity?_measured d r r.id
    rw [if_pos rfl] at hmeasured
    obtain ⟨e', he', -⟩ := (tookOpsAt_shared hd.sound r r.id).present _ hmeasured
    exact ⟨e', he'⟩
  stays part _ y d hd hy := by
    intro r hr
    obtain ⟨e, he⟩ := hy r hr
    cases part with
    | error fault => exact ⟨e, he⟩
    | ok r' =>
      obtain ⟨e', he', -⟩ := (tookOpsAt_applyReading hd.sound r' r.id).present e he
      exact ⟨e', he'⟩
  leaves part _ d hd hready := by
    cases part with
    | error fault => exact .refl d
    | ok r =>
      obtain ⟨e, he⟩ := hready r rfl
      exact leaves_applyReading hd.sound he

/-! ## Sensors

A sensor takes what is measured, and nothing else. -/

/-- What a part is to a sensor. -/
def measureOps (id : EntityId) : Reading.Part → List EntityOp
  | .error _ => []
  | .ok r => if id = r.id then [measureOp r] else []

theorem sharedOps_of_ne {id : EntityId} (hid : ∀ c, id ≠ .channel c) (d : Device) (r : Reading) :
    d.sharedOps r id = [] := by
  unfold sharedOps
  split
  · rfl
  · exact opAt_of_ne (hid _) _

theorem partOps_sensor {id : EntityId} (hid : ∀ c, id ≠ .channel c) (part : Reading.Part)
    (d : Device) : partOps part d id = measureOps id part := by
  cases part with
  | error fault => rfl
  | ok r => rw [partOps, sharedOps_of_ne hid, List.append_nil, measureOps]

theorem history_sensor (ns : Namespace) {id : EntityId} (hid : ∀ c, id ≠ .channel c)
    (parts : List Reading.Part) (d : Device) :
    history (applyPart ns) partOps parts d id = parts.flatMap (measureOps id) := by
  induction parts generalizing d with
  | nil => rfl
  | cons part parts ih => rw [history, partOps_sensor hid, ih, List.flatMap_cons]

/-! ## Humidities

What a climate is given are the values that the humidity sensor of its channel
shows while it measures. -/

/-- The values that an entity shows while operations come in. -/
def natives : List EntityOp → Entity → List Float
  | [], _ => []
  | op :: ops, e => (op.run e).entity.native?.toList ++ natives ops (op.run e).entity

theorem natives_of_not_carries {e : Entity} (h : e.Sound) (hkind : e.kind.carries .device = false)
    (ops : List EntityOp) : natives ops e = [] := by
  induction ops generalizing e with
  | nil => rfl
  | cons op ops ih =>
    have hs := EntityOp.sound_run op h
    have hk : (op.run e).entity.kind.carries .device = false := by
      rw [EntityOp.kind_run op h]
      exact hkind
    have hnone : (op.run e).entity.native? = none := by
      have hmeasure : (op.run e).entity.status.measure = none :=
        Option.map_eq_none_iff.1 (hs.shaped.datum_eq_none hk)
      rw [Entity.native?, hmeasure]
      rfl
    rw [natives, hnone, ih hs hk]
    rfl

/-- A measured value in natural units. -/
def naturally (scale : Float) (a : Option Float) : Option Float := a.map (· / scale)

theorem native?_eq {e : Entity} (h : e.Sound) {a : Option Float} {scale : Float}
    (ha : e.status.datum? .device = some a)
    (hscale : e.status.measure.map (·.scale) = some scale) : e.native? = naturally scale a := by
  obtain ⟨m, hm, rfl⟩ := Option.map_eq_some_iff.1 hscale
  rw [Status.datum?, hm, Option.map_some, Option.some.injEq] at ha
  rw [Entity.native?, hm, Option.bind_some, h.consistent.native m hm, ha, naturally]

theorem naturally_beq {scale : Float} (hscale : Double.IsScale scale) {a b : Option Float}
    (h : (a == b) = true) : (naturally scale a == naturally scale b) = true := by
  cases a <;> cases b
  · rfl
  · cases h
  · cases h
  · exact Double.div_beq_div h hscale

theorem scale_congr {s t : Status} (h : t.clear = s.clear) :
    t.measure.map (·.scale) = s.measure.map (·.scale) := by
  have hmeasure : t.measure.map Measure.clear = s.measure.map Measure.clear :=
    congrArg Status.measure h
  have hscale := congrArg (Option.map Measure.scale) hmeasure
  rwa [Option.map_map, Option.map_map] at hscale

theorem says?_measureOp {kind : Kind} (h : kind.carries .device = true) (r : Reading) :
    EntityOp.says? kind .device (measureOp r) = some (some r.value) := by
  unfold measureOp
  cases r.attributes <;>
    simp [EntityOp.says?, EntityOp.report?, Entity.heardIf, h, Report.ofDeviceWith,
      Report.ofDevice]

/-- What is measured is known then. -/
theorem value_assign_some {α : Type} [BEq α] (a : Option α) (v : α) :
    ∃ x, (assign a (some (some v))).value = some x := by
  cases hv : a == some v with
  | true =>
    rw [Part.value_assign_of_beq hv]
    cases a with
    | none => cases hv
    | some x => exact ⟨x, rfl⟩
  | false => exact ⟨v, Part.value_assign_of_not_beq hv⟩

/-- A sensor that has measured a number shows a number. -/
theorem native_of_tookOps {r : Reading} (hvalue : r.value ≠ Float.nan) {e e' : Entity}
    (hs : e.Sound) (hs' : e'.Sound) (hscaled : e.Scaled) (hcarries : e.kind.carries .device = true)
    (h : TookOps [measureOp r] e e') : ∃ x, e'.native? = some x ∧ x ≠ Float.nan := by
  obtain ⟨a, ha⟩ := hs.exists_datum rfl hcarries
  obtain ⟨m, hm, -⟩ := Option.map_eq_some_iff.1 ha
  have hscale : e'.status.measure.map (·.scale) = some m.scale := by
    rw [scale_congr h.clear, hm]
    rfl
  have hdevice : e'.status.datum? .device = some (assign a (some (some r.value))).value := by
    rw [h.datum, ha, EntityOp.writes_singleton, says?_measureOp hcarries]
    rfl
  have hproper : Proper (some r.value) := proper_some.2 (proper_float.2 hvalue)
  have hbeq : ((assign a (some (some r.value))).value == some r.value) = true :=
    Part.value_assign_beq hproper
  obtain ⟨z, hz⟩ := value_assign_some a r.value
  rw [hz] at hdevice hbeq
  have hz : z ≠ Float.nan := (Float.beq_iff_ne_nan_and_eq.1 hbeq).1
  exact ⟨z / m.scale, native?_eq hs' hdevice hscale, Double.div_ne_nan hz (hscaled m hm)⟩

/-- A sensor shows the trail of what it measures. -/
theorem natives_trail {ops : List EntityOp} (hops : ∀ op ∈ ops, ∃ r, op = measureOp r) {e : Entity}
    (h : e.Sound) {a : Option Float} {scale : Float} (ha : e.status.datum? .device = some a)
    (hscale : e.status.measure.map (·.scale) = some scale) :
    (natives ops e).map some =
      Part.trail (naturally scale) (EntityOp.writes e.kind .device ops) a := by
  induction ops generalizing e a with
  | nil => rfl
  | cons op ops ih =>
    obtain ⟨r, rfl⟩ := hops op (List.mem_cons_self ..)
    have hs := EntityOp.sound_run (measureOp r) h
    have htook := TookOps.run h (measureOp_ne_unavailable r)
    have hcarries : e.kind.carries .device = true := by
      rw [← h.carries, ha]
      rfl
    have hwrites : EntityOp.writes e.kind .device (measureOp r :: ops) =
        some r.value :: EntityOp.writes e.kind .device ops :=
      List.filterMap_cons_some (says?_measureOp hcarries r)
    have ha' : ((measureOp r).run e).entity.status.datum? .device =
        some (assign a (some (some r.value))).value := by
      rw [htook.datum, ha, EntityOp.writes_singleton, says?_measureOp hcarries]
      rfl
    have hscale' := (scale_congr htook.clear).trans hscale
    have hrest := ih (fun op hop => hops op (List.mem_cons_of_mem _ hop)) hs ha' hscale'
    obtain ⟨x, hx⟩ := value_assign_some a r.value
    rw [htook.kind] at hrest
    rw [hwrites, Part.trail, natives, List.map_append, hrest, native?_eq hs ha' hscale', hx]
    rfl

/-! ### The climate of a channel -/

/-- The humidity sensor of a channel as it is, or as it would be made. -/
def humiditySensor (d : Device) (c : Channel) : Entity :=
  (d.entity? (humidityId c)).getD (.sensor (humidityId c) (Measure.scaleOf "humi"))

section Channel

variable {d : Device} {c : Channel} {r : Reading}

theorem humidityId_ne_channel (c c' : Channel) : humidityId c ≠ .channel c' :=
  EntityId.noConfusion

theorem entity?_applyReading (d : Device) (r : Reading) {id : EntityId}
    (hid : ∀ c, id ≠ .channel c) :
    (applyReading r d).device.entity? id = (d.measured r).entity? id := by
  rw [device_applyReading]
  cases (d.measured r).passedOn? r with
  | none => rfl
  | some p =>
    simp only
    rw [entity?_update, if_neg (hid p.1)]

theorem humiditySensor_applyReading (hid : r.id = humidityId c)
    (hscale : r.scale = Measure.scaleOf "humi") :
    (applyReading r d).device.humiditySensor c =
      ((measureOp r).run (d.humiditySensor c)).entity := by
  unfold humiditySensor
  rw [entity?_applyReading d r (humidityId_ne_channel c), entity?_measured, if_pos hid.symm,
    Option.getD_some, hid, hscale]

theorem humiditySensor_of_ne (hid : r.id ≠ humidityId c) :
    (applyReading r d).device.humiditySensor c = d.humiditySensor c := by
  unfold humiditySensor
  rw [entity?_applyReading d r (humidityId_ne_channel c), entity?_measured, if_neg hid.symm]

/-- Readings make nothing for a channel itself. -/
theorem isSome_channel (hkeyed : ∀ c, r.id ≠ .channel c) (d : Device) :
    ((applyReading r d).device.entity? (.channel c)).isSome =
      (d.entity? (.channel c)).isSome := by
  have hmeasured : (d.measured r).entity? (.channel c) = d.entity? (.channel c) := by
    rw [entity?_measured, if_neg fun h => hkeyed c h.symm]
  rw [device_applyReading]
  cases (d.measured r).passedOn? r with
  | none => exact congrArg Option.isSome hmeasured
  | some p =>
    simp only
    rw [entity?_update]
    split
    · rename_i hid
      rw [← hid, hmeasured, Option.isSome_map]
    · rw [hmeasured]

theorem isSome_channel_forEach (ns : Namespace) {parts : List Reading.Part}
    (hkeyed : ∀ r, .ok r ∈ parts → ∀ c, r.id ≠ .channel c) (d : Device) :
    ((Action.forEach parts (applyPart ns) d).device.entity? (.channel c)).isSome =
      (d.entity? (.channel c)).isSome := by
  induction parts generalizing d with
  | nil => rfl
  | cons part parts ih =>
    have hrest := ih (fun r hr => hkeyed r (List.mem_cons_of_mem _ hr)) (applyPart ns part d).device
    cases part with
    | error fault => exact hrest
    | ok r => exact hrest.trans (isSome_channel (hkeyed r (List.mem_cons_self ..)) d)

theorem partOps_channel (hkeyed : ∀ c, r.id ≠ .channel c) :
    partOps (.ok r) d (.channel c) = (d.measured r).sharedOps r (.channel c) := by
  rw [partOps, if_neg fun h => hkeyed c h.symm, List.nil_append]

/-- A humidity is given as the sensor shows it. -/
theorem sharedOps_of_shared (hid : r.id = humidityId c) (hscale : r.scale = Measure.scaleOf "humi")
    (hshared : r.humidityOf = some c)
    (hthere : ((d.measured r).entity? (.channel c)).isSome = true) :
    (d.measured r).sharedOps r (.channel c) =
      ((measureOp r).run (d.humiditySensor c)).entity.native?.toList.map EntityOp.humidity := by
  have hsensor : (d.measured r).entity? r.id =
      some ((measureOp r).run (d.humiditySensor c)).entity := by
    rw [entity?_measured, if_pos rfl, hid, hscale]
    rfl
  unfold sharedOps passedOn?
  rw [hshared, hsensor, Option.bind_some, Option.bind_some]
  cases ((measureOp r).run (d.humiditySensor c)).entity.native? with
  | none => rfl
  | some x => exact opAt_self hthere _

theorem sharedOps_of_not_shared (d : Device) (h : r.humidityOf ≠ some c) :
    d.sharedOps r (.channel c) = [] := by
  unfold sharedOps
  split
  · rfl
  · rename_i c' x hpassed
    refine opAt_of_ne (fun hid => h ?_) _
    obtain ⟨c'', hc, hx⟩ := Option.bind_eq_some_iff.1 hpassed
    obtain ⟨y, -, hy⟩ := Option.map_eq_some_iff.1 hx
    cases hy
    cases hid
    exact hc

/-- Without humidities a channel itself is left alone. -/
theorem history_unshared (ns : Namespace) {parts : List Reading.Part}
    (hkeyed : ∀ r, .ok r ∈ parts → ∀ c, r.id ≠ .channel c)
    (h : ∀ r, .ok r ∈ parts → r.humidityOf ≠ some c) (d : Device) :
    history (applyPart ns) partOps parts d (.channel c) = [] := by
  induction parts generalizing d with
  | nil => rfl
  | cons part parts ih =>
    have hrest := ih (fun r hr => hkeyed r (List.mem_cons_of_mem _ hr))
      (fun r hr => h r (List.mem_cons_of_mem _ hr)) (applyPart ns part d).device
    rw [history, hrest, List.append_nil]
    cases part with
    | error fault => rfl
    | ok r =>
      rw [partOps_channel (hkeyed r (List.mem_cons_self ..)),
        sharedOps_of_not_shared _ (h r (List.mem_cons_self ..))]

/-- The values that the climate of a channel is given are those that the sensor shows. -/
theorem history_channel (ns : Namespace) {parts : List Reading.Part} (hapt : Apt parts)
    (hall : ∀ r, .ok r ∈ parts → r.id = humidityId c → r.humidityOf = some c) (hd : d.Fit)
    (hthere : (d.entity? (.channel c)).isSome = true) :
    history (applyPart ns) partOps parts d (.channel c) =
      (natives (parts.flatMap (measureOps (humidityId c))) (d.humiditySensor c)).map
        EntityOp.humidity := by
  induction parts generalizing d with
  | nil => rfl
  | cons part parts ih =>
    have hrest := fun r hr => hall r (List.mem_cons_of_mem _ hr)
    cases part with
    | error fault => exact ih hapt.tail hrest hd hthere
    | ok r =>
      have hr := List.mem_cons_self (a := (.ok r : Reading.Part)) (l := parts)
      have hfit := (repeatable_applyPart ns hapt).fit _ hr d hd
      have hmeasured : ((d.measured r).entity? (.channel c)).isSome = true := by
        rw [entity?_measured, if_neg fun h => hapt.keyed r hr c h.symm]
        exact hthere
      have hstill := (isSome_channel (c := c) (hapt.keyed r hr) d).trans hthere
      rw [history, partOps_channel (hapt.keyed r hr), List.flatMap_cons]
      have hih := ih hapt.tail hrest hfit hstill
      by_cases hid : r.id = humidityId c
      · have hshared := hall r hr hid
        have hscale := (hapt.shared r hr c hshared).2
        have hsensor : (applyPart ns (.ok r) d).device.humiditySensor c =
            ((measureOp r).run (d.humiditySensor c)).entity :=
          humiditySensor_applyReading hid hscale
        rw [sharedOps_of_shared hid hscale hshared hmeasured, measureOps, if_pos hid.symm, hih,
          hsensor, List.singleton_append, natives, List.map_append]
      · have hnot : r.humidityOf ≠ some c := fun h => hid (hapt.shared r hr c h).1
        have hsensor : (applyPart ns (.ok r) d).device.humiditySensor c = d.humiditySensor c :=
          humiditySensor_of_ne hid
        rw [sharedOps_of_not_shared _ hnot, measureOps, if_neg fun h => hid h.symm, hih, hsensor,
          List.nil_append, List.nil_append]

theorem tookOps_humiditySensor (ns : Namespace) {parts : List Reading.Part} (hapt : Apt parts)
    (hall : ∀ r, .ok r ∈ parts → r.id = humidityId c → r.humidityOf = some c) (hd : d.Fit) :
    TookOps (parts.flatMap (measureOps (humidityId c))) (d.humiditySensor c)
      ((Action.forEach parts (applyPart ns) d).device.humiditySensor c) := by
  induction parts generalizing d with
  | nil => exact TookOps.nil (d.humiditySensor c) _
  | cons part parts ih =>
    have hrest := fun r hr => hall r (List.mem_cons_of_mem _ hr)
    cases part with
    | error fault => exact ih hapt.tail hrest hd
    | ok r =>
      have hr := List.mem_cons_self (a := (.ok r : Reading.Part)) (l := parts)
      have hfit := (repeatable_applyPart ns hapt).fit _ hr d hd
      have hih := ih hapt.tail hrest hfit
      rw [List.flatMap_cons, measureOps]
      by_cases hid : r.id = humidityId c
      · have hscale := (hapt.shared r hr c (hall r hr hid)).2
        have hsensor : (applyPart ns (.ok r) d).device.humiditySensor c =
            ((measureOp r).run (d.humiditySensor c)).entity :=
          humiditySensor_applyReading hid hscale
        rw [if_pos hid.symm]
        rw [hsensor] at hih
        exact (TookOps.run (sound_getD hd.sound _ _) (measureOp_ne_unavailable r)).append hih
      · have hsensor : (applyPart ns (.ok r) d).device.humiditySensor c = d.humiditySensor c :=
          humiditySensor_of_ne hid
        rw [if_neg fun h => hid h.symm, List.nil_append]
        rw [hsensor] at hih
        exact hih

end Channel

/-! ### Humidities that come again -/

theorem any_heard_humidities (xs : List Float) :
    (xs.map EntityOp.humidity).any (·.heard .climate) = !xs.isEmpty := by
  cases xs <;> rfl

theorem writes_humidities (xs : List Float) :
    EntityOp.writes .climate .humidity (xs.map EntityOp.humidity) = xs.map some := by
  induction xs with
  | nil => rfl
  | cons x xs ih => exact congrArg (some x :: ·) ih

theorem writes_humidities_of_ne {kind : Kind} {p : Part} (h : kind ≠ .climate ∨ p ≠ .humidity)
    (xs : List Float) : EntityOp.writes kind p (xs.map EntityOp.humidity) = [] := by
  refine List.filterMap_eq_nil_iff.2 fun op hop => ?_
  obtain ⟨x, -, rfl⟩ := List.mem_map.1 hop
  rcases h with hkind | hp
  · simp [EntityOp.says?, EntityOp.report?, Entity.heardIf, hkind]
  · cases kind <;> cases p <;> first | rfl | exact absurd rfl hp

/-- Only climates hear humidities. -/
theorem replays_humidities_of_ne {kind : Kind} (hkind : kind ≠ .climate) (xs ys : List Float) :
    Replays kind (xs.map EntityOp.humidity) (ys.map EntityOp.humidity) where
  heard hheard := by
    obtain ⟨op, hop, hheard⟩ := List.any_eq_true.1 hheard
    obtain ⟨x, -, rfl⟩ := List.mem_map.1 hop
    simp [EntityOp.heard, EntityOp.report?, Entity.heardIf, hkind] at hheard
  overwrite p a := by
    rw [writes_humidities_of_ne (.inl hkind)]
    rfl

/-- What a sensor shows again, after it measured all, changes no climate. -/
theorem replays_humidities {kind : Kind} {ops : List EntityOp}
    (hops : ∀ op ∈ ops, ∃ r, op = measureOp r)
    (hproper : ∀ op ∈ ops, op.Proper) {e e' : Entity} (hs : e.Sound) (hs' : e'.Sound)
    (hscaled : e.Scaled) (htook : TookOps ops e e') :
    Replays kind ((natives ops e).map EntityOp.humidity)
      ((natives ops e').map EntityOp.humidity) := by
  cases ha : e.status.datum? .device with
  | none =>
    have hcarries : e'.kind.carries .device = false := by
      rw [htook.kind, ← hs.carries, ha]
      rfl
    rw [natives_of_not_carries hs' hcarries]
    exact ⟨Bool.noConfusion, fun _ _ => rfl⟩
  | some a =>
    obtain ⟨m, hm, -⟩ := Option.map_eq_some_iff.1 ha
    have hscale : e.status.measure.map (·.scale) = some m.scale := by rw [hm]; rfl
    have hscale' := (scale_congr htook.clear).trans hscale
    have ha' : e'.status.datum? .device =
        some (Part.overwrite (EntityOp.writes e.kind .device ops) a) := by
      rw [htook.datum, ha, Option.map_some]
    have htrail := natives_trail hops hs ha hscale
    have htrail' := natives_trail hops hs' ha' hscale'
    rw [htook.kind] at htrail'
    by_cases hkind : kind = .climate
    · subst hkind
      refine ⟨fun hheard => ?_, fun p x => ?_⟩
      · have hempty := congrArg List.isEmpty htrail
        have hempty' := congrArg List.isEmpty htrail'
        rw [List.isEmpty_map, Part.isEmpty_trail] at hempty hempty'
        rwa [any_heard_humidities, hempty, ← hempty', ← any_heard_humidities]
      · by_cases hp : p = .humidity
        · subst hp
          rw [writes_humidities, writes_humidities, htrail, htrail']
          have hvalues : ∀ v ∈ EntityOp.writes e.kind .device ops, Proper (α := Option Float) v :=
            fun v hv => EntityOp.proper_writes hproper v hv
          exact Part.overwrite_trail_trail (naturally_beq (hscaled m hm)) hvalues a x
        · rw [writes_humidities_of_ne (.inr hp)]
          rfl
    · exact replays_humidities_of_ne hkind _ _

/-! ## Payloads that come again -/

theorem exists_of_mem_measureOps {id : EntityId} {parts : List Reading.Part} {op : EntityOp}
    (h : op ∈ parts.flatMap (measureOps id)) : ∃ r, .ok r ∈ parts ∧ op = measureOp r := by
  obtain ⟨part, hpart, hop⟩ := List.mem_flatMap.1 h
  cases part with
  | error fault => cases hop
  | ok r =>
    by_cases hid : id = r.id
    · rw [measureOps, if_pos hid] at hop
      exact ⟨r, hpart, List.mem_singleton.1 hop⟩
    · rw [measureOps, if_neg hid] at hop
      cases hop

theorem proper_measureOp {r : Reading} (h : SaneReading True r) : (measureOp r).Proper := by
  unfold measureOp
  cases ha : r.attributes with
  | none => exact EntityOp.proper_device (h.value trivial)
  | some attributes =>
    exact EntityOp.proper_deviceWith (h.value trivial) (h.attributes trivial _ ha)

theorem proper_measureOps {id : EntityId} {parts : List Reading.Part} (h : Apt parts) :
    ∀ op ∈ parts.flatMap (measureOps id), op.Proper := by
  intro op hop
  obtain ⟨r, hr, rfl⟩ := exists_of_mem_measureOps hop
  exact proper_measureOp (h.sane r hr)

section Again

variable (ns : Namespace) {parts : List Reading.Part} (hapt : Apt parts) {d : Device} (hd : d.Fit)
include hapt hd

/-- The climate of a channel is given the humidities that its sensor shows, and
    the sensor shows the same again. -/
theorem replays_channel {kind : Kind} {r : Reading} (hr : .ok r ∈ parts) {c : Channel}
    (hc : r.humidityOf = some c)
    (hthere' : ((Action.forEach parts (applyPart ns) d).device.entity?
      (.channel c)).isSome = true) :
    Replays kind (history (applyPart ns) partOps parts d (.channel c))
      (history (applyPart ns) partOps parts (Action.forEach parts (applyPart ns) d).device
        (.channel c)) := by
  have hfit := (repeatable_applyPart ns hapt).fit_forEach hd
  have hall : ∀ r', .ok r' ∈ parts → r'.id = humidityId c → r'.humidityOf = some c := by
    intro r' hr' hid
    have hsame := hapt.alike r' hr' r hr (hid.trans (hapt.shared r hr c hc).1.symm)
    exact hsame.trans hc
  have hthere := (isSome_channel_forEach ns hapt.keyed d).symm.trans hthere'
  rw [history_channel ns hapt hall hd hthere, history_channel ns hapt hall hfit hthere']
  refine replays_humidities (fun op hop => ?_) (proper_measureOps hapt)
    (sound_getD hd.sound _ _) (sound_getD hfit.sound _ _) ?_
    (tookOps_humiditySensor ns hapt hall hd)
  · obtain ⟨r, -, hop⟩ := exists_of_mem_measureOps hop
    exact ⟨r, hop⟩
  · unfold humiditySensor
    cases hsensor : d.entity? (humidityId c) with
    | none =>
      intro m hm
      cases hm
      exact isScale_scaleOf "humi"
    | some s => exact hd.scaled _ s hsensor

theorem replays_parts {e : Entity} {id : EntityId}
    (he : (Action.forEach parts (applyPart ns) d).device.entity? id = some e) :
    Replays e.kind (history (applyPart ns) partOps parts d id)
      (history (applyPart ns) partOps parts (Action.forEach parts (applyPart ns) d).device id) := by
  by_cases hid : ∃ c, id = .channel c
  · obtain ⟨c, rfl⟩ := hid
    by_cases hshared : ∃ r, .ok r ∈ parts ∧ r.humidityOf = some c
    · obtain ⟨r, hr, hc⟩ := hshared
      exact replays_channel ns hapt hd hr hc (Option.isSome_iff_exists.2 ⟨e, he⟩)
    · have hnone : ∀ r, .ok r ∈ parts → r.humidityOf ≠ some c := fun r hr hc =>
        hshared ⟨r, hr, hc⟩
      rw [history_unshared ns hapt.keyed hnone, history_unshared ns hapt.keyed hnone]
      exact Entity.replays_self fun op hop => by cases hop
  · have hsensor : ∀ c, id ≠ .channel c := fun c hc => hid ⟨c, hc⟩
    rw [history_sensor ns hsensor, history_sensor ns hsensor]
    exact Entity.replays_self (proper_measureOps hapt)

/-- Readings that are all taken in again leave the device as it is. -/
theorem forEach_applyPart_again :
    (Action.forEach parts (applyPart ns) (Action.forEach parts (applyPart ns) d).device).device =
      (Action.forEach parts (applyPart ns) d).device := by
  have hrepeat := repeatable_applyPart ns hapt
  have hfit := hrepeat.fit_forEach hd
  have hready := hrepeat.ready_forEach hd
  refine (hrepeat.leaves_forEach hfit hready).toKeeps.eq fun id => ?_
  refine hrepeat.entity?_forEach hfit hready fun e he => ?_
  obtain ⟨e₀, -, htook⟩ := (hrepeat.tookOpsAt_forEach hd id).origin hd.sound he
  exact ⟨_, e₀, htook, replays_parts ns hapt hd he⟩

end Again

end Device

end Appliance
