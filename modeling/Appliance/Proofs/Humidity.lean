-- SUMMARY: The humidity of a climate is the one that the humidity sensor of its channel shows, as long as no samples bypass it.

import Appliance.Proofs.Heating
import Appliance.Proofs.Measuring
import Appliance.Proofs.Permanence

namespace Appliance

/-- The humidity that is known of a climate. -/
def Entity.humidity? (e : Entity) : Option Float := e.status.climate.bind (·.humidity)

namespace Device

open Entity (TookOps)
open Reading (sensorKey humidityId)

/-! ## Sensors of readings

What a sensor of readings shows comes from its readings alone: the descriptor
does not speak of it, it gets no items and takes no orders. -/

section Sensors

variable {mask : UInt8} {descriptor : Descriptor}

theorem sensorKey_ne_of_not_isPrefix {key s : String} (h : ¬"sensor_".toList <+: s.toList) :
    sensorKey key ≠ s := by
  rintro rfl
  apply h
  simp [sensorKey]

theorem sensor_ne_defaultId (c c' : Channel) (key : String) (kind : Kind) :
    EntityId.keyed c (sensorKey key) ≠ defaultId kind c' := by
  intro h
  unfold defaultId at h
  split at h
  · exact sensorKey_ne_of_not_isPrefix (by decide) (EntityId.keyed.inj h).2
  · cases h

theorem roster_sensor (c : Channel) (key : String) :
    descriptor.roster mask (.keyed c (sensorKey key)) = none := by
  dsimp only [Descriptor.roster]
  split
  case h_6 => rfl
  all_goals
    rename_i hkey
    exact absurd hkey (sensorKey_ne_of_not_isPrefix (by decide))

theorem sensor_not_mem_ids (ns : Namespace) (c c' : Channel) (key : String) :
    .keyed c (sensorKey key) ∉ ns.ids c' := by
  intro h
  have hkey : sensorKey key = "spray" ∨ sensorKey key = "temperature" ∨ sensorKey key = "mp3" := by
    cases ns <;> simp_all [Namespace.ids]
  rcases hkey with hkey | hkey | hkey
  all_goals exact absurd hkey (sensorKey_ne_of_not_isPrefix (by decide))

variable {d : Device} (h : Descends mask descriptor d) (c : Channel) (key : String)
include h

theorem Descends.sensor_not_addressed (ns : Namespace) (c' : Channel) :
    .keyed c (sensorKey key) ∉ d.addressees ns c' := by
  rw [h.addressees]
  refine not_mem_addressees (wired_furnish mask descriptor)
    (fun kind c' => sensor_ne_defaultId c c' key kind) (fun ns hregistered => ?_) ns c'
  obtain ⟨-, c', -, hnamed⟩ := registered_furnish_iff.1 hregistered
  exact sensor_not_mem_ids ns c c' key hnamed

theorem Descends.kind_of_sensor {s : Entity} (hs : d.entity? (.keyed c (sensorKey key)) = some s) :
    s.kind = .sensor := by
  rcases h.kind_of_stray hs fun kind c' => sensor_ne_defaultId c c' key kind with
    ⟨e, hroster, -⟩ | hsensor
  · rw [roster_sensor] at hroster
    cases hroster
  · exact hsensor

/-- A deed that is no reading of a sensor, and no loss, leaves the sensor alone. -/
theorem tookOpsAt_sensor {x : OperationDeed} (hapt : x.Apt d) (hx : x ≠ .forget)
    (hread : ∀ r, x = .read r → r.id ≠ .keyed c (sensorKey key)) :
    TookOpsAt d (x.act d).device (.keyed c (sensorKey key)) [] := by
  have hderived : ∀ c', .keyed c (sensorKey key) ∉ derivedIds c' :=
    fun c' => sensor_not_mem_derivedIds c c' key
  cases x with
  | pass x =>
    have htookAt := tookOpsAt_pass h.fit x (.keyed c (sensorKey key))
    rwa [itemOps, plainOps_of_not_addressed (h.sensor_not_addressed c key),
      followOps_of_not_mem hderived] at htookAt
  | read r =>
    have htookAt := tookOpsAt_applyReading h.fit.sound r (.keyed c (sensorKey key))
    rwa [partOps_sensor fun c' => EntityId.noConfusion, measureOps,
      if_neg (hread r rfl).symm] at htookAt
  | forget => exact absurd rfl hx
  | carry id o =>
    obtain ⟨e, ch, cmd, he, -, hserves⟩ := hapt
    have hne : .keyed c (sensorKey key) ≠ id := by
      rintro rfl
      exact not_serves (.inr (.inr (h.kind_of_sensor c key he))) hserves
    have htookAt := tookOpsAt_carryOut h.fit.sound he hserves (.keyed c (sensorKey key))
    rwa [opAt_of_ne hne, following_of_not_mem (hderived ch), ite_self] at htookAt
  | keep digest => exact .of_eq rfl

end Sensors

/-! ## Climates and their humidity sensors -/

/-- What the humidity sensor of a channel shows, if there is one. -/
def shownHumidity (d : Device) (c : Channel) : Option Float :=
  (d.entity? (.keyed c "sensor_humi")).bind (·.native?)

/-- The climate on a channel, if there is one, has the humidity that the sensor shows. -/
def Attuned (d : Device) (c : Channel) : Prop :=
  ∀ k, d.entity? (.channel c) = some k → k.kind = .climate →
    (k.humidity? == d.shownHumidity c) = true

section Entities

variable {k k' : Entity} {ops : List EntityOp}

theorem humidity?_eq_join (e : Entity) : e.humidity? = (e.status.datum? .humidity).join := by
  unfold Entity.humidity? Status.datum?
  cases e.status.climate <;> rfl

theorem unknown_of_unavailable {e : Entity} (he : e.Sound) (h : e.status.available = false) :
    e.native? = none ∧ e.humidity? = none := by
  unfold Entity.native? Entity.humidity?
  rw [he.idle h]
  unfold Status.clear
  cases e.status.measure <;> cases e.status.climate <;> exact ⟨rfl, rfl⟩

theorem humidity?_of_unsaid (h : TookOps ops k k')
    (hunsaid : EntityOp.writes k.kind .humidity ops = []) :
    k'.humidity? = k.humidity? := by
  rw [humidity?_eq_join, humidity?_eq_join, h.datum_of_unsaid hunsaid]

theorem humidity?_of_told (hs : k.Sound) (hkind : k.kind = .climate) {x : Float}
    (hx : x ≠ Float.nan) (h : TookOps [.humidity x] k k') : (k'.humidity? == some x) = true := by
  obtain ⟨a, ha⟩ := hs.exists_datum hkind (p := .humidity) rfl
  have hdatum : k'.status.datum? .humidity = some (assign a (some (some x))).value := by
    rw [h.datum, ha, hkind]
    rfl
  have hproper : Proper (some x) := proper_some.2 (proper_float.2 hx)
  rw [humidity?_eq_join, hdatum]
  exact Part.value_assign_beq hproper

theorem says?_humidity_item (ns : Namespace) (body : Json) :
    EntityOp.says? .climate .humidity (.item ns body) = none := by
  have htoggle : ns = .toggle ∨ ns = .toggleX →
      EntityOp.says? .climate .humidity (.item ns body) = none := by
    intro hns
    rw [EntityOp.says?, report?_toggle hns]
    cases body.flagAt? "onoff" <;> rfl
  cases ns with
  | toggle => exact htoggle (.inl rfl)
  | toggleX => exact htoggle (.inr rfl)
  | thermostatMode =>
    rw [EntityOp.says?, report?_thermostat]
    cases Entity.climateReport? body <;> rfl
  | _ => rfl

/-- Nothing but the readings that are shared tells a climate about the humidity. -/
theorem humidity?_of_reaches {d : Device} {c : Channel} {x : OperationDeed}
    (hkind : k.kind = .climate)
    (hread : ∀ r, x = .read r → r.humidityOf ≠ some c) (h : Reaches d c x ops)
    (htook : TookOps ops k k') : k'.humidity? = k.humidity? := by
  refine humidity?_of_unsaid htook ?_
  rw [hkind]
  cases h with
  | nothing => exact EntityOp.writes_nil ..
  | @item ns item =>
    rw [EntityOp.writes_singleton, says?_humidity_item]
    rfl
  | humidity x hshared => exact absurd hshared (hread _ rfl)
  | power | mode =>
    rw [EntityOp.writes_singleton]
    rfl

end Entities

/-- What is told nothing shows what it showed. -/
theorem native?_of_nil {d d' : Device} (hs : d.Sound) (hs' : d'.Sound) {id : EntityId}
    (h : TookOpsAt d d' id []) :
    (d'.entity? id).bind (·.native?) = (d.entity? id).bind (·.native?) := by
  cases he : d.entity? id with
  | some e =>
    obtain ⟨e', he', htook⟩ := h.present e he
    have hstatus : e'.status = e.status :=
      status_of_tookOps (TookOps.nil e e.namespaces) htook (hs id e he) (hs' id e' he')
    rw [he', Option.bind_some, Option.bind_some, Entity.native?, hstatus]
    rfl
  | none =>
    rcases h.absent he with ⟨he', -⟩ | ⟨e, e', hmade, he', htook⟩
    · rw [he']
    · have hlost : e'.status.available = false := by
        rw [htook.available, hmade.unavailable]
        rfl
      rw [he', Option.bind_some, (unknown_of_unavailable (hs' id e' he') hlost).1]
      rfl

theorem attuned_of_unavailable {d : Device} (hs : d.Sound)
    (h : ∀ id e, d.entity? id = some e → e.status.available = false) (c : Channel) :
    Attuned d c := by
  intro k hk hkind
  have hshown : d.shownHumidity c = none := by
    unfold shownHumidity
    cases hsensor : d.entity? (.keyed c "sensor_humi") with
    | none => rfl
    | some s => exact (unknown_of_unavailable (hs _ s hsensor) (h _ s hsensor)).1
  rw [hshown, (unknown_of_unavailable (hs _ k hk) (h _ k hk)).2]
  rfl

/-! ### Readings of the humidity -/

/-- A reading of the humidity on a channel is a number, and is shared with the
    climate there. -/
structure Shares (c : Channel) (r : Reading) : Prop where
  number : r.humidityOf = some c → r.value ≠ Float.nan
  own : r.humidityOf = some c → r.id = humidityId c ∧ r.scale = Measure.scaleOf "humi"
  shared : r.id = humidityId c → r.humidityOf = some c

/-- The deed has no reading of the humidity on a channel that goes past the climate there. -/
def Sharing (c : Channel) : OperationDeed → Prop
  | .read r => Shares c r
  | .pass _ | .forget | .carry _ _ | .keep _ => True

section Step

variable {mask : UInt8} {descriptor : Descriptor} {d : Device} {c : Channel}
  (hd : Descends mask descriptor d)
include hd

/-- The sensor measures what it is told, and the climate is told what the sensor then shows. -/
theorem exists_shown {r : Reading} (hr : Shares c r) (hc : r.humidityOf = some c) :
    ∃ x, x ≠ Float.nan ∧ (applyReading r d).device.shownHumidity c = some x ∧
      ∀ k, d.entity? (.channel c) = some k →
        (d.measured r).sharedOps r (.channel c) = [.humidity x] := by
  obtain ⟨hid, hscale⟩ := hr.own hc
  have hs : (d.humiditySensor c).Sound := sound_getD hd.fit.sound _ _
  have hsensor : (d.humiditySensor c).kind = .sensor ∧ (d.humiditySensor c).Scaled := by
    unfold humiditySensor
    cases he : d.entity? (humidityId c) with
    | none =>
      -- It is made for the reading.
      refine ⟨rfl, fun m hm => ?_⟩
      cases hm
      exact isScale_scaleOf "humi"
    | some s => exact ⟨hd.kind_of_sensor c "humi" he, hd.fit.scaled _ s he⟩
  have hcarries : (d.humiditySensor c).kind.carries .device = true := by
    rw [hsensor.1]
    rfl
  obtain ⟨x, hx, hne⟩ := native_of_tookOps (hr.number hc) hs (EntityOp.sound_run (measureOp r) hs)
    hsensor.2 hcarries (TookOps.run hs (measureOp_ne_unavailable r))
  refine ⟨x, hne, ?_, fun k hk => ?_⟩
  · have hafter : (applyReading r d).device.entity? (humidityId c) =
        some ((measureOp r).run (d.humiditySensor c)).entity := by
      rw [entity?_applyReading d r (humidityId_ne_channel c), entity?_measured, if_pos hid.symm,
        hid, hscale]
      rfl
    exact (congrArg (Option.bind · _) hafter).trans hx
  · have hthere : ((d.measured r).entity? (.channel c)).isSome = true := by
      rw [entity?_measured, if_neg, hk]
      · rfl
      · rw [hid]
        exact EntityId.noConfusion
    rw [sharedOps_of_shared hid hscale hc hthere, hx]
    rfl

theorem attuned_act {x : OperationDeed} (hapt : x.Apt d) (hshares : Sharing c x) (h : Attuned d c) :
    Attuned (x.act d).device c := by
  have hd' := hd.act hapt
  -- A loss empties both, whether they agreed or not.
  by_cases hx : x = .forget
  · subst hx
    exact attuned_of_unavailable hd'.fit.sound
      (fun id e he => (lost_setUnavailable d).unavailable he) c
  intro k' hk' hkind'
  obtain ⟨k, hk, hkind, hreaches, htook⟩ := climate_act hd hapt hx hk' hkind'
  -- A shared reading is new to both of them, and anything else to neither.
  by_cases hshared : ∃ r, x = .read r ∧ r.humidityOf = some c
  · obtain ⟨r, rfl, hc⟩ := hshared
    obtain ⟨y, hy, hshown, hops⟩ := exists_shown hd hshares hc
    have htold : TookOps [.humidity y] k k' := by
      rw [← hops k hk]
      exact htook
    have hattuned := humidity?_of_told (hd.fit.sound _ _ hk) hkind hy htold
    rwa [← hshown] at hattuned
  · have hnot : ∀ r, x = .read r → r.humidityOf ≠ some c := fun r hr hc => hshared ⟨r, hr, hc⟩
    have hsensor : TookOpsAt d (x.act d).device (humidityId c) [] := by
      refine tookOpsAt_sensor hd c "humi" hapt hx fun r hr hid => hnot r hr ?_
      subst hr
      exact Shares.shared hshares hid
    have hstill : (x.act d).device.shownHumidity c = d.shownHumidity c :=
      native?_of_nil hd.fit.sound hd'.fit.sound hsensor
    rw [hstill, humidity?_of_reaches hkind hnot hreaches htook]
    exact h k hk hkind

end Step

end Device

/-! ## What comes in -/

namespace Operation

/-- The operation takes in latest samples with a humidity for the channel. -/
def Samples (t : Transport) (c : Channel) (op : Operation) : Prop :=
  ∃ header payload path r, op.Receives t header payload ∧ header.known? = some .sensorLatestX ∧
    Reading.Stands payload .sensorLatestX path r ∧ r.id = .keyed c "sensor_humi"

theorem Receives.wellFormed {t : Transport} {op : Operation} {header : Header} {payload : Json}
    (h : op.Receives t header payload) (sane : op.Sane t) : payload.WellFormed := by
  cases h with
  | handle | dispatch => exact sane.wellFormed
  | poll answer => exact sane.brings _ _ answer

end Operation

namespace Device

open Reading (humidityId)

variable {d : Device} {r : Reading}

/-- What a sensor of the humidity is to measure goes on to the climate, unless it is a sample. -/
theorem shared_of_stands {ns : Namespace} {payload : Json} {path : Json.Path} {c : Channel}
    (h : Reading.Stands payload ns path r) (hid : r.id = humidityId c) :
    ns = .sensorLatestX ∨ r.humidityOf = some c := by
  cases h with
  | latest =>
    obtain ⟨rfl, hkey⟩ := EntityId.keyed.inj hid
    exact .inr (if_pos (Reading.sensorKey_inj hkey))
  | sample => exact .inl rfl
  | diffuser => cases hid

/-- Where no samples bypass the climate on a channel, its readings are shared. -/
theorem sharing_of_deeds {t : Transport} {op : Operation} {c : Channel} (sane : op.Sane t)
    (hsamples : ¬op.Samples t c) {x : OperationDeed} (hx : x ∈ op.deeds t d) : Sharing c x := by
  cases Operation.comesTo_of_mem hx with
  | digest | loss | order => trivial
  | received receives comes =>
    cases comes with
    | digest | keep | item => trivial
    | @reading ns parts r known hparts hr =>
      have hwf := receives.wellFormed sane
      have hapt := Reading.apt_ofPayload hwf hparts
      obtain ⟨path, hstands⟩ := Reading.stands_of_mem hwf (Reading.mem_usable hparts hr)
      refine ⟨fun _ => (hapt.sane r hr).value trivial, hapt.shared r hr c, fun hid => ?_⟩
      rcases shared_of_stands hstands hid with rfl | hshared
      · exact absurd ⟨_, _, path, r, receives, known, hstands, hid⟩ hsamples
      · exact hshared

section Run

variable {mask : UInt8} {descriptor : Descriptor} {s : Chronicle} {c : Channel}

/-- Where no samples bring a humidity for the channel, all its readings are shared. -/
theorem course_of_reached
    (h : Reached (fun t op => op.Routine ∧ op.Sane t ∧ ¬op.Samples t c) mask descriptor s) :
    Course (fun _ => Sharing c) mask descriptor s.device := by
  refine Course.of_reached (fun t op d fits => ?_) h
  obtain ⟨routine, sane, hsamples⟩ := fits
  exact ⟨routine, along_of_forall (fun x hx _ => sharing_of_deeds sane hsamples hx) d⟩

theorem attuned_furnish : Attuned (furnish mask descriptor) c :=
  attuned_of_unavailable (sound_furnish mask descriptor) (fun _ _ => unavailable_furnish) c

/-- Whatever a device takes in, as long as no samples bring a humidity for the channel, the climate
    there has the humidity that the sensor of the channel shows. Where there is no sensor, or none
    that shows anything, no humidity is known of the climate either. -/
theorem climate_humidity
    (h : Reached (fun t op => op.Routine ∧ op.Sane t ∧ ¬op.Samples t c) mask descriptor s)
    {k : Entity} (hk : s.device.entity? (.channel c) = some k) (hkind : k.kind = .climate) :
    (k.humidity? == (s.device.entity? (.keyed c "sensor_humi")).bind (·.native?)) = true := by
  have hdigest : Along (fun _ => Sharing c) (digestDeeds descriptor.digest)
      (furnish mask descriptor) := by
    refine along_of_forall (fun x hx _ => ?_) _
    obtain ⟨y, -, rfl⟩ := List.mem_map.1 hx
    trivial
  obtain ⟨-, hattuned⟩ := (course_of_reached h).invariant (I := fun d => Attuned d c)
    attuned_furnish hdigest fun d x hd hapt hshares hI => attuned_act hd hapt hshares hI
  exact hattuned k hk hkind

end Run

/-- A radiator that tells the humidity of its room. -/
def roomRadiator : Descriptor where
  uuid := "radiator"
  ability := .ofKeys [.thermostatMode, .sensorLatest, .sensorLatestX]
  digest := Descriptor.radiatorDigest 1

/-- The radiator once it has told the humidity. -/
def humidRoom : Chronicle :=
  (Chronicle.start 0 roomRadiator).next (fun _ => .error .timeout)
    (.handle ⟨pushHeader .sensorLatest, humidityPayload⟩)

theorem climate_humidity_room : ∃ k,
    humidRoom.device.entity? (.channel (.int 0)) = some k ∧ k.kind = .climate ∧
      (k.humidity? == some (Float.ofInt 596 / 10.0)) = true := by
  have hknown : (pushHeader .sensorLatest).known? = some .sensorLatest :=
    Namespace.ofName?_name .sensorLatest
  have hreached : Reached
      (fun t op => op.Routine ∧ op.Sane t ∧ ¬op.Samples t (.int 0)) 0 roomRadiator humidRoom := by
    refine .step .built trivial ⟨trivial, ?_, ?_⟩
    · exact ⟨fun _ _ h => (nomatch h), wellFormed_humidityPayload, fun _ h => (nomatch h)⟩
    · rintro ⟨header, payload, path, r, hreceives, hsamples, -⟩
      cases hreceives
      rw [hknown] at hsamples
      cases hsamples
  have hclimate : (humidRoom.device.entity? (.channel (.int 0))).map (·.kind) = some .climate := by
    decide
  obtain ⟨k, hk, hkind⟩ := Option.map_eq_some_iff.1 hclimate
  have hshown : (humidRoom.device.entity? (.keyed (.int 0) "sensor_humi")).bind (·.native?) =
      some (Float.ofInt 596 / 10.0) := by rfl
  have hattuned := climate_humidity hreached hk hkind
  rw [hshown] at hattuned
  exact ⟨k, hk, hkind, hattuned⟩

end Device

end Appliance
