-- SUMMARY: Sensor payloads are taken in reading by reading, in the order in which these stand.

import Appliance.Proofs.Readers
import Appliance.Proofs.Remeasure
import Appliance.Proofs.Usable

namespace Appliance

namespace Device

open Reading (Stands usable)
open Json (Path Slot)

/-! ## Taking in a reading

The sensor of a reading is made if it is not there, and its value is set. A
humidity that the sensor then shows goes on to the climate of the channel. -/

/-- What is heard of events beside warnings. -/
def heard (es : List Event) : List Event :=
  es.filter fun
    | .warned _ => false
    | .flushed _ | .sent _ => true

theorem heard_append (es es' : List Event) : heard (es ++ es') = heard es ++ heard es' :=
  List.filter_append ..

/-- What a reading does to its sensor. -/
def sensorChange (d : Device) (r : Reading) : Entity.Change Bool :=
  match r.attributes with
  | none => ((d.entity? r.id).getD (.sensor r.id r.scale)).updateDevice r.value
  | some attributes =>
    ((d.entity? r.id).getD (.sensor r.id r.scale)).updateDeviceWith r.value attributes

/-- What a reading does to the climate of its channel, if it goes on to one. -/
def climateChange? (d : Device) (r : Reading) : Option (EntityId × Entity.Change Bool) :=
  match r.humidityOf with
  | none => none
  | some c =>
    match (d.sensorChange r).entity.native?, d.entity? (.channel c) with
    | some humidity, some e =>
      if e.kind = .climate then some (.channel c, e.updateHumidity humidity) else none
    | _, _ => none

/-- All that a reading does. -/
def changes (d : Device) (r : Reading) : List (EntityId × Entity.Change Bool) :=
  (r.id, d.sensorChange r) :: (d.climateChange? r).toList

/-- The reading is taken in, and nothing else is done. -/
structure TakesReading (r : Reading) (d : Device) (told : List Entity) (d' : Device) : Prop where
  keeps : Keeps d d'
  entity : ∀ id, d'.entity? id =
    (((d.changes r).lookup id).map (·.entity)).or (d.entity? id)
  told : told = (d.changes r).flatMap fun x => x.2.flushes

/-- The readings are taken in one after the other. -/
inductive TakesReadings : List Reading → Device → List Entity → Device → Prop where
  | nil (d : Device) : TakesReadings [] d [] d
  | cons {r : Reading} {rs : List Reading} {d d' d'' : Device} {told told' : List Entity}
      (first : TakesReading r d told d') (rest : TakesReadings rs d' told' d'') :
      TakesReadings (r :: rs) d (told ++ told') d''

theorem events_change (id : EntityId) {α : Type} (f : Entity → Entity.Change α) (d : Device) :
    (change id f d).events =
      ((d.entity? id).map fun e => (f e).flushes.map Event.flushed).getD [] := by
  simp only [change, Action.bind_apply, Action.pure_apply, List.append_nil, update]
  cases d.entity? id <;> rfl

theorem sensorChange_eq (d : Device) (r : Reading) :
    d.sensorChange r = measure r ((d.entity? r.id).getD (.sensor r.id r.scale)) := by
  unfold sensorChange measure
  cases r.attributes <;> rfl

theorem keeps_measured (d : Device) (r : Reading) : Keeps d (d.measured r) := by
  refine Keeps.trans ?_ (keeps_update (measure r) r.id (d.ensureSensor r.id r.scale))
  unfold ensureSensor
  split <;> exact ⟨rfl, rfl, rfl⟩

theorem entity?_measured_eq (d : Device) (r : Reading) (id : EntityId) :
    (d.measured r).entity? id =
      if id = r.id then some (d.sensorChange r).entity else d.entity? id := by
  rw [entity?_measured, run_measureOp, sensorChange_eq]
  rfl

/-- What follows the measuring of a reading. -/
def passOn (r : Reading) : Action Unit :=
  match r.humidityOf with
  | some c => shareHumidity r.id c
  | none => pure ()

theorem applyReading_eq (r : Reading) (d : Device) :
    applyReading r d =
      ⟨(passOn r (d.measured r)).device,
        (d.sensorChange r).flushes.map .flushed ++ (passOn r (d.measured r)).events, ()⟩ := by
  have hevents : (change r.id (measure r) (d.ensureSensor r.id r.scale)).events =
      (d.sensorChange r).flushes.map .flushed := by
    rw [events_change, entity?_ensureSensor, if_pos rfl, sensorChange_eq]
    rfl
  rw [← hevents]
  rfl

/-- The climate of a channel takes the humidity that it is given. -/
theorem giveHumidity_climate (humidity : Float) {d : Device} {c : Channel} {e : Entity}
    (he : d.entity? (.channel c) = some e) (hkind : e.kind = .climate) :
    (change (.channel c) (giveHumidity humidity) d).events =
        (e.updateHumidity humidity).flushes.map .flushed ∧
      ∀ id, (change (.channel c) (giveHumidity humidity) d).device.entity? id =
        if id = .channel c then some (e.updateHumidity humidity).entity else d.entity? id := by
  have hgive : giveHumidity humidity e = e.updateHumidity humidity := if_pos hkind
  refine ⟨?_, fun id => ?_⟩
  · rw [events_change, he, Option.map_some, hgive]
    rfl
  · rw [device_change, entity?_update, he, Option.map_some, hgive]

/-- What is no climate does not take a humidity. -/
theorem giveHumidity_of_no_climate (humidity : Float) {d : Device} {c : Channel}
    (h : ∀ e, d.entity? (.channel c) = some e → e.kind ≠ .climate) :
    (change (.channel c) (giveHumidity humidity) d).events = [] ∧
      ∀ id, (change (.channel c) (giveHumidity humidity) d).device.entity? id = d.entity? id := by
  have hgive : ∀ e, d.entity? (.channel c) = some e → giveHumidity humidity e = e.keep false :=
    fun e he => if_neg (h e he)
  refine ⟨?_, fun id => ?_⟩
  · rw [events_change]
    cases he : d.entity? (.channel c) with
    | none => rfl
    | some e =>
      rw [Option.map_some, hgive e he]
      rfl
  · rw [device_change, entity?_update]
    split
    · rename_i hid
      rw [hid]
      cases he : d.entity? (.channel c) with
      | none => rfl
      | some e =>
        rw [Option.map_some, hgive e he]
        rfl
    · rfl

theorem passOn_spec {r : Reading} (hid : ∀ c, r.id ≠ .channel c) (d : Device) :
    (passOn r (d.measured r)).events =
        ((d.climateChange? r).toList.flatMap fun x => x.2.flushes).map .flushed ∧
      Keeps (d.measured r) (passOn r (d.measured r)).device ∧
      ∀ id, (passOn r (d.measured r)).device.entity? id =
        (((d.climateChange? r).toList.lookup id).map (·.entity)).or
          ((d.measured r).entity? id) := by
  have hsensor := entity?_measured_eq d r r.id
  rw [if_pos rfl] at hsensor
  unfold passOn climateChange?
  cases r.humidityOf with
  | none => exact ⟨rfl, .refl _, fun id => rfl⟩
  | some c =>
    -- the sensor is another entity than the climate, which is as it was
    have hclimate := entity?_measured_eq d r (.channel c)
    rw [if_neg (Ne.symm (hid c))] at hclimate
    simp only [shareHumidity, Action.bind_apply, Action.device, hsensor, Option.bind_some]
    cases (d.sensorChange r).entity.native? with
    | none => exact ⟨rfl, .refl _, fun id => rfl⟩
    | some humidity =>
      simp only
      cases he : d.entity? (.channel c) with
      | none =>
        rw [he] at hclimate
        have hno : ∀ e, (d.measured r).entity? (.channel c) = some e → e.kind ≠ .climate := by
          simp [hclimate]
        obtain ⟨hevents, hentity⟩ := giveHumidity_of_no_climate humidity hno
        exact ⟨hevents, keeps_change _ _ _, hentity⟩
      | some e =>
        rw [he] at hclimate
        simp only
        split
        · rename_i hkind
          obtain ⟨hevents, hentity⟩ := giveHumidity_climate humidity hclimate hkind
          refine ⟨?_, keeps_change _ _ _, fun id => ?_⟩
          · simp [hevents]
          · rw [hentity]
            by_cases h : id = .channel c <;> simp [h, Keyed.lookup_cons]
        · rename_i hkind
          have hno : ∀ e, (d.measured r).entity? (.channel c) = some e → e.kind ≠ .climate := by
            simpa [hclimate] using hkind
          obtain ⟨hevents, hentity⟩ := giveHumidity_of_no_climate humidity hno
          exact ⟨hevents, keeps_change _ _ _, hentity⟩

theorem lookup_climateChange {r : Reading} (hid : ∀ c, r.id ≠ .channel c) (d : Device) :
    (d.climateChange? r).toList.lookup r.id = none := by
  unfold climateChange?
  split
  · rfl
  · split
    · split
      · simp [Keyed.lookup_cons, hid]
      · rfl
    · rfl

theorem takesReading_applyReading {r : Reading} (hid : ∀ c, r.id ≠ .channel c) (d : Device) :
    ∃ told, heard (applyReading r d).events = told.map .flushed ∧
      TakesReading r d told (applyReading r d).device := by
  obtain ⟨hevents, hkeeps, hentity⟩ := passOn_spec hid d
  refine ⟨(d.changes r).flatMap fun x => x.2.flushes, ?_, ?_, fun id => ?_, rfl⟩
  · rw [applyReading_eq, hevents, changes, List.flatMap_cons, List.map_append]
    exact List.filter_eq_self.2 fun event h => by
      rcases List.mem_append.1 h with h | h <;> obtain ⟨e, -, rfl⟩ := List.mem_map.1 h <;> rfl
  · rw [applyReading_eq]
    exact (keeps_measured d r).trans hkeeps
  · rw [applyReading_eq, hentity, entity?_measured_eq, changes, Keyed.lookup_cons]
    by_cases h : id = r.id
    · subst h
      simp [lookup_climateChange hid]
    · simp [h]

theorem takesReadings_forEach {rs : List Reading} (hid : ∀ r ∈ rs, ∀ c, r.id ≠ .channel c)
    (d : Device) :
    ∃ told, heard (Action.forEach rs applyReading d).events = told.map .flushed ∧
      TakesReadings rs d told (Action.forEach rs applyReading d).device := by
  induction rs generalizing d with
  | nil => exact ⟨[], rfl, .nil d⟩
  | cons r rs ih =>
    obtain ⟨hr, hrs⟩ := List.forall_mem_cons.1 hid
    obtain ⟨told, htold, hfirst⟩ := takesReading_applyReading hr d
    obtain ⟨told', htold', hrest⟩ := ih hrs (applyReading r d).device
    refine ⟨told ++ told', ?_, .cons hfirst hrest⟩
    rw [List.map_append, ← htold, ← htold', ← heard_append]
    rfl

/-! ## Taking in a payload -/

theorem applyReadings_usable (ns : Namespace) (payload : Json) (d : Device) :
    (applyReadings ns payload d).device =
        (Action.forEach (usable ns payload) applyReading d).device ∧
      heard (applyReadings ns payload d).events =
        heard (Action.forEach (usable ns payload) applyReading d).events := by
  unfold applyReadings usable
  cases Reading.ofPayload ns payload with
  | error fault => exact ⟨rfl, rfl⟩
  | ok parts =>
    simp only
    induction parts generalizing d with
    | nil => exact ⟨rfl, rfl⟩
    | cons part parts ih =>
      cases part with
      | error fault => exact ih d
      | ok r =>
        obtain ⟨hdevice, hheard⟩ := ih (applyReading r d).device
        refine ⟨hdevice, ?_⟩
        have hcons : ∀ {α : Type} (x : α) (xs : List α) (f : α → Action Unit),
            heard (Action.forEach (x :: xs) f d).events =
              heard (f x d).events ++ heard (Action.forEach xs f (f x d).device).events :=
          fun x xs f => heard_append ..
        have hpick : (Except.ok r :: parts).filterMap Except.toOption =
            r :: parts.filterMap Except.toOption := rfl
        rw [hpick, hcons, hcons, ← hheard]
        rfl

theorem dispatch_custom {d : Device} {header : Header} {ns : Namespace}
    (hknown : header.known? = some ns)
    (hns : ns ∈ [Namespace.diffuserSensor, .sensorLatest, .sensorLatestX])
    (hcustom : d.dispatcher.isCustom ns = true) (payload : Json) :
    dispatch header payload d = applyReadings ns payload d := by
  have hneither : ns ≠ .systemAll ∧ ns ≠ .systemAbility := by
    constructor <;> rintro rfl <;> simp at hns
  rw [dispatch_of_known hknown hneither.1 hneither.2, dispatchNamespace_eq, if_pos hcustom]

/-- A sensor payload comes to the readings that stand in it, taken in one after
    the other in the order in which they stand. What is malformed may as well
    not be there: without it only warnings are others. -/
theorem dispatch_takes {d : Device} {header : Header} {ns : Namespace}
    (hknown : header.known? = some ns)
    (hns : ns ∈ [Namespace.diffuserSensor, .sensorLatest, .sensorLatestX])
    (hcustom : d.dispatcher.isCustom ns = true) {payload : Json} (hwf : payload.WellFormed) :
    (∃ (row : List (Path × Reading)) (told : List Entity),
      (row.Pairwise fun x y => List.Lex Slot.Before x.1 y.1) ∧
        (∀ p r, (p, r) ∈ row ↔ Stands payload ns p r) ∧
        heard (dispatch header payload d).events = told.map .flushed ∧
        TakesReadings (row.map (·.2)) d told (dispatch header payload d).device) ∧
      ∀ p s, Reading.Malformed payload ns p s →
        (dispatch header (payload.without p s) d).device = (dispatch header payload d).device ∧
          heard (dispatch header (payload.without p s) d).events =
            heard (dispatch header payload d).events := by
  have husable := fun payload => applyReadings_usable ns payload d
  simp only [dispatch_custom hknown hns hcustom]
  refine ⟨?_, fun p s h => ?_⟩
  · obtain ⟨row, hlt, hmem, hrow⟩ := Reading.enumerates_usable hns hwf
    have hid : ∀ r ∈ usable ns payload, ∀ c, r.id ≠ .channel c := by
      intro r hr
      obtain ⟨p, hstands⟩ := Reading.stands_of_mem hwf hr
      exact hstands.id_ne_channel
    obtain ⟨told, htold, htakes⟩ := takesReadings_forEach hid d
    refine ⟨row, told, hlt, hmem, ?_, ?_⟩
    · rw [(husable payload).2, htold]
    · rw [(husable payload).1, hrow]
      exact htakes
  · rw [(husable _).1, (husable _).1, (husable _).2, (husable _).2,
      Reading.usable_without hwf h]
    exact ⟨rfl, rfl⟩

end Device

/-- A sensor of the humidity. -/
def Descriptor.hygrometer : Descriptor where
  uuid := "hygrometer"
  ability := .ofKeys [.sensorLatest]
  digest := .obj []

namespace Device

open Json (Path)

/-- A humidity, and an entry that is none. -/
def humidityPayload : Json :=
  .obj [("latest", .arr [.obj [("channel", .int 0), ("value", .arr [.obj [("humi", .int 596)]])],
    .int 7])]

theorem wellFormed_humidityPayload : humidityPayload.WellFormed := by
  have horder : compare "channel" "value" = .lt := by decide
  simp [humidityPayload, Json.WellFormed, Json.WellFormedFields, Json.WellFormedItems,
    Keyed.Ascending, horder]

theorem dispatch_takes_hygrometer :
    (∃ (row : List (Path × Reading)) (told : List Entity),
      ([.field "latest", .index 0, .field "value", .index 0, .field "humi"],
        ⟨.keyed (.int 0) "sensor_humi", Measure.scaleOf "humi", Float.ofInt 596, none,
          some (.int 0)⟩) ∈ row ∧
        TakesReadings (row.map (·.2)) (Chronicle.start 0 .hygrometer).device told
          (dispatch (pushHeader .sensorLatest) humidityPayload
            (Chronicle.start 0 .hygrometer).device).device) ∧
      (dispatch (pushHeader .sensorLatest) (humidityPayload.without [.field "latest"] (.index 1))
          (Chronicle.start 0 .hygrometer).device).device =
        (dispatch (pushHeader .sensorLatest) humidityPayload
          (Chronicle.start 0 .hygrometer).device).device := by
  have hknown : (pushHeader .sensorLatest).known? = some .sensorLatest :=
    Namespace.ofName?_name .sensorLatest
  have hcustom : (Chronicle.start 0 .hygrometer).device.dispatcher.isCustom .sensorLatest = true :=
    rfl
  obtain ⟨⟨row, told, -, hmem, -, htakes⟩, hwithout⟩ :=
    dispatch_takes hknown (by decide) hcustom wellFormed_humidityPayload
  refine ⟨⟨row, told, (hmem _ _).2 ?_, htakes⟩, (hwithout _ _ ?_).1⟩
  · exact .latest rfl rfl rfl rfl (by decide)
  · exact .entry rfl (.inl rfl)

end Device

end Appliance
