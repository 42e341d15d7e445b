-- SUMMARY: Everything that is done to a device is a trace of moves.

import Appliance.Proofs.DeviceMove
import Appliance.Proofs.Reading
import Appliance.Session

namespace Appliance

theorem Action.device_forEach_cons {α : Type} (x : α) (xs : List α) (f : α → Action Unit)
    (d : Device) :
    (forEach (x :: xs) f d).device = (forEach xs f (f x d).device).device := rfl

theorem Action.forEach_map {α β : Type} (f : α → β) (g : β → Action Unit) (xs : List α) :
    forEach (xs.map f) g = forEach xs fun x => g (f x) := by
  induction xs with
  | nil => rfl
  | cons x xs ih => rw [List.map_cons, forEach_cons, ih, forEach_cons]

namespace Device

variable {sc : Scope}

/-! ## Derived climate sensors -/

theorem proper_leaderAttributes (climate : Entity) : Proper (leaderAttributes climate) := by
  unfold leaderAttributes
  refine proper_append.2 ⟨?_, ?_⟩
  · cases climate.preset? with
    | none => simp
    | some p =>
      have htext : (Json.str p).WellFormed := trivial
      simpa using htext.proper
  · cases climate.target? with
    | none => simp
    | some t => simpa using (Json.WellFormed.ofFloat t).proper

theorem traced_syncClimateSensors (channel : Channel) (d : Device) :
    Traced sc (syncClimateSensors channel) d := by
  refine Traced.device ?_
  cases d.leader? channel with
  | none => exact Traced.pure _ d
  | some climate =>
    refine Traced.bind ?_ (Traced.change (.stateWith _ _) (fun _ => rfl) fun _ _ => ?_)
    · unfold followHeating
      cases climate.heating? with
      | none => exact Traced.pure _ d
      | some on =>
        exact Traced.change (.power on) (fun _ => rfl) fun _ _ => EntityOp.proper_power on
    · exact EntityOp.proper_stateWith _ (proper_leaderAttributes climate)

theorem traced_syncAfter (ns : Namespace) (channel : Channel) (d : Device) :
    Traced sc (syncAfter ns channel) d := by
  unfold syncAfter
  split
  · exact traced_syncClimateSensors channel d
  · exact Traced.pure _ d

/-! ## Items -/

theorem traced_parseEntity (ns : Namespace) {body : Json} (hbody : sc.proper → body.WellFormed)
    (id : EntityId) (d : Device) : Traced sc (parseEntity ns body id) d := by
  refine Traced.bind ?_ ?_
  · exact Traced.update (.item ns body) (fun _ => rfl) fun hp _ =>
      EntityOp.proper_item ns (hbody hp)
  · split
    · exact Traced.warn _ _
    · exact Traced.pure _ _
    · exact Traced.pure _ _

theorem traced_addAndRegister {e : Entity} (he : sc.enters e) (ns : Namespace) (d : Device) :
    Traced sc (.modify (·.addAndRegister e ns)) d :=
  Trace.trans (Trace.move (.insert e) he) (Trace.move (.register ns e.id) trivial)

/-- An item brings in nothing but the entity that is made for its channel. -/
theorem traced_dispatchItem_of (ns : Namespace) {item : Item}
    (henters : ∀ kind c, item.channel = some c → ns.policy = .createDefault kind →
      sc.enters (.ofKind kind (defaultId kind c) ns))
    (hbody : sc.proper → item.body.WellFormed) (d : Device) :
    Traced sc (dispatchItem ns item) d := by
  unfold dispatchItem
  cases hc : item.channel with
  | none => exact Traced.warn _ d
  | some channel =>
    refine Traced.device ?_
    unfold Dispatcher.lookup
    cases d.dispatcher.targets ns channel with
    | cons id ids =>
      refine Traced.bind ?_ (traced_syncAfter ns channel _)
      exact Traced.forEach (fun id _ => traced_parseEntity ns hbody id) d
    | nil =>
      cases hpolicy : ns.policy with
      | ignore => exact Traced.pure _ d
      | logOnly => exact Traced.warn _ d
      | createDefault kind =>
        refine Traced.bind ?_ (traced_parseEntity ns hbody _ _)
        exact traced_addAndRegister (henters kind channel hc hpolicy) ns d

theorem traced_dispatchItem (hopen : sc.Opens) (ns : Namespace) {item : Item}
    (hbody : sc.proper → item.body.WellFormed) (d : Device) :
    Traced sc (dispatchItem ns item) d :=
  traced_dispatchItem_of ns (fun _ c _ hpolicy => hopen _ (.item hpolicy c)) hbody d

theorem traced_dispatchItems (hopen : sc.Opens) (ns : Namespace) {items : Except Error (List Item)}
    (hitems : sc.proper → ∀ l, items = .ok l → ∀ i ∈ l, i.body.WellFormed) (d : Device) :
    Traced sc (dispatchItems ns items) d := by
  cases items with
  | error error => exact Traced.warn _ d
  | ok items =>
    exact Traced.forEach (fun i hi => traced_dispatchItem hopen ns fun hp => hitems hp _ rfl i hi) d

/-! ## Digests -/

theorem wellFormed_split {ns : Namespace} {data : Json} (h : data.WellFormed) {items : List Item}
    (hitems : Item.split ns data = .ok items) : ∀ i ∈ items, i.body.WellFormed := by
  unfold Item.split at hitems
  split at hitems
  · cases hitems
    intro i hi
    obtain ⟨body, hbody, rfl⟩ := List.mem_map.1 hi
    exact Json.WellFormed.arr.1 h body hbody
  · cases hitems
    intro i hi
    obtain rfl := List.mem_singleton.1 hi
    unfold Item.ofSingle
    split <;> exact h
  · cases hitems

theorem wellFormed_ofPayload {ns : Namespace} {payload : Json} (h : payload.WellFormed)
    {items : List Item} (hitems : Item.ofPayload ns payload = .ok items) :
    ∀ i ∈ items, i.body.WellFormed := by
  unfold Item.ofPayload at hitems
  split at hitems
  · rename_i data hdata
    exact wellFormed_split (h.get? hdata) hitems
  · cases hitems

theorem traced_parseRoute (hopen : sc.Opens) {digest : Json}
    (hdigest : sc.proper → digest.WellFormed) (path : List String) (ns : Namespace) (d : Device) :
    Traced sc (parseRoute digest path ns) d := by
  unfold parseRoute
  split
  · rename_i data hdata
    exact traced_dispatchItems hopen ns
      (fun hp _ hitems => wellFormed_split ((hdigest hp).descend? hdata) hitems) d
  · exact Traced.pure _ d

theorem traced_parseDigest (hopen : sc.Opens) {digest : Json}
    (hdigest : sc.proper → digest.WellFormed) (d : Device) :
    Traced sc (parseDigest digest) d :=
  Traced.forEach (fun route _ => traced_parseRoute hopen hdigest route.1 route.2) d

/-! ## Readings -/

/-- A reading makes a sensor that can measure, and of numbers it is one. -/
structure SaneReading (proper : Prop) (r : Reading) : Prop where
  scale : Double.IsScale r.scale
  value : proper → r.value ≠ Float.nan
  attributes : proper → ∀ l, r.attributes = some l → Proper l

theorem isScale_scaleOf (key : String) : Double.IsScale (Measure.scaleOf key) := by
  unfold Measure.scaleOf
  split
  · decide
  · split <;> decide

variable {proper : Prop} {r : Reading}

private theorem sane_ofDiffuser {payload : Json} (h : proper → payload.WellFormed)
    (hr : .ok r ∈ Reading.ofDiffuser payload) : SaneReading proper r := by
  obtain ⟨key, sensor, x, hsensor, hx, rfl⟩ := Reading.mem_ofDiffuser hr
  have hscale : Double.IsScale 10.0 := by decide
  exact ⟨hscale, fun hp => ((h hp).get? hsensor).floatAt? hx, fun _ _ hl => by cases hl⟩

private theorem sane_ofLatest {item : Json} (h : proper → item.WellFormed)
    (hr : .ok r ∈ Reading.ofLatest item) : SaneReading proper r := by
  obtain ⟨c, list, values, value, -, hlist, hvalues, hvalue, hr⟩ := Reading.mem_ofLatest hr
  obtain ⟨fields, key, j, hfields, hj, hr⟩ := Reading.mem_ofValue hr
  obtain ⟨x, hx, rfl⟩ := Reading.ofField_ok hr
  refine ⟨isScale_scaleOf key, fun hp => ?_, fun _ _ hl => by cases hl⟩
  have hwf : value.WellFormed := ((h hp).get? hlist).asItems? hvalues value hvalue
  exact ((hwf.asFields? hfields).2 _ hj).asFloat? hx

private theorem proper_fields {fields : List (String × Json)}
    (h : ∀ f ∈ fields, f.2.WellFormed) : Proper fields := by
  induction fields with
  | nil => exact proper_nil
  | cons f fields ih =>
    refine proper_cons.2 ⟨?_, ih fun g hg => h g (List.mem_cons_of_mem _ hg)⟩
    exact proper_pair.2 ⟨proper_of_reflBEq f.1, (h f (List.mem_cons_self ..)).proper⟩

private theorem proper_attributesOf {sample : Json} (h : sample.WellFormed) :
    Proper (Reading.attributesOf sample) := by
  refine proper_filter _ ?_
  cases hfields : sample.asFields? with
  | none => exact proper_nil
  | some fields => exact proper_fields (h.asFields? hfields).2

private theorem sane_ofLatestSamples {item : Json} (h : proper → item.WellFormed)
    (hr : .ok r ∈ Reading.ofLatestSamples item) : SaneReading proper r := by
  obtain ⟨c, object, data, key, samples, -, hobject, hdata, hmem, hr⟩ :=
    Reading.mem_ofLatestSamples hr
  obtain ⟨sample, rest, x, hitems, hx, rfl⟩ := Reading.ofSamples_ok hr
  have hsample : proper → sample.WellFormed := fun hp =>
    ((((h hp).get? hobject).asFields? hdata).2 _ hmem).asItems? hitems sample
      (List.mem_cons_self ..)
  refine ⟨isScale_scaleOf key, fun hp => (hsample hp).floatAt? hx, fun hp l hl => ?_⟩
  cases hl
  exact proper_attributesOf (hsample hp)

theorem sane_ofPayload {ns : Namespace} {payload : Json} (h : proper → payload.WellFormed)
    {parts : List Reading.Part} (hparts : Reading.ofPayload ns payload = .ok parts)
    (hr : .ok r ∈ parts) : SaneReading proper r := by
  rcases Reading.ofPayload_cases hparts with
    ⟨-, rfl⟩ | rfl | ⟨list, items, hlist, hitems, ⟨-, rfl⟩ | ⟨-, rfl⟩⟩
  · exact sane_ofDiffuser h hr
  · cases hr
  · obtain ⟨item, hitem, hr⟩ := List.mem_flatMap.1 hr
    exact sane_ofLatest (fun hp => ((h hp).get? hlist).asItems? hitems item hitem) hr
  · obtain ⟨item, hitem, hr⟩ := List.mem_flatMap.1 hr
    exact sane_ofLatestSamples (fun hp => ((h hp).get? hlist).asItems? hitems item hitem) hr

/-- A sensor is made as any entity is added. -/
theorem insert_sensor (d : Device) (id : EntityId) (scale : Float) :
    d.insert (.sensor id scale) = d.ensureSensor id scale := by
  unfold insert add ensureSensor
  cases hc : d.entities.contains id <;> simp [Entity.sensor, Entity.fresh, hc]

theorem traced_ensureSensor_of {id : EntityId} {scale : Float}
    (henters : sc.enters (.sensor id scale)) (d : Device) :
    Traced sc (.modify (·.ensureSensor id scale)) d := by
  have hmove := Trace.move (d := d) (.insert (.sensor id scale)) henters
  unfold Traced
  simp only [Action.modify]
  rw [← insert_sensor]
  exact hmove

theorem traced_ensureSensor (hopen : sc.Opens) (id : EntityId) {scale : Float}
    (hscale : Double.IsScale scale) (d : Device) :
    Traced sc (.modify (·.ensureSensor id scale)) d :=
  traced_ensureSensor_of (hopen _ (.reading id hscale)) d

theorem traced_shareHumidity (sensor : EntityId) (channel : Channel) (d : Device) :
    Traced sc (shareHumidity sensor channel) d := by
  refine Traced.device ?_
  cases hn : (d.entity? sensor).bind (·.native?) with
  | none => exact Traced.pure _ d
  | some humidity =>
    obtain ⟨e, he, hx⟩ := Option.bind_eq_some_iff.1 hn
    refine Traced.change (.humidity humidity) (fun _ => rfl) fun _ hclean => ?_
    exact EntityOp.proper_humidity ((hclean sensor e he).2.native_ne_nan (hclean sensor e he).1 hx)

theorem traced_measure (hr : SaneReading sc.proper r) (d : Device) :
    Traced sc (change r.id (measure r)) d := by
  cases ha : r.attributes with
  | none =>
    refine Traced.change (.device r.value) (fun e => ?_) fun hp _ =>
      EntityOp.proper_device (hr.value hp)
    simp [measure, ha, EntityOp.run]
  | some attributes =>
    refine Traced.change (.deviceWith r.value attributes) (fun e => ?_) fun hp _ =>
      EntityOp.proper_deviceWith (hr.value hp) (hr.attributes hp _ ha)
    simp [measure, ha, EntityOp.run]

/-- A reading brings in nothing but its sensor. -/
theorem traced_applyReading_of (henters : sc.enters (.sensor r.id r.scale))
    (hr : SaneReading sc.proper r) (d : Device) : Traced sc (applyReading r) d := by
  refine Traced.bind (traced_ensureSensor_of henters d) ?_
  refine Traced.bind (traced_measure hr _) ?_
  cases r.humidityOf with
  | none => exact Traced.pure _ _
  | some channel => exact traced_shareHumidity r.id channel _

theorem traced_applyReading (hopen : sc.Opens) (hr : SaneReading sc.proper r) (d : Device) :
    Traced sc (applyReading r) d :=
  traced_applyReading_of (hopen _ (.reading r.id hr.scale)) hr d

theorem traced_applyReadings (hopen : sc.Opens) (ns : Namespace) {payload : Json}
    (h : sc.proper → payload.WellFormed) (d : Device) :
    Traced sc (applyReadings ns payload) d := by
  unfold applyReadings
  cases hparts : Reading.ofPayload ns payload with
  | error fault => exact Traced.warn _ d
  | ok parts =>
    refine Traced.forEach (fun part hpart d => ?_) d
    cases part with
    | ok r => exact traced_applyReading hopen (sane_ofPayload h hparts hpart) d
    | error fault => exact Traced.warn _ d

/-! ## Messages -/

section Messages

variable (hopen : sc.Opens)
include hopen

theorem traced_dispatchNamespace (ns : Namespace) {payload : Json}
    (h : sc.proper → payload.WellFormed) (d : Device) :
    Traced sc (dispatchNamespace ns payload) d := by
  refine Traced.device ?_
  split
  · exact traced_applyReadings hopen ns h d
  · exact traced_dispatchItems hopen ns (fun hp _ hitems => wellFormed_ofPayload (h hp) hitems) d

theorem traced_dispatchSummary {payload : Json} (h : sc.proper → payload.WellFormed) (d : Device) :
    Traced sc (dispatchSummary payload) d := by
  unfold dispatchSummary
  split
  · rename_i digest hdigest
    refine Traced.bind (traced_parseDigest hopen (fun hp => (h hp).descend? hdigest) d) ?_
    exact Traced.move (.keepDigest digest) trivial
  · exact Traced.warn _ d

theorem traced_dispatch (header : Header) {payload : Json} (h : sc.proper → payload.WellFormed)
    (d : Device) : Traced sc (dispatch header payload) d := by
  unfold dispatch
  split
  · exact traced_dispatchSummary hopen h d
  · exact Traced.pure _ d
  · exact traced_dispatchNamespace hopen _ h d
  · exact Traced.warn _ d

theorem traced_handle {m : Message} (h : sc.proper → m.payload.WellFormed) (d : Device) :
    Traced sc (handle m) d := by
  unfold handle
  split
  · exact traced_dispatch hopen _ h d
  · exact traced_dispatch hopen _ h d
  · exact Traced.warn _ d
  all_goals exact Traced.pure _ d

end Messages

/-! ## All entities at once -/

/-- The second device differs from the first in what it knows of its entities at most. -/
structure Keeps (d d' : Device) : Prop where
  descriptor : d'.descriptor = d.descriptor
  dispatcher : d'.dispatcher = d.dispatcher
  climateSensors : d'.climateSensors = d.climateSensors

theorem Keeps.refl (d : Device) : Keeps d d := ⟨rfl, rfl, rfl⟩

theorem Keeps.trans {d d' d'' : Device} (h : Keeps d d') (h' : Keeps d' d'') : Keeps d d'' :=
  ⟨h'.descriptor.trans h.descriptor, h'.dispatcher.trans h.dispatcher,
    h'.climateSensors.trans h.climateSensors⟩

/-- Devices that differ in no entity either are the same. -/
theorem Keeps.eq {d d' : Device} (h : Keeps d d') (he : ∀ id, d'.entity? id = d.entity? id) :
    d' = d := by
  obtain ⟨hdescriptor, hdispatcher, hmask⟩ := h
  obtain ⟨descriptor, entities, dispatcher, mask⟩ := d
  obtain ⟨descriptor', entities', dispatcher', mask'⟩ := d'
  obtain rfl : entities' = entities := Table.ext he
  simp_all

theorem keeps_update {α : Type} (f : Entity → Entity.Change α) (id : EntityId) (d : Device) :
    Keeps d (update id f d).device := by
  unfold update
  split
  · exact Keeps.refl d
  · exact ⟨rfl, rfl, rfl⟩

theorem keeps_change {α : Type} (f : Entity → Entity.Change α) (id : EntityId) (d : Device) :
    Keeps d (change id f d).device := keeps_update f id d

theorem keeps_forEach {α : Type} {f : α → Action Unit} (h : ∀ x d, Keeps d (f x d).device)
    (xs : List α) (d : Device) : Keeps d (Action.forEach xs f d).device := by
  induction xs generalizing d with
  | nil => exact Keeps.refl d
  | cons x xs ih => exact (h x d).trans (ih _)

section ForEach

variable {α : Type} (f : Entity → Entity.Change α)

theorem forEach_change_entity? {ids : List EntityId} (hids : ids.Nodup) (d : Device)
    (id : EntityId) :
    (Action.forEach ids (change · f) d).device.entity? id =
      if id ∈ ids then (d.entity? id).map fun e => (f e).entity else d.entity? id := by
  induction ids generalizing d with
  | nil => simp [Action.pure]
  | cons i ids ih =>
    obtain ⟨hi, hids⟩ := List.nodup_cons.1 hids
    change (Action.forEach ids (change · f) (update i f d).device).device.entity? id = _
    rw [ih hids, entity?_update]
    by_cases h : id = i
    · subst h
      simp [hi]
    · simp [h]

theorem forEach_change_events {ids : List EntityId} (hids : ids.Nodup) (d : Device) :
    (Action.forEach ids (change · f) d).events =
      ids.flatMap fun id =>
        ((d.entity? id).map fun e => (f e).flushes.map Event.flushed).getD [] := by
  induction ids generalizing d with
  | nil => rfl
  | cons i ids ih =>
    obtain ⟨hi, hids⟩ := List.nodup_cons.1 hids
    change (change i f d).events ++
      (Action.forEach ids (change · f) (update i f d).device).events = _
    rw [ih hids, List.flatMap_cons]
    congr 1
    · simp only [change, Action.bind_apply, Action.pure_apply, List.append_nil, update]
      cases d.entity? i <;> rfl
    · refine List.flatMap_congr fun id hid => ?_
      have hne : id ≠ i := by
        rintro rfl
        exact hi hid
      rw [entity?_update, if_neg hne]

end ForEach

theorem nodup_keys (d : Device) : d.entities.keys.Nodup := by
  refine List.pairwise_map.2 (d.entities.ascending.imp fun {p q} hlt heq => ?_)
  rw [heq, Std.ReflOrd.compare_self] at hlt
  cases hlt

theorem mem_keys_iff {d : Device} {id : EntityId} :
    id ∈ d.entities.keys ↔ ∃ e, d.entity? id = some e := by
  simp only [Table.keys, List.mem_map, Prod.exists, exists_and_right, exists_eq_right]
  exact exists_congr fun e => Table.mem_entries_iff (t := d.entities)

/-- Making all entities unavailable is making one after the other so. -/
theorem setUnavailable_eq (d : Device) :
    setUnavailable d =
      Action.forEach d.entities.keys (change · fun e => e.setUnavailable) d := by
  have hdevice : (setUnavailable d).device =
      (Action.forEach d.entities.keys (change · fun e => e.setUnavailable) d).device := by
    have hkeeps := keeps_forEach (fun id d => keeps_change (fun e => e.setUnavailable) id d)
      d.entities.keys d
    have hmade : Keeps (Action.forEach d.entities.keys (change · fun e => e.setUnavailable)
        d).device (setUnavailable d).device :=
      ⟨hkeeps.descriptor.symm, hkeeps.dispatcher.symm, hkeeps.climateSensors.symm⟩
    refine hmade.eq fun id => ?_
    rw [entity?_setUnavailable, forEach_change_entity? _ d.nodup_keys]
    split
    · rfl
    · rename_i hid
      rw [mem_keys_iff] at hid
      cases hget : d.entity? id with
      | none => rfl
      | some e => exact absurd ⟨e, hget⟩ hid
  have hevents : (setUnavailable d).events =
      (Action.forEach d.entities.keys (change · fun e => e.setUnavailable) d).events := by
    rw [forEach_change_events _ d.nodup_keys]
    simp only [setUnavailable, Table.values, Table.keys, List.flatMap_map]
    refine List.flatMap_congr fun p hp => ?_
    have hget : d.entity? p.1 = some p.2 := Table.mem_entries_iff (t := d.entities).1 hp
    rw [hget]
    rfl
  cases hx : setUnavailable d with
  | mk device events answer =>
    cases hy : Action.forEach d.entities.keys (change · fun e => e.setUnavailable) d with
    | mk device' events' answer' => simp_all

theorem traced_setUnavailable (d : Device) : Traced sc setUnavailable d := by
  have hforEach : Traced sc (Action.forEach d.entities.keys
      (change · fun e => e.setUnavailable)) d :=
    Traced.forEach (fun id _ d => Traced.change .unavailable (fun _ => rfl)
      fun _ _ => EntityOp.proper_unavailable) d
  unfold Traced at hforEach ⊢
  rw [setUnavailable_eq]
  exact hforEach

theorem traced_shutdown (hleaves : sc.leaves) (d : Device) :
    Traced sc (.modify shutdown) d := by
  have hremoves : ∀ (ids : List EntityId) (d : Device),
      Trace sc d [] (ids.foldl (fun d id => (d.remove id).2) d) := by
    intro ids
    induction ids with
    | nil => exact Trace.nil
    | cons id ids ih => exact fun d => Trace.trans (Trace.move (.remove id) hleaves) (ih _)
  exact hremoves d.entities.keys d

/-! ## Commands and polls -/

/-- All that comes back over a transport is well-formed. -/
def Brings (t : Transport) (P : Json → Prop) : Prop := ∀ r m, t r = .ok m → P m.payload

theorem wellFormed_playerItem (channel : Channel) (key : String) (value : Int64) :
    (Payload.playerItem channel key (.ofInt64 value)).WellFormed := by
  refine Json.WellFormed.ofFields fun f hf => ?_
  rcases List.mem_cons.1 hf with rfl | hf
  · cases channel <;> trivial
  · obtain rfl := List.mem_singleton.1 hf
    trivial

theorem traced_carryOut (id : EntityId) (order : Order) (d : Device) :
    Traced sc (carryOut id order) d := by
  cases order with
  | power ns channel on =>
    refine Traced.bind (Traced.change (.power on) (fun _ => rfl) fun _ _ => ?_) ?_
    · exact EntityOp.proper_power on
    · exact Traced.bind (traced_syncAfter ns channel _) (Traced.pure _ _)
  | mode channel m =>
    refine Traced.bind (Traced.change (.mode m) (fun _ => rfl) fun _ _ => ?_) ?_
    · exact EntityOp.proper_mode m
    · exact Traced.bind (traced_syncClimateSensors channel _) (Traced.pure _ _)
  | spray channel option m =>
    refine Traced.bind (Traced.change (.state option) (fun _ => rfl) fun _ _ => ?_) ?_
    · exact EntityOp.proper_state option
    · exact Traced.pure _ _
  | player channel key value =>
    refine Traced.bind (Traced.update (.item .mp3 _) (fun _ => rfl) fun _ _ => ?_) ?_
    · exact EntityOp.proper_item .mp3 (wellFormed_playerItem channel key value)
    · split <;> exact Traced.pure _ _

theorem traced_send (t : Transport) (r : Request) (d : Device) : Traced sc (Action.send t r) d :=
  Trace.move (.send r) trivial

theorem traced_command (t : Transport) (id : EntityId) (c : Command) (d : Device) :
    Traced sc (command t id c) d := by
  refine Traced.device ?_
  cases d.order id c with
  | error error => exact Traced.pure _ d
  | ok order =>
    refine Traced.bind (traced_send t order.request d) ?_
    split
    · exact Traced.pure _ _
    · split
      · exact traced_carryOut id order _
      · exact Traced.pure _ _

theorem traced_poll (hopen : sc.Opens) {t : Transport}
    (ht : sc.proper → Brings t Json.WellFormed) (ns : Namespace) (d : Device) :
    Traced sc (poll t ns) d := by
  refine Traced.bind (traced_send t ⟨ns, .get, Payload.get ns⟩ d) ?_
  have hanswer : (Action.send t ⟨ns, .get, Payload.get ns⟩ d).answer =
      t ⟨ns, .get, Payload.get ns⟩ := rfl
  rw [hanswer]
  cases hreply : t ⟨ns, .get, Payload.get ns⟩ with
  | error error =>
    refine Traced.bind ?_ (Traced.pure _ _)
    unfold noteFailure
    split
    · exact traced_setUnavailable _
    · exact Traced.pure _ _
  | ok answer =>
    simp only
    split
    · exact Traced.bind (traced_handle hopen (fun hp => ht hp _ _ hreply) _) (Traced.pure _ _)
    · exact Traced.pure _ _

end Device

/-! ## Operations -/

namespace Operation

/-- The payloads that come in with an operation are well-formed. -/
def WellFormed : Operation → Prop
  | .handle m => m.payload.WellFormed
  | .dispatch _ payload => payload.WellFormed
  | .parseDigest digest => digest.WellFormed
  | _ => True

/-- An operation adds and removes only what the scope admits. -/
def Within (sc : Scope) : Operation → Prop
  | .add e => sc.enters e
  | .remove _ | .shutdown => sc.leaves
  | _ => True

theorem device_add (t : Transport) (e : Entity) (d : Device) :
    ((add e).run t d).device = d.insert e := by
  unfold Device.insert
  cases h : d.add e <;> simp [run, h]

theorem events_add (t : Transport) (e : Entity) (d : Device) :
    ((add e).run t d).events = [] := by
  cases h : d.add e <;> simp [run, h]

/-- Every operation comes to moves within its scope. -/
theorem traced_run {sc : Scope} (hopen : sc.Opens) {t : Transport} {op : Operation}
    (hwithin : op.Within sc) (ht : sc.proper → Device.Brings t Json.WellFormed)
    (hop : sc.proper → op.WellFormed) (d : Device) : Traced sc (op.run t) d := by
  cases op with
  | handle m => exact Traced.bind (Device.traced_handle hopen hop d) (Traced.pure _ _)
  | dispatch header payload =>
    exact Traced.bind (Device.traced_dispatch hopen header hop d) (Traced.pure _ _)
  | parseDigest digest =>
    exact Traced.bind (Device.traced_parseDigest hopen hop d) (Traced.pure _ _)
  | setUnavailable => exact Traced.bind (Device.traced_setUnavailable d) (Traced.pure _ _)
  | shutdown => exact Traced.bind (Device.traced_shutdown hwithin d) (Traced.pure _ _)
  | add e =>
    rw [Traced, device_add, events_add]
    exact Trace.move (.insert e) hwithin
  | register ns id => exact Trace.move (.register ns id) trivial
  | remove id => exact Trace.move (.remove id) hwithin
  | poll ns => exact Traced.bind (Device.traced_poll hopen ht ns d) (Traced.pure _ _)
  | command id c => exact Traced.bind (Device.traced_command t id c d) (Traced.pure _ _)

end Operation

end Appliance
