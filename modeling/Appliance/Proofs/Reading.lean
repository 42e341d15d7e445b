-- SUMMARY: The readings of sensor payloads: where they come from, and when each is for a sensor of its own.

import Appliance.Payload
import Appliance.Proofs.Sameness
import Appliance.Reading

namespace Appliance

/-! ## Spread payloads -/

/-- No two items name the same channel, and no item lists more than one object
    of latest values. -/
structure Payload.Spread (ns : Namespace) (payload : Json) : Prop where
  channels : ∀ items, Item.ofPayload ns payload = .ok items → (items.filterMap (·.channel)).Nodup
  values : ns = .sensorLatest → ∀ items, (payload.get? "latest").bind Json.asItems? = some items →
    ∀ item ∈ items, ∀ values, (item.get? "value").bind Json.asItems? = some values →
      (values.filter Json.isObject).length ≤ 1

theorem Json.eq_arr_of_asItems? {j : Json} {items : List Json} (h : j.asItems? = some items) :
    j = .arr items := by
  cases j with
  | arr items' =>
    cases h
    rfl
  | _ => cases h

theorem Item.ofPayload_of_arr {ns : Namespace} {payload : Json} {items : List Json}
    (h : payload.get? ns.key = some (.arr items)) :
    ofPayload ns payload = .ok (items.map ofListed) := by
  rw [ofPayload, h]
  rfl

namespace Reading

/-! ## Where readings come from

Each reading is traced back to the part of its payload that it was read from. -/

/-- The channel that an item names. -/
def channelOf (item : Json) : Option Channel := (item.get? "channel").bind Channel.ofJson?

section Parts

variable {r : Reading} {c : Channel} {key : String}

theorem mem_ofDiffuser {payload : Json} (h : .ok r ∈ ofDiffuser payload) :
    ∃ key sensor x, payload.get? key = some sensor ∧ sensor.floatAt? "value" = some x ∧
      r = ⟨.key key, 10.0, x, none, none⟩ := by
  obtain ⟨key, -, hpart⟩ := List.mem_filterMap.1 h
  obtain ⟨sensor, hsensor, hpart⟩ := Option.map_eq_some_iff.1 hpart
  split at hpart
  · rename_i x hx
    cases hpart
    exact ⟨key, sensor, x, hsensor, hx, rfl⟩
  · cases hpart

theorem ofField_ok {j : Json} (h : ofField c key j = .ok r) :
    ∃ x, j.asFloat? = some x ∧
      r = ⟨.keyed c (sensorKey key), Measure.scaleOf key, x, none,
        if key = "humi" then some c else none⟩ := by
  unfold ofField at h
  split at h
  · cases h
  · rename_i x hx
    cases h
    exact ⟨x, hx, rfl⟩

theorem mem_ofValue {value : Json} (h : .ok r ∈ ofValue c value) :
    ∃ fields key j, value.asFields? = some fields ∧ (key, j) ∈ fields ∧
      ofField c key j = .ok r := by
  obtain ⟨⟨key, j⟩, hmem, hpart⟩ := List.mem_filterMap.1 h
  simp only [Option.ite_none_left_eq_some, Option.some.injEq] at hpart
  cases hfields : value.asFields? with
  | none =>
    rw [hfields] at hmem
    cases hmem
  | some fields =>
    rw [hfields] at hmem
    exact ⟨fields, key, j, rfl, hmem, hpart.2⟩

theorem mem_ofLatest {item : Json} (h : .ok r ∈ ofLatest item) :
    ∃ c list values value, channelOf item = some c ∧ item.get? "value" = some list ∧
      list.asItems? = some values ∧ value ∈ values ∧ .ok r ∈ ofValue c value := by
  unfold ofLatest at h
  split at h
  · simp at h
  · rename_i c hc
    split at h
    · simp at h
    · rename_i values hvalues
      obtain ⟨list, hlist, hitems⟩ := Option.bind_eq_some_iff.1 hvalues
      obtain ⟨value, hvalue, hr⟩ := List.mem_flatMap.1 h
      exact ⟨c, list, values, value, hc, hlist, hitems, hvalue, hr⟩

theorem ofSamples_ok {samples : Json} (h : ofSamples c key samples = some (.ok r)) :
    ∃ sample rest x, samples.asItems? = some (sample :: rest) ∧
      sample.floatAt? "value" = some x ∧
        r = ⟨.keyed c (sensorKey key), Measure.scaleOf key, x, some (attributesOf sample),
          none⟩ := by
  unfold ofSamples at h
  split at h
  · rename_i sample rest hitems
    split at h
    · cases h
    · rename_i x hx
      cases h
      exact ⟨sample, rest, x, hitems, hx, rfl⟩
  · cases h

theorem mem_ofLatestSamples {item : Json} (h : .ok r ∈ ofLatestSamples item) :
    ∃ c object data key samples, channelOf item = some c ∧ item.get? "data" = some object ∧
      object.asFields? = some data ∧ (key, samples) ∈ data ∧
        ofSamples c key samples = some (.ok r) := by
  unfold ofLatestSamples at h
  split at h
  · rename_i c data hc hdata
    obtain ⟨object, hobject, hfields⟩ := Option.bind_eq_some_iff.1 hdata
    obtain ⟨⟨key, samples⟩, hmem, hr⟩ := List.mem_filterMap.1 h
    exact ⟨c, object, data, key, samples, hc, hobject, hfields, hmem, hr⟩
  · simp at h

end Parts

/-- The parts of a payload are those of a diffuser, or those of its items, or none. -/
theorem ofPayload_cases {ns : Namespace} {payload : Json} {parts : List Part}
    (h : ofPayload ns payload = .ok parts) :
    ns = .diffuserSensor ∧ parts = ofDiffuser payload ∨ parts = [] ∨
      ∃ list items, payload.get? "latest" = some list ∧ list.asItems? = some items ∧
        (ns = .sensorLatest ∧ parts = items.flatMap ofLatest ∨
          ns = .sensorLatestX ∧ parts = items.flatMap ofLatestSamples) := by
  cases ns with
  | diffuserSensor =>
    cases h
    exact .inl ⟨rfl, rfl⟩
  | sensorLatest | sensorLatestX =>
    simp only [ofPayload] at h
    split at h
    · cases h
    · rename_i items hitems
      obtain ⟨list, hlist, hlatest⟩ := Option.bind_eq_some_iff.1 hitems
      cases h
      refine .inr (.inr ⟨list, items, hlist, hlatest, ?_⟩)
      first
        | exact .inl ⟨rfl, rfl⟩
        | exact .inr ⟨rfl, rfl⟩
  | _ =>
    cases h
    exact .inr (.inl rfl)

/-! ## Sensors of readings -/

/-- The sensor whose humidity the climate of a channel takes. -/
def humidityId (c : Channel) : EntityId := .keyed c (sensorKey "humi")

/-- The reading is for a sensor of a channel. -/
structure IsFor (c : Channel) (key : String) (r : Reading) : Prop where
  id : r.id = .keyed c (sensorKey key)
  scale : r.scale = Measure.scaleOf key

/-- A payload has its readings from a diffuser, or with humidities that are
    passed on, or from samples. -/
inductive Source (parts : List Part) : Prop where
  | diffuser (h : ∀ r, .ok r ∈ parts → r.humidityOf = none ∧ ∃ key, r.id = .key key)
  | values (h : ∀ r, .ok r ∈ parts →
      ∃ c key, r.IsFor c key ∧ r.humidityOf = if key = "humi" then some c else none)
  | samples (h : ∀ r, .ok r ∈ parts → r.humidityOf = none ∧ ∃ c key, r.IsFor c key)

theorem sensorKey_inj {key key' : String} (h : sensorKey key = sensorKey key') : key = key' :=
  (String.append_right_inj "sensor_").1 h

theorem IsFor.inj {c c' : Channel} {key key' : String} {r r' : Reading} (h : r.IsFor c key)
    (h' : r'.IsFor c' key') (hid : r.id = r'.id) : c = c' ∧ key = key' := by
  rw [h.id, h'.id] at hid
  obtain ⟨hc, hkey⟩ := EntityId.keyed.inj hid
  exact ⟨hc, sensorKey_inj hkey⟩

theorem isFor_ofField {c : Channel} {key : String} {j : Json} {r : Reading}
    (h : ofField c key j = .ok r) : r.IsFor c key := by
  obtain ⟨x, -, rfl⟩ := ofField_ok h
  exact ⟨rfl, rfl⟩

theorem isFor_ofSamples {c : Channel} {key : String} {samples : Json} {r : Reading}
    (h : ofSamples c key samples = some (.ok r)) : r.IsFor c key := by
  obtain ⟨_, _, x, -, -, rfl⟩ := ofSamples_ok h
  exact ⟨rfl, rfl⟩

theorem source_ofPayload {ns : Namespace} {payload : Json} {parts : List Part}
    (h : ofPayload ns payload = .ok parts) : Source parts := by
  rcases ofPayload_cases h with ⟨-, rfl⟩ | rfl | ⟨_, items, -, -, ⟨-, rfl⟩ | ⟨-, rfl⟩⟩
  · refine .diffuser fun r hr => ?_
    obtain ⟨key, _, x, -, -, rfl⟩ := mem_ofDiffuser hr
    exact ⟨rfl, key, rfl⟩
  · exact .diffuser fun r hr => by cases hr
  · refine .values fun r hr => ?_
    obtain ⟨item, -, hr⟩ := List.mem_flatMap.1 hr
    obtain ⟨c, _, _, _, -, -, -, -, hr⟩ := mem_ofLatest hr
    obtain ⟨_, key, j, -, -, hr⟩ := mem_ofValue hr
    obtain ⟨x, -, rfl⟩ := ofField_ok hr
    exact ⟨c, key, ⟨rfl, rfl⟩, rfl⟩
  · refine .samples fun r hr => ?_
    obtain ⟨item, -, hr⟩ := List.mem_flatMap.1 hr
    obtain ⟨c, _, _, key, _, -, -, -, -, hr⟩ := mem_ofLatestSamples hr
    obtain ⟨_, _, x, -, -, rfl⟩ := ofSamples_ok hr
    exact ⟨rfl, c, key, rfl, rfl⟩

/-! ## Readings of spread payloads -/

/-- No two readings are for one sensor. -/
def Distinct (parts : List Part) : Prop :=
  parts.Pairwise fun p q => ∀ r, p = .ok r → ∀ s, q = .ok s → r.id ≠ s.id

theorem distinct_singleton (part : Part) : Distinct [part] := List.pairwise_singleton _ _

/-- The fields of an object have keys of their own. -/
theorem pairwise_keys {fields : List (String × Json)} (h : Keyed.Ascending fields) :
    fields.Pairwise fun f g => f.1 ≠ g.1 := by
  refine List.Pairwise.imp (fun {f g} hlt hsame => ?_) h
  rw [hsame, Std.ReflOrd.compare_self] at hlt
  cases hlt

theorem distinct_ofDiffuser (payload : Json) : Distinct (ofDiffuser payload) := by
  have hkeys : ["humidity", "temperature"].Pairwise (· ≠ ·) := by decide
  refine List.Pairwise.filterMap _ (fun key key' hne p hp q hq r hr s hs => ?_) hkeys
  obtain ⟨sensor, -, hp⟩ := Option.map_eq_some_iff.1 hp
  obtain ⟨sensor', -, hq⟩ := Option.map_eq_some_iff.1 hq
  have hr : r.id = .key key := by
    rw [hr] at hp
    split at hp <;> cases hp
    rfl
  have hs : s.id = .key key' := by
    rw [hs] at hq
    split at hq <;> cases hq
    rfl
  rw [hr, hs]
  exact fun hsame => hne (EntityId.key.inj hsame)

theorem distinct_ofValue {value : Json} (h : value.WellFormed) (c : Channel) :
    Distinct (ofValue c value) := by
  have hfields : (value.asFields?.getD []).Pairwise fun f g => f.1 ≠ g.1 := by
    cases hv : value.asFields? with
    | none => exact List.Pairwise.nil
    | some fields => exact pairwise_keys (h.asFields? hv).1
  refine List.Pairwise.filterMap _ (fun f g hne p hp q hq r hr s hs hid => hne ?_) hfields
  subst hr hs
  simp only [Option.ite_none_left_eq_some, Option.some.injEq] at hp hq
  exact ((isFor_ofField hp.2).inj (isFor_ofField hq.2) hid).2

theorem ofValue_of_not_isObject {value : Json} (h : value.isObject = false) (c : Channel) :
    ofValue c value = [] := by
  rw [Json.isObject, Option.isSome_eq_false_iff, Option.isNone_iff_eq_none] at h
  rw [ofValue, h]
  rfl

theorem distinct_ofLatest {item : Json} (h : item.WellFormed)
    (hvalues : ∀ values, (item.get? "value").bind Json.asItems? = some values →
      (values.filter Json.isObject).length ≤ 1) : Distinct (ofLatest item) := by
  unfold ofLatest
  split
  · exact distinct_singleton _
  · rename_i c _
    split
    · exact distinct_singleton _
    · rename_i values hv
      obtain ⟨list, hlist, hitems⟩ := Option.bind_eq_some_iff.1 hv
      refine List.pairwise_flatMap.2 ⟨fun value hmem => ?_, ?_⟩
      · exact distinct_ofValue ((h.get? hlist).asItems? hitems value hmem) c
      · have hone : (values.filter Json.isObject).Pairwise fun _ _ => False := by
          have hlength := hvalues values hv
          match values.filter Json.isObject, hlength with
          | [], _ => exact List.Pairwise.nil
          | [value], _ => exact List.pairwise_singleton _ _
        refine (List.pairwise_filter.1 hone).imp fun {v w} hvw p hp q hq r hr s hs _ => ?_
        refine hvw ?_ ?_
        · by_contra hnot
          rw [ofValue_of_not_isObject (Bool.not_eq_true _ ▸ hnot)] at hp
          cases hp
        · by_contra hnot
          rw [ofValue_of_not_isObject (Bool.not_eq_true _ ▸ hnot)] at hq
          cases hq

theorem distinct_ofLatestSamples {item : Json} (h : item.WellFormed) :
    Distinct (ofLatestSamples item) := by
  unfold ofLatestSamples
  split
  · rename_i c data _ hdata
    obtain ⟨object, hobject, hfields⟩ := Option.bind_eq_some_iff.1 hdata
    refine List.Pairwise.filterMap _ (fun f g hne p hp q hq r hr s hs hid => hne ?_)
      (pairwise_keys ((h.get? hobject).asFields? hfields).1)
    subst hr hs
    exact ((isFor_ofSamples hp).inj (isFor_ofSamples hq) hid).2
  · exact distinct_singleton _

/-- Items of different channels have no sensor in common. -/
theorem distinct_flatMap {items : List Json} {f : Json → List Part}
    (hf : ∀ item ∈ items, Distinct (f item))
    (hchannel : ∀ {item r}, .ok r ∈ f item → ∃ c key, channelOf item = some c ∧ r.IsFor c key)
    (hnodup : (items.filterMap channelOf).Nodup) : Distinct (items.flatMap f) := by
  refine List.pairwise_flatMap.2 ⟨hf, ?_⟩
  refine (List.pairwise_filterMap.1 hnodup).imp fun {i j} hne p hp q hq r hr s hs hid => ?_
  subst hr hs
  obtain ⟨c, key, hc, hfor⟩ := hchannel hp
  obtain ⟨c', key', hc', hfor'⟩ := hchannel hq
  exact hne c hc c' hc' (hfor.inj hfor' hid).1

/-- The latest values of a payload are its items. -/
theorem channels_of_spread {ns : Namespace} (hkey : ns.key = "latest") {payload list : Json}
    (h : Payload.Spread ns payload) {items : List Json} (hlist : payload.get? "latest" = some list)
    (hitems : list.asItems? = some items) : (items.filterMap channelOf).Nodup := by
  have hsplit : Item.ofPayload ns payload = .ok (items.map Item.ofListed) :=
    Item.ofPayload_of_arr (by rw [hkey, hlist, Json.eq_arr_of_asItems? hitems])
  have hnodup := h.channels _ hsplit
  rw [List.filterMap_map] at hnodup
  exact hnodup

theorem distinct_ofPayload {ns : Namespace} {payload : Json} (hwf : payload.WellFormed)
    (hspread : Payload.Spread ns payload) {parts : List Part}
    (h : ofPayload ns payload = .ok parts) : Distinct parts := by
  rcases ofPayload_cases h with
    ⟨-, rfl⟩ | rfl | ⟨list, items, hlist, hitems, ⟨rfl, rfl⟩ | ⟨rfl, rfl⟩⟩
  · exact distinct_ofDiffuser payload
  · exact List.Pairwise.nil
  · refine distinct_flatMap (fun item hitem => ?_) (fun hr => ?_)
      (channels_of_spread rfl hspread hlist hitems)
    · refine distinct_ofLatest ((hwf.get? hlist).asItems? hitems item hitem) ?_
      exact hspread.values rfl items (by rw [hlist, Option.bind_some, hitems]) item hitem
    · obtain ⟨c, _, _, _, hc, -, -, -, hr⟩ := mem_ofLatest hr
      obtain ⟨_, key, _, -, -, hr⟩ := mem_ofValue hr
      exact ⟨c, key, hc, isFor_ofField hr⟩
  · refine distinct_flatMap (fun item hitem => ?_) (fun hr => ?_)
      (channels_of_spread rfl hspread hlist hitems)
    · exact distinct_ofLatestSamples ((hwf.get? hlist).asItems? hitems item hitem)
    · obtain ⟨c, _, _, key, _, hc, -, -, -, hr⟩ := mem_ofLatestSamples hr
      exact ⟨c, key, hc, isFor_ofSamples hr⟩

end Reading

end Appliance
