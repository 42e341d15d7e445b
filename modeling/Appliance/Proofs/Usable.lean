-- SUMMARY: Which readings stand where in a sensor payload, and which parts of it are malformed.

import Appliance.Proofs.Place
import Appliance.Proofs.Reading

namespace Appliance

namespace Reading

open Json (Path Slot Enumerates)

/-! ## Readings in a payload

Where in a payload which reading stands, told from look-ups alone. -/

inductive Stands (payload : Json) : Namespace → Path → Reading → Prop where
  /-- A number in a listed value, under a key that is no time. -/
  | latest {i j : Nat} {key : String} {channel number : Json} {c : Channel} {x : Float}
      (hchannel : payload.at? [.field "latest", .index i, .field "channel"] = some channel)
      (hc : Channel.ofJson? channel = some c)
      (hnumber : payload.at? [.field "latest", .index i, .field "value", .index j, .field key] =
        some number)
      (hx : number.asFloat? = some x) (htime : key ≠ "timestamp" ∧ key ≠ "timestampMs") :
      Stands payload .sensorLatest
        [.field "latest", .index i, .field "value", .index j, .field key]
        ⟨.keyed c ("sensor_" ++ key), Measure.scaleOf key, x, none,
          if key = "humi" then some c else none⟩
  /-- The number in the first of the samples under a key. -/
  | sample {i : Nat} {key : String} {channel number : Json} {fields : List (String × Json)}
      {c : Channel} {x : Float}
      (hchannel : payload.at? [.field "latest", .index i, .field "channel"] = some channel)
      (hc : Channel.ofJson? channel = some c)
      (hsample : payload.at? [.field "latest", .index i, .field "data", .field key, .index 0] =
        some (.obj fields))
      (hnumber : fields.lookup "value" = some number) (hx : number.asFloat? = some x) :
      Stands payload .sensorLatestX [.field "latest", .index i, .field "data", .field key]
        ⟨.keyed c ("sensor_" ++ key), Measure.scaleOf key, x,
          some (fields.filter fun f =>
            f.1 ≠ "value" ∧ f.1 ≠ "timestamp" ∧ f.1 ≠ "timestampMs"), none⟩
  /-- A number that a diffuser reports. -/
  | diffuser {key : String} {number : Json} {x : Float}
      (hkey : key = "humidity" ∨ key = "temperature")
      (hnumber : payload.at? [.field key, .field "value"] = some number)
      (hx : number.asFloat? = some x) :
      Stands payload .diffuserSensor [.field key] ⟨.key key, 10.0, x, none, none⟩

/-- The readings of a payload, without the parts that cannot be read. -/
def usable (ns : Namespace) (payload : Json) : List Reading :=
  match ofPayload ns payload with
  | .ok parts => parts.filterMap Except.toOption
  | .error _ => []

theorem mem_usable {ns : Namespace} {payload : Json} {parts : List Part}
    (hparts : ofPayload ns payload = .ok parts) {r : Reading} (hr : .ok r ∈ parts) :
    r ∈ usable ns payload := by
  unfold usable
  rw [hparts]
  exact List.mem_filterMap.2 ⟨_, hr, rfl⟩

/-! ### Latest values -/

theorem isTime_eq_false {key : String} :
    isTime key = false ↔ key ≠ "timestamp" ∧ key ≠ "timestampMs" := by
  simp [isTime]

/-- The reading in a field of a value, unless it holds a time. -/
def fieldReading? (c : Channel) (f : String × Json) : Option Reading :=
  if isTime f.1 then none else (ofField c f.1 f.2).toOption

theorem fieldReading?_eq_some {c : Channel} {key : String} {number : Json} {r : Reading} :
    fieldReading? c (key, number) = some r ↔
      (key ≠ "timestamp" ∧ key ≠ "timestampMs") ∧ ∃ x, number.asFloat? = some x ∧
        r = ⟨.keyed c ("sensor_" ++ key), Measure.scaleOf key, x, none,
          if key = "humi" then some c else none⟩ := by
  unfold fieldReading? ofField
  rw [← isTime_eq_false]
  cases isTime key <;> cases number.asFloat? <;>
    simp [Except.toOption, sensorKey, eq_comm]

/-- The readings in a value. -/
def valueReadings (c : Channel) (value : Json) : List Reading :=
  value.fields.flatMap fun f => (fieldReading? c f).toList

/-- The readings in an entry with latest values. -/
def latestReadings (entry : Json) : List Reading :=
  match channelOf entry with
  | none => []
  | some c => (entry.listAt "value").flatMap (valueReadings c)

theorem usable_ofValue (c : Channel) (value : Json) :
    (ofValue c value).filterMap Except.toOption = valueReadings c value := by
  rw [ofValue, List.filterMap_filterMap, List.filterMap_eq_flatMap_toList]
  refine List.flatMap_congr fun f _ => ?_
  unfold fieldReading?
  cases h : isTime f.1 <;> simp [h]

theorem usable_ofLatest (entry : Json) :
    (ofLatest entry).filterMap Except.toOption = latestReadings entry := by
  unfold ofLatest latestReadings channelOf Json.listAt
  cases (entry.get? "channel").bind Channel.ofJson? with
  | none => rfl
  | some c =>
    cases (entry.get? "value").bind Json.asItems? with
    | none => rfl
    | some values => simp [List.filterMap_flatMap, usable_ofValue]

theorem usable_sensorLatest (payload : Json) :
    usable .sensorLatest payload = (payload.listAt "latest").flatMap latestReadings := by
  simp only [usable, ofPayload, Json.listAt]
  cases (payload.get? "latest").bind Json.asItems? with
  | none => rfl
  | some entries => simp [List.filterMap_flatMap, usable_ofLatest]

theorem enumerates_latestReadings {entry : Json} (h : entry.WellFormed) :
    Enumerates (fun p r => ∃ c j key number, p = [.field "value", .index j, .field key] ∧
        channelOf entry = some c ∧ entry.at? p = some number ∧
        fieldReading? c (key, number) = some r)
      (latestReadings entry) := by
  unfold latestReadings
  cases hc : channelOf entry with
  | none => exact .nil (by simp)
  | some c =>
    have hvalue : ∀ value : Json, value.WellFormed → Enumerates _ (valueReadings c value) :=
      fun value hvalue => Enumerates.fields hvalue fun f => Enumerates.root (fieldReading? c f)
    have hall := Enumerates.listed "value" fun value hmem =>
      hvalue value (h.of_mem_listAt value hmem)
    refine hall.congr fun p r => ?_
    constructor
    · rintro ⟨j, value, _, hvalue, rfl, key, number, q, hnumber, rfl, rfl, hr⟩
      rw [← Json.at?_singleton] at hnumber
      exact ⟨c, j, key, number, rfl, rfl, (Json.at?_of_at? hvalue _).trans hnumber, hr⟩
    · rintro ⟨c', j, key, number, rfl, hchannel, hnumber, hr⟩
      obtain rfl := Option.some.inj hchannel
      obtain ⟨value, hvalue, hnumber⟩ :=
        Json.exists_of_at? [.field "value", .index j] [.field key] hnumber
      rw [Json.at?_singleton] at hnumber
      exact ⟨j, value, _, hvalue, rfl, key, number, [], hnumber, rfl, rfl, hr⟩

/-- Entries are told apart by their numbers. -/
theorem enumerates_entries {payload : Json} (h : payload.WellFormed)
    {inside : Json → Path → Reading → Prop} {f : Json → List Reading}
    (hinside : ∀ entry : Json, entry.WellFormed → Enumerates (inside entry) (f entry)) :
    Enumerates (fun p r => ∃ (i : Nat) (entry : Json) (q : Path),
        payload.at? [.field "latest", .index i] = some entry ∧
          p = .field "latest" :: .index i :: q ∧ inside entry q r)
      ((payload.listAt "latest").flatMap f) :=
  .listed "latest" fun entry hmem => hinside entry (h.of_mem_listAt entry hmem)

/-- Into an entry. -/
theorem at?_entry {payload entry : Json} {i : Nat}
    (hentry : payload.at? [.field "latest", .index i] = some entry) (q : Path) :
    payload.at? (.field "latest" :: .index i :: q) = entry.at? q :=
  Json.at?_of_at? hentry q

theorem exists_entry {payload v : Json} {i : Nat} {q : Path}
    (h : payload.at? (.field "latest" :: .index i :: q) = some v) :
    ∃ entry, payload.at? [.field "latest", .index i] = some entry ∧ entry.at? q = some v :=
  Json.exists_of_at? [.field "latest", .index i] q h

theorem enumerates_sensorLatest {payload : Json} (h : payload.WellFormed) :
    Enumerates (Stands payload .sensorLatest) (usable .sensorLatest payload) := by
  rw [usable_sensorLatest]
  refine (enumerates_entries h fun _ => enumerates_latestReadings).congr fun p r => ?_
  constructor
  · rintro ⟨i, entry, q, hentry, rfl, c, j, key, number, rfl, hchannel, hnumber, hr⟩
    obtain ⟨channel, hget, hc⟩ := Option.bind_eq_some_iff.1 hchannel
    obtain ⟨htime, x, hx, rfl⟩ := fieldReading?_eq_some.1 hr
    refine .latest ?_ hc ?_ hx htime
    · rw [at?_entry hentry, Json.at?_singleton, hget]
    · rw [at?_entry hentry, hnumber]
  · intro hstands
    cases hstands with
    | @latest i j key channel number c x hchannel hc hnumber hx htime =>
      obtain ⟨entry, hentry, hchannel⟩ := exists_entry hchannel
      rw [at?_entry hentry] at hnumber
      refine ⟨i, entry, _, hentry, rfl, c, j, key, number, rfl, ?_, hnumber, ?_⟩
      · rw [channelOf, ← Json.at?_singleton, hchannel, Option.bind_some, hc]
      · exact fieldReading?_eq_some.2 ⟨htime, x, hx, rfl⟩

/-! ### Latest samples -/

/-- The reading in the samples under a key. -/
def sampleReading? (c : Channel) (f : String × Json) : Option Reading :=
  (ofSamples c f.1 f.2).bind Except.toOption

theorem sampleReading?_eq_some {c : Channel} {key : String} {samples : Json} {r : Reading} :
    sampleReading? c (key, samples) = some r ↔
      ∃ fields number x, samples.at? [.index 0] = some (.obj fields) ∧
        fields.lookup "value" = some number ∧ number.asFloat? = some x ∧
          r = ⟨.keyed c ("sensor_" ++ key), Measure.scaleOf key, x,
            some (fields.filter fun f =>
              f.1 ≠ "value" ∧ f.1 ≠ "timestamp" ∧ f.1 ≠ "timestampMs"), none⟩ := by
  have hattributes : ∀ fields, attributesOf (.obj fields) =
      fields.filter fun f => f.1 ≠ "value" ∧ f.1 ≠ "timestamp" ∧ f.1 ≠ "timestampMs" := by
    intro fields
    refine List.filter_congr fun f _ => ?_
    simp [isTime]
  constructor
  · intro h
    obtain ⟨part, hpart, hok⟩ := Option.bind_eq_some_iff.1 h
    cases part with
    | error fault => cases hok
    | ok r' =>
      obtain rfl := Option.some.inj hok
      obtain ⟨sample, rest, x, hitems, hvalue, rfl⟩ := ofSamples_ok hpart
      obtain ⟨number, hnumber, hx⟩ := Option.bind_eq_some_iff.1 hvalue
      cases sample with
      | obj fields =>
        refine ⟨fields, number, x, ?_, hnumber, hx, ?_⟩
        · simp [Json.at?, hitems]
        · rw [hattributes]
          rfl
      | _ => cases hnumber
  · rintro ⟨fields, number, x, hsample, hnumber, hx, rfl⟩
    obtain ⟨sample, hfirst, hend⟩ := Option.bind_eq_some_iff.1 hsample
    obtain ⟨items, hitems, hfirst⟩ := Option.bind_eq_some_iff.1 hfirst
    obtain rfl := Option.some.inj hend
    obtain ⟨rest, rfl⟩ : ∃ rest, items = .obj fields :: rest := by
      cases items <;> simp_all
    have hvalue : (Json.obj fields).floatAt? "value" = some x :=
      Option.bind_eq_some_iff.2 ⟨number, hnumber, hx⟩
    simp [sampleReading?, ofSamples, hitems, hvalue, hattributes, Except.toOption, sensorKey]

/-- The readings in an entry with latest samples. -/
def sampleReadings (entry : Json) : List Reading :=
  match channelOf entry, entry.get? "data" with
  | some c, some data => data.fields.flatMap fun f => (sampleReading? c f).toList
  | _, _ => []

theorem usable_ofLatestSamples (entry : Json) :
    (ofLatestSamples entry).filterMap Except.toOption = sampleReadings entry := by
  unfold ofLatestSamples sampleReadings channelOf
  cases (entry.get? "channel").bind Channel.ofJson? with
  | none => rfl
  | some c =>
    cases entry.get? "data" with
    | none => rfl
    | some object =>
      simp only [Option.bind_some, Json.fields]
      cases object.asFields? with
      | none => rfl
      | some data =>
        simp only
        rw [List.filterMap_filterMap, List.filterMap_eq_flatMap_toList]
        rfl

theorem usable_sensorLatestX (payload : Json) :
    usable .sensorLatestX payload = (payload.listAt "latest").flatMap sampleReadings := by
  simp only [usable, ofPayload, Json.listAt]
  cases (payload.get? "latest").bind Json.asItems? with
  | none => rfl
  | some entries => simp [List.filterMap_flatMap, usable_ofLatestSamples]

theorem enumerates_sampleReadings {entry : Json} (h : entry.WellFormed) :
    Enumerates (fun p r => ∃ c key samples, p = [.field "data", .field key] ∧
        channelOf entry = some c ∧ entry.at? p = some samples ∧
        sampleReading? c (key, samples) = some r)
      (sampleReadings entry) := by
  unfold sampleReadings
  cases hc : channelOf entry with
  | none => exact .nil (by simp)
  | some c =>
    cases hdata : entry.get? "data" with
    | none =>
      refine .nil ?_
      rintro p r ⟨_, key, samples, rfl, -, hsamples, -⟩
      simp [Json.at?, hdata] at hsamples
    | some data =>
      have hall := (Enumerates.fields (h.get? hdata) fun f =>
        Enumerates.root (sampleReading? c f)).under (.field "data")
      refine hall.congr fun p r => ?_
      constructor
      · rintro ⟨_, rfl, key, samples, q, hsamples, rfl, rfl, hr⟩
        exact ⟨c, key, samples, rfl, rfl, by simp [Json.at?, hdata, hsamples], hr⟩
      · rintro ⟨c', key, samples, rfl, hchannel, hsamples, hr⟩
        obtain rfl := Option.some.inj hchannel
        have hsamples : data.get? key = some samples := by simpa [Json.at?, hdata] using hsamples
        exact ⟨_, rfl, key, samples, [], hsamples, rfl, rfl, hr⟩

theorem enumerates_sensorLatestX {payload : Json} (h : payload.WellFormed) :
    Enumerates (Stands payload .sensorLatestX) (usable .sensorLatestX payload) := by
  rw [usable_sensorLatestX]
  refine (enumerates_entries h fun _ => enumerates_sampleReadings).congr fun p r => ?_
  constructor
  · rintro ⟨i, entry, q, hentry, rfl, c, key, samples, rfl, hchannel, hsamples, hr⟩
    obtain ⟨channel, hget, hc⟩ := Option.bind_eq_some_iff.1 hchannel
    obtain ⟨fields, number, x, hsample, hnumber, hx, rfl⟩ := sampleReading?_eq_some.1 hr
    refine .sample ?_ hc ?_ hnumber hx
    · rw [at?_entry hentry, Json.at?_singleton, hget]
    · rw [at?_entry hentry, ← hsample]
      exact Json.at?_of_at? hsamples [.index 0]
  · intro hstands
    cases hstands with
    | @sample i key channel number fields c x hchannel hc hsample hnumber hx =>
      obtain ⟨entry, hentry, hchannel⟩ := exists_entry hchannel
      rw [at?_entry hentry] at hsample
      obtain ⟨samples, hsamples, hfirst⟩ :=
        Json.exists_of_at? [.field "data", .field key] [.index 0] hsample
      refine ⟨i, entry, _, hentry, rfl, c, key, samples, rfl, ?_, hsamples, ?_⟩
      · rw [channelOf, ← Json.at?_singleton, hchannel, Option.bind_some, hc]
      · exact sampleReading?_eq_some.2 ⟨fields, number, x, hfirst, hnumber, hx, rfl⟩

/-! ### Diffusers -/

/-- The reading of a diffuser's sensor. -/
def sensorReading? (payload : Json) (key : String) : Option Reading :=
  ((payload.at? [.field key, .field "value"]).bind Json.asFloat?).map fun x =>
    ⟨.key key, 10.0, x, none, none⟩

theorem usable_diffuserSensor (payload : Json) :
    usable .diffuserSensor payload =
      ["humidity", "temperature"].flatMap fun key => (sensorReading? payload key).toList := by
  simp only [usable, ofPayload]
  rw [ofDiffuser, List.filterMap_filterMap, List.filterMap_eq_flatMap_toList]
  refine List.flatMap_congr fun key _ => ?_
  cases hsensor : payload.get? key with
  | none => simp [sensorReading?, Json.at?, hsensor]
  | some sensor =>
    have hvalue : sensorReading? payload key =
        (sensor.floatAt? "value").map fun x => ⟨.key key, 10.0, x, none, none⟩ := by
      simp [sensorReading?, Json.at?, hsensor, Json.floatAt?]
    rw [hvalue]
    cases hx : sensor.floatAt? "value" <;> simp [hx, Except.toOption]

theorem enumerates_diffuserSensor (payload : Json) :
    Enumerates (Stands payload .diffuserSensor) (usable .diffuserSensor payload) := by
  have hkeys : [(Slot.field "humidity", "humidity"), (.field "temperature", "temperature")].Pairwise
      fun y z => Slot.Before y.1 z.1 := List.pairwise_pair.2 rfl
  have hall := Enumerates.parts (fun key q r => q = [] ∧ sensorReading? payload key = some r)
    (fun key => (sensorReading? payload key).toList) hkeys fun y _ => Enumerates.root _
  rw [usable_diffuserSensor]
  refine hall.congr fun p r => ?_
  constructor
  · rintro ⟨y, hy, _, rfl, rfl, hr⟩
    obtain ⟨x, hvalue, rfl⟩ := Option.map_eq_some_iff.1 hr
    obtain ⟨number, hnumber, hx⟩ := Option.bind_eq_some_iff.1 hvalue
    rcases List.mem_pair.1 hy with rfl | rfl
    · exact .diffuser (.inl rfl) hnumber hx
    · exact .diffuser (.inr rfl) hnumber hx
  · intro hstands
    cases hstands with
    | @diffuser key number x hkey hnumber hx =>
      have hr : sensorReading? payload key = some ⟨.key key, 10.0, x, none, none⟩ := by
        simp [sensorReading?, hnumber, hx]
      refine ⟨(.field key, key), ?_, [], rfl, rfl, hr⟩
      rcases hkey with rfl | rfl <;> simp

/-- What is taken from a payload are the readings that stand in it, in order. -/
theorem enumerates_usable {ns : Namespace} (hns : ns ∈ [Namespace.diffuserSensor, .sensorLatest,
    .sensorLatestX]) {payload : Json} (h : payload.WellFormed) :
    Enumerates (Stands payload ns) (usable ns payload) := by
  simp only [List.mem_cons, List.not_mem_nil, or_false] at hns
  rcases hns with rfl | rfl | rfl
  · exact enumerates_diffuserSensor payload
  · exact enumerates_sensorLatest h
  · exact enumerates_sensorLatestX h

theorem stands_of_mem {ns : Namespace} {payload : Json} (h : payload.WellFormed) {r : Reading}
    (hr : r ∈ usable ns payload) : ∃ p, Stands payload ns p r := by
  have hns : ns ∈ [Namespace.diffuserSensor, .sensorLatest, .sensorLatestX] := by
    cases ns <;> first | cases hr | simp
  obtain ⟨row, -, hmem, hrow⟩ := enumerates_usable hns h
  rw [← hrow] at hr
  obtain ⟨x, hx, rfl⟩ := List.mem_map.1 hr
  exact ⟨x.1, (hmem x.1 x.2).1 hx⟩

/-- Readings are for sensors, which are no channels' own. -/
theorem Stands.id_ne_channel {payload : Json} {ns : Namespace} {p : Path} {r : Reading}
    (h : Stands payload ns p r) (c : Channel) : r.id ≠ .channel c := by
  cases h <;> exact EntityId.noConfusion

/-! ## Malformed parts -/

/-- What is in a slot at the end of a path is malformed. -/
inductive Malformed (payload : Json) : Namespace → Path → Slot → Prop where
  /-- An entry without a usable channel, or without a list of values. -/
  | entry {i : Nat} {entry : Json} (hentry : payload.at? [.field "latest", .index i] = some entry)
      (h : channelOf entry = none ∨ (entry.get? "value").bind Json.asItems? = none) :
      Malformed payload .sensorLatest [.field "latest"] (.index i)
  /-- A value that is no object. -/
  | value {i j : Nat} {value : Json}
      (hvalue : payload.at? [.field "latest", .index i, .field "value", .index j] = some value)
      (h : value.isObject = false) :
      Malformed payload .sensorLatest [.field "latest", .index i, .field "value"] (.index j)
  /-- A key with a time, or without a number. -/
  | key {i j : Nat} {key : String} {v : Json}
      (hv : payload.at? [.field "latest", .index i, .field "value", .index j, .field key] =
        some v)
      (h : key = "timestamp" ∨ key = "timestampMs" ∨ v.asFloat? = none) :
      Malformed payload .sensorLatest [.field "latest", .index i, .field "value", .index j]
        (.field key)
  /-- An entry without a usable channel, or without an object of samples. -/
  | data {i : Nat} {entry : Json} (hentry : payload.at? [.field "latest", .index i] = some entry)
      (h : channelOf entry = none ∨ (entry.get? "data").bind Json.asFields? = none) :
      Malformed payload .sensorLatestX [.field "latest"] (.index i)
  /-- A key without a first sample that has a number. -/
  | samples {i : Nat} {key : String} {samples : Json}
      (hsamples : payload.at? [.field "latest", .index i, .field "data", .field key] =
        some samples)
      (h : (samples.at? [.index 0, .field "value"]).bind Json.asFloat? = none) :
      Malformed payload .sensorLatestX [.field "latest", .index i, .field "data"] (.field key)
  /-- A sensor of a diffuser without a number. -/
  | sensor {key : String} {sensor : Json} (hsensor : payload.at? [.field key] = some sensor)
      (h : (sensor.at? [.field "value"]).bind Json.asFloat? = none) :
      Malformed payload .diffuserSensor [] (.field key)

section Without

variable {payload : Json} {p : Path} {s : Slot}

theorem latestReadings_eq_nil {entry : Json}
    (h : channelOf entry = none ∨ (entry.get? "value").bind Json.asItems? = none) :
    latestReadings entry = [] := by
  unfold latestReadings
  rcases h with h | h
  · rw [h]
  · rw [Json.listAt, h]
    cases channelOf entry <;> rfl

theorem sampleReadings_eq_nil {entry : Json}
    (h : channelOf entry = none ∨ (entry.get? "data").bind Json.asFields? = none) :
    sampleReadings entry = [] := by
  unfold sampleReadings
  split
  · rename_i c data hc hdata
    rcases h with h | h
    · rw [h] at hc
      cases hc
    · rw [hdata, Option.bind_some] at h
      rw [Json.fields, h]
      rfl
  · rfl

/-- What adds no reading to an object may as well not be there. -/
theorem readings_leaveOut {pick : String × Json → Option Reading} {key : String} {j : Json}
    (hj : j.WellFormed) (h : ∀ v, j.get? key = some v → pick (key, v) = none) :
    (Json.leaveOut (.field key) j).fields.flatMap (fun f => (pick f).toList) =
      j.fields.flatMap fun f => (pick f).toList := by
  rw [Json.fields_leaveOut, ← List.filterMap_eq_flatMap_toList, ← List.filterMap_eq_flatMap_toList]
  refine Json.filterMap_drop fun f hf hkey => ?_
  subst hkey
  refine h f.2 ?_
  rw [Json.get?_eq_lookup]
  exact Keyed.lookup_of_mem hj.fields hf

/-- Entries that give the readings they gave before may be revised. -/
theorem readings_revise {f : Json → List Reading} {g : Json → Json} {i : Nat}
    (h : ∀ entry, payload.at? [.field "latest", .index i] = some entry →
      f (entry.revise g p) = f entry) :
    ((payload.revise g (.field "latest" :: .index i :: p)).listAt "latest").flatMap f =
      (payload.listAt "latest").flatMap f := by
  rw [Json.listAt_revise]
  refine Json.flatMap_modify fun entry hentry => h entry ?_
  rw [Json.at?_listed, hentry]

/-- Entries without readings may as well not be there. -/
theorem readings_without {f : Json → List Reading} {i : Nat} {entry : Json}
    (hentry : payload.at? [.field "latest", .index i] = some entry) (h : f entry = []) :
    ((payload.without [.field "latest"] (.index i)).listAt "latest").flatMap f =
      (payload.listAt "latest").flatMap f := by
  rw [Json.listAt_without]
  refine Json.flatMap_eraseIdx fun entry' hentry' => ?_
  rw [Json.at?_listed, hentry'] at hentry
  rw [Option.some.inj hentry, h]

theorem channelOf_revise {key : String} (hkey : key ≠ "channel") (f : Json → Json) (p : Path)
    (entry : Json) : channelOf (entry.revise f (.field key :: p)) = channelOf entry := by
  rw [channelOf, channelOf, Json.get?_revise, if_neg hkey.symm]

theorem fieldReading?_eq_none {c : Channel} {key : String} {v : Json}
    (h : key = "timestamp" ∨ key = "timestampMs" ∨ v.asFloat? = none) :
    fieldReading? c (key, v) = none := by
  rw [Option.eq_none_iff_forall_ne_some]
  intro r hr
  obtain ⟨htime, x, hx, -⟩ := fieldReading?_eq_some.1 hr
  rcases h with rfl | rfl | h
  · exact htime.1 rfl
  · exact htime.2 rfl
  · rw [h] at hx
    cases hx

theorem sampleReading?_eq_none {c : Channel} {key : String} {samples : Json}
    (h : (samples.at? [.index 0, .field "value"]).bind Json.asFloat? = none) :
    sampleReading? c (key, samples) = none := by
  rw [Option.eq_none_iff_forall_ne_some]
  intro r hr
  obtain ⟨fields, number, x, hsample, hnumber, hx, -⟩ := sampleReading?_eq_some.1 hr
  have hvalue : samples.at? [.index 0, .field "value"] = some number := by
    rw [← hnumber, ← Json.get?, ← Json.at?_singleton]
    exact Json.at?_of_at? hsample _
  rw [hvalue, Option.bind_some, hx] at h
  cases h

theorem latestReadings_congr {entry entry' : Json} (hchannel : channelOf entry' = channelOf entry)
    (hvalues : ∀ c, (entry'.listAt "value").flatMap (valueReadings c) =
      (entry.listAt "value").flatMap (valueReadings c)) :
    latestReadings entry' = latestReadings entry := by
  rw [latestReadings, latestReadings, hchannel]
  cases channelOf entry with
  | none => rfl
  | some c => exact hvalues c

theorem usable_without_value {i j : Nat} {value : Json}
    (hvalue : payload.at? [.field "latest", .index i, .field "value", .index j] = some value)
    (h : value.isObject = false) :
    usable .sensorLatest
        (payload.without [.field "latest", .index i, .field "value"] (.index j)) =
      usable .sensorLatest payload := by
  rw [usable_sensorLatest, usable_sensorLatest]
  refine readings_revise fun entry hentry =>
    latestReadings_congr (channelOf_revise (by decide) ..) fun c => ?_
  rw [← Json.without, Json.listAt_without]
  refine Json.flatMap_eraseIdx fun value' hvalue' => ?_
  rw [at?_entry hentry, Json.at?_listed, hvalue'] at hvalue
  obtain rfl := Option.some.inj hvalue
  rw [Json.isObject, Option.isSome_eq_false_iff, Option.isNone_iff_eq_none] at h
  rw [valueReadings, Json.fields, h]
  rfl

theorem usable_without_key (hwf : payload.WellFormed) {i j : Nat} {key : String} {v : Json}
    (hv : payload.at? [.field "latest", .index i, .field "value", .index j, .field key] = some v)
    (h : key = "timestamp" ∨ key = "timestampMs" ∨ v.asFloat? = none) :
    usable .sensorLatest
        (payload.without [.field "latest", .index i, .field "value", .index j] (.field key)) =
      usable .sensorLatest payload := by
  rw [usable_sensorLatest, usable_sensorLatest]
  refine readings_revise fun entry hentry =>
    latestReadings_congr (channelOf_revise (by decide) ..) fun c => ?_
  rw [Json.listAt_revise]
  refine Json.flatMap_modify fun value hvalue => ?_
  have hat : payload.at? [.field "latest", .index i, .field "value", .index j] = some value := by
    rw [at?_entry hentry, Json.at?_listed, hvalue]
  refine readings_leaveOut (hwf.at? hat) fun v' hv' => ?_
  have hthere := (Json.at?_of_at? hat [.field key]).symm.trans hv
  rw [Json.at?_singleton, hv'] at hthere
  obtain rfl := Option.some.inj hthere
  exact fieldReading?_eq_none h

theorem usable_without_samples (hwf : payload.WellFormed) {i : Nat} {key : String} {samples : Json}
    (hsamples : payload.at? [.field "latest", .index i, .field "data", .field key] = some samples)
    (h : (samples.at? [.index 0, .field "value"]).bind Json.asFloat? = none) :
    usable .sensorLatestX
        (payload.without [.field "latest", .index i, .field "data"] (.field key)) =
      usable .sensorLatestX payload := by
  rw [usable_sensorLatestX, usable_sensorLatestX]
  refine readings_revise fun entry hentry => ?_
  unfold sampleReadings
  rw [channelOf_revise (by decide), Json.get?_revise, if_pos rfl]
  cases channelOf entry with
  | none => rfl
  | some c =>
    cases hdata : entry.get? "data" with
    | none => rfl
    | some data =>
      simp only [Option.map_some, Json.revise]
      have hat : payload.at? [.field "latest", .index i, .field "data"] = some data := by
        rw [at?_entry hentry, Json.at?_singleton, hdata]
      refine readings_leaveOut (hwf.at? hat) fun samples' hsamples' => ?_
      have hthere := (Json.at?_of_at? hat [.field key]).symm.trans hsamples
      rw [Json.at?_singleton, hsamples'] at hthere
      obtain rfl := Option.some.inj hthere
      exact sampleReading?_eq_none h

theorem usable_without_sensor {key : String} {sensor : Json}
    (hsensor : payload.at? [.field key] = some sensor)
    (h : (sensor.at? [.field "value"]).bind Json.asFloat? = none) :
    usable .diffuserSensor (payload.without [] (.field key)) = usable .diffuserSensor payload := by
  rw [usable_diffuserSensor, usable_diffuserSensor]
  refine List.flatMap_congr fun key' _ => ?_
  have hget := Json.get?_leaveOut key payload key'
  unfold sensorReading? Json.without
  simp only [Json.at?, Json.revise, hget]
  split
  · rename_i hkey
    subst hkey
    rw [Json.at?_singleton] at hsensor h
    simpa [hsensor] using h
  · rfl

/-- What is malformed may as well not be there. -/
theorem usable_without {ns : Namespace} (hwf : payload.WellFormed)
    (h : Malformed payload ns p s) : usable ns (payload.without p s) = usable ns payload := by
  cases h with
  | entry hentry h =>
    rw [usable_sensorLatest, usable_sensorLatest, readings_without hentry (latestReadings_eq_nil h)]
  | value hvalue h => exact usable_without_value hvalue h
  | key hv h => exact usable_without_key hwf hv h
  | data hentry h =>
    rw [usable_sensorLatestX, usable_sensorLatestX,
      readings_without hentry (sampleReadings_eq_nil h)]
  | samples hsamples h => exact usable_without_samples hwf hsamples h
  | sensor hsensor h => exact usable_without_sensor hsensor h

end Without

end Reading

end Appliance
