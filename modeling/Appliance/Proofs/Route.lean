-- SUMMARY: Routes into values, and what differences say: each tells what the two values hold at a route of its own.

import Appliance.Proofs.Equivalence

namespace Appliance

open Difference (channelOf SameChannel)

/-! ## Steps and routes -/

namespace Step

/-- The item names the channel. -/
def isAbout (c item : Json) : Bool :=
  match channelOf item with
  | some c' => c' == c
  | none => false

/-- What a step leads to. In a list it is the first item about the channel. -/
def part? : Step → Json → Option Json
  | .field name, j => j.get? name
  | .channel c, j => j.asItems?.bind (·.find? (isAbout c))

/-- What a route leads to. -/
def reach? : List Step → Json → Option Json
  | [], j => some j
  | s :: route, j => (part? s j).bind (reach? route)

end Step

namespace Difference

/-! ## Parts

An object has a part for each field, a list of channels one for each channel.
The step to a part names it among the others. -/

/-- All items name a channel. -/
def Channels (items : List Json) : Prop := ∀ item ∈ items, (channelOf item).isSome = true

/-- The channel that an item of a list of channels names. -/
def channel (item : Json) : Json := (channelOf item).getD .null

/-- The parts of an object or a list of channels, and the steps to them. -/
def parts : Json → List (Step × Json)
  | .obj fields => fields.map fun f => (.field f.1, f.2)
  | .arr items => items.map fun item => (.channel (channel item), item)
  | _ => []

/-- What holds of a value when it holds of its parts holds of every value. -/
theorem induction_parts {P : Json → Prop} (h : ∀ j, (∀ p ∈ parts j, P p.2) → P j) : ∀ j, P j := by
  have harr : ∀ items, (∀ i ∈ items, P i) → P (.arr items) := fun items ih => h _ fun p hp => by
    obtain ⟨i, hi, rfl⟩ := List.mem_map.1 hp
    exact ih i hi
  have hobj : ∀ fields, (∀ f ∈ fields, P f.2) → P (.obj fields) := fun fields ih =>
    h _ fun p hp => by
      obtain ⟨f, hf, rfl⟩ := List.mem_map.1 hp
      exact ih f hf
  exact @Json.rec P (fun items => ∀ i ∈ items, P i) (fun fields => ∀ f ∈ fields, P f.2)
    (fun f => P f.2) (h _ (by simp [parts])) (fun _ => h _ (by simp [parts]))
    (fun _ => h _ (by simp [parts])) (fun _ => h _ (by simp [parts]))
    (fun _ => h _ (by simp [parts])) harr hobj (by simp)
    (fun _ _ hhead htail => List.forall_mem_cons.2 ⟨hhead, htail⟩) (by simp)
    (fun _ _ hhead htail => List.forall_mem_cons.2 ⟨hhead, htail⟩) (fun _ _ h => h)

theorem channelOf_eq {items : List Json} (h : Channels items) {item : Json} (hi : item ∈ items) :
    channelOf item = some (channel item) := by
  obtain ⟨c, hc⟩ := Option.isSome_iff_exists.1 (h item hi)
  rw [channel, hc]
  rfl

theorem isAbout_iff {a b : Json} (hb : channelOf b = some (channel b)) :
    Step.isAbout (channel b) a = true ↔ SameChannel a b := by
  unfold Step.isAbout SameChannel
  cases channelOf a with
  | none => simp
  | some c => simp [hb]

/-- An item names its own channel. -/
theorem sameChannel_self {item : Json} (hform : item.WellFormed)
    (h : channelOf item = some (channel item)) : SameChannel item item :=
  ⟨_, _, h, h, (hform.get? h).proper⟩

/-- In a list that names no channel twice an item is found by its channel. -/
theorem find?_channel {items : List Json} (hform : ∀ i ∈ items, i.WellFormed)
    (h : Channels items) (hdistinct : items.Pairwise fun a b => ¬SameChannel a b) {item : Json}
    (hi : item ∈ items) : items.find? (Step.isAbout (channel item)) = some item := by
  have hchannel := channelOf_eq h hi
  have hsame := sameChannel_self (hform item hi) hchannel
  induction items with
  | nil => cases hi
  | cons a items ih =>
    obtain ⟨hhead, htail⟩ := List.pairwise_cons.1 hdistinct
    rw [List.find?_cons]
    rcases List.mem_cons.1 hi with rfl | hi
    · rw [(isAbout_iff hchannel).2 hsame]
    · have hother : Step.isAbout (channel item) a = false := by
        rw [← Bool.not_eq_true, isAbout_iff hchannel]
        exact hhead item hi
      rw [hother]
      exact ih (fun i hi => hform i (List.mem_cons_of_mem _ hi))
        (fun i hi => h i (List.mem_cons_of_mem _ hi)) htail hi

/-- What is compared part by part: objects, and lists of channels. -/
def Divided : Json → Prop
  | .obj _ => True
  | .arr items => Channels items
  | _ => False

/-- The steps to the parts of a value lead there. -/
theorem part?_of_mem_parts {j : Json} (hform : j.WellFormed) (hdistinct : Distinct j)
    (hdivided : Divided j) {p : Step × Json} (hp : p ∈ parts j) : Step.part? p.1 j = some p.2 := by
  cases j with
  | obj fields =>
    obtain ⟨f, hf, rfl⟩ := List.mem_map.1 hp
    exact Keyed.lookup_of_mem (Json.WellFormed.obj.1 hform).1 hf
  | arr items =>
    obtain ⟨i, hi, rfl⟩ := List.mem_map.1 hp
    exact find?_channel (Json.WellFormed.arr.1 hform) hdivided
      (hdistinct items (.self _) hdivided) hi
  | _ => cases hp

theorem nodup_steps {j : Json} (hform : j.WellFormed) (hdistinct : Distinct j)
    (hdivided : Divided j) : (parts j).Pairwise fun p q => p.1 ≠ q.1 := by
  cases j with
  | obj fields =>
    refine List.pairwise_map.2 (List.Pairwise.imp ?_ (Json.WellFormed.obj.1 hform).1)
    rintro f g hlt heq
    rw [Step.field.inj heq, Std.ReflOrd.compare_self] at hlt
    cases hlt
  | arr items =>
    refine List.pairwise_map.2 ((hdistinct items (.self _) hdivided).imp_of_mem ?_)
    rintro a b ha hb hother heq
    have hchannel := channelOf_eq hdivided hb
    have hproper := ((Json.WellFormed.arr.1 hform b hb).get? hchannel).proper
    refine hother ⟨_, _, channelOf_eq hdivided ha, hchannel, ?_⟩
    rw [Step.channel.inj heq]
    exact hproper
  | _ => exact .nil

/-! ## Comparisons part by part -/

/-- The differences of a value from the one before, if there was one. -/
def since (old : Option Json) (new : Json) : List Difference :=
  match old with
  | some old => between old new
  | none => if new.isObject then between (.obj []) new else [⟨[], .null, new⟩]

/-- The differences of the parts of a value from what the steps to them led to before. -/
def sinceParts (old : Option Json) (new : Json) : List Difference :=
  (parts new).flatMap fun p => (since (old.bind (Step.part? p.1)) p.2).map (under p.1)

theorem betweenFields_eq (olds news : List (String × Json)) :
    betweenFields olds news = sinceParts (some (.obj olds)) (.obj news) := by
  induction news with
  | nil => rw [betweenFields]; rfl
  | cons f news ih =>
    rw [betweenFields, ih]
    simp only [sinceParts, parts, List.map_cons, List.flatMap_cons, Option.bind_some, Step.part?,
      Json.get?_obj, since]
    cases olds.lookup f.1 with
    | some old => rfl
    | none =>
      dsimp only
      split <;> rfl

theorem counterpart_eq_find? (items : List Json) (c : Json) :
    counterpart items c = (items.find? (Step.isAbout c)).getD (.obj []) := rfl

theorem isObject_of_channelOf {item c : Json} (h : channelOf item = some c) :
    item.isObject = true := by
  cases item with
  | obj => rfl
  | _ => cases h

theorem betweenItems_eq (olds : List Json) {news : List Json} (h : Channels news) :
    betweenItems olds news = sinceParts (some (.arr olds)) (.arr news) := by
  induction news with
  | nil => rw [betweenItems]; rfl
  | cons item news ih =>
    obtain ⟨hitem, hnews⟩ := List.forall_mem_cons.1 h
    obtain ⟨c, hc⟩ := Option.isSome_iff_exists.1 hitem
    rw [betweenItems, ih hnews]
    simp only [sinceParts, parts, List.map_cons, List.flatMap_cons, Option.bind_some, Step.part?,
      Json.asItems?, since, counterpart_eq_find?, channel]
    cases olds.find? (Step.isAbout ((channelOf item).getD .null)) with
    | some old => rfl
    | none => rw [if_pos (isObject_of_channelOf hc)]; rfl

theorem between_channels (olds : List Json) {news : List Json} (h : Channels news) :
    between (.arr olds) (.arr news) = sinceParts (some (.arr olds)) (.arr news) := by
  rw [between_arr, if_pos (List.all_eq_true.2 h), betweenItems_eq olds h]

theorem since_none_obj (fields : List (String × Json)) :
    since none (.obj fields) = sinceParts none (.obj fields) :=
  calc since none (.obj fields)
      = between (.obj []) (.obj fields) := rfl
    _ = sinceParts (some (.obj [])) (.obj fields) := (between_obj ..).trans (betweenFields_eq ..)
    _ = sinceParts none (.obj fields) := by simp [sinceParts, parts, List.flatMap_map, Step.part?]

/-- Two objects are compared field by field, two lists channel by channel if the
    new one is of channels, and other values as a whole. -/
theorem between_cases (old new : Json) :
    (∃ olds news, old = .obj olds ∧ new = .obj news ∧
        between old new = sinceParts (some old) new) ∨
      (∃ olds news, old = .arr olds ∧ new = .arr news ∧ Channels news ∧
        between old new = sinceParts (some old) new) ∨
      between old new = whole old new := by
  cases new with
  | obj news =>
    cases old with
    | obj olds =>
      exact .inl ⟨olds, news, rfl, rfl, (between_obj ..).trans (betweenFields_eq ..)⟩
    | _ => exact .inr (.inr (by simp [between]))
  | arr news =>
    cases old with
    | arr olds =>
      by_cases h : Channels news
      · exact .inr (.inl ⟨olds, news, rfl, rfl, h, between_channels olds h⟩)
      · refine .inr (.inr ?_)
        rw [between_arr, if_neg fun hall => h (List.all_eq_true.1 hall)]
    | _ => exact .inr (.inr (by simp [between]))
  | _ => exact .inr (.inr (by simp [between]))

/-! ## What a difference says -/

/-- A difference of a value from the one before, if there was one: it tells
    what the new value holds at its route and what the old one does, or `null`
    where the old one holds nothing; and if that holds something it is another
    value. -/
structure Genuine (old : Option Json) (new : Json) (d : Difference) : Prop where
  new_held : Step.reach? d.route new = some d.new
  old_held : d.old = (old.bind (Step.reach? d.route)).getD .null
  differs : ∀ v, old.bind (Step.reach? d.route) = some v → (v == d.new) = false

/-- What is genuine for a part is genuine for the whole, one step further. -/
theorem Genuine.under {s : Step} {old : Option Json} {new part : Json} {d : Difference}
    (hpart : Step.part? s new = some part) (h : Genuine (old.bind (Step.part? s)) part d) :
    Genuine old new (d.under s) := by
  have hroute : old.bind (Step.reach? (s :: d.route)) =
      (old.bind (Step.part? s)).bind (Step.reach? d.route) := by
    cases old <;> rfl
  refine ⟨?_, ?_, ?_⟩
  · show (Step.part? s new).bind (Step.reach? d.route) = some d.new
    rw [hpart]
    exact h.new_held
  · show d.old = (old.bind (Step.reach? (s :: d.route))).getD .null
    rw [hroute]
    exact h.old_held
  · show ∀ v, old.bind (Step.reach? (s :: d.route)) = some v → (v == d.new) = false
    rw [hroute]
    exact h.differs

/-- The differences are genuine, and each has a route of its own. -/
def Sound (old : Option Json) (new : Json) (ds : List Difference) : Prop :=
  (∀ d ∈ ds, Genuine old new d) ∧ (ds.map (·.route)).Nodup

theorem sound_nil (old : Option Json) (new : Json) : Sound old new [] := ⟨by simp, by simp⟩

/-- A difference of the values as a whole. -/
theorem sound_singleton {old : Option Json} {new : Json}
    (h : ∀ v, old = some v → (v == new) = false) :
    Sound old new [⟨[], old.getD .null, new⟩] := by
  have hself : old.bind (Step.reach? []) = old := by
    cases old <;> rfl
  refine ⟨fun d hd => ?_, List.nodup_singleton _⟩
  obtain rfl := List.mem_singleton.1 hd
  exact ⟨rfl, by rw [hself], by rw [hself]; exact h⟩

theorem sound_whole (old new : Json) : Sound (some old) new (whole old new) := by
  unfold whole
  split
  · exact sound_nil ..
  · rename_i h
    refine sound_singleton fun v hv => ?_
    obtain rfl := Option.some.inj hv
    simpa using h

theorem sound_sinceParts {old : Option Json} {new : Json} (hform : new.WellFormed)
    (hdistinct : Distinct new) (hdivided : Divided new)
    (h : ∀ p ∈ parts new, ∀ old, Sound old p.2 (since old p.2)) :
    Sound old new (sinceParts old new) := by
  refine ⟨fun d hd => ?_, ?_⟩
  · obtain ⟨p, hp, hd⟩ := List.mem_flatMap.1 hd
    obtain ⟨d, hmem, rfl⟩ := List.mem_map.1 hd
    exact ((h p hp _).1 d hmem).under (part?_of_mem_parts hform hdistinct hdivided hp)
  · have hroutes : (sinceParts old new).map (·.route) = (parts new).flatMap fun p =>
        ((since (old.bind (Step.part? p.1)) p.2).map (·.route)).map (p.1 :: ·) := by
      simp only [sinceParts, List.map_flatMap, List.map_map]
      rfl
    rw [hroutes, List.nodup_flatMap]
    refine ⟨fun p hp => (h p hp _).2.map List.cons_injective, ?_⟩
    -- routes into different parts differ in their first step
    refine (nodup_steps hform hdistinct hdivided).imp fun hne route hp hq => ?_
    obtain ⟨_, -, rfl⟩ := List.mem_map.1 hp
    obtain ⟨_, -, heq⟩ := List.mem_map.1 hq
    exact hne (List.cons.inj heq).1.symm

theorem distinct_arr {items : List Json} : Distinct (.arr items) ↔
    (Channels items → items.Pairwise fun a b => ¬SameChannel a b) ∧ ∀ i ∈ items, Distinct i := by
  refine ⟨fun h => ⟨h items (.self _), fun i hi => h.item hi⟩, fun ⟨hself, hitems⟩ l hl => ?_⟩
  cases hl with
  | self => exact hself
  | item hi hl => exact hitems _ hi l hl

theorem distinct_obj {fields : List (String × Json)} :
    Distinct (.obj fields) ↔ ∀ f ∈ fields, Distinct f.2 := by
  refine ⟨fun h f hf => h.field hf, fun hfields l hl => ?_⟩
  cases hl with
  | field hf hl => exact hfields _ hf l hl

theorem distinct_int (i : Int) : Distinct (.int i) := fun _ hl => nomatch hl

theorem wellFormed_part {j : Json} (h : j.WellFormed) : ∀ p ∈ parts j, p.2.WellFormed := by
  intro p hp
  cases j with
  | obj fields =>
    obtain ⟨f, hf, rfl⟩ := List.mem_map.1 hp
    exact (Json.WellFormed.obj.1 h).2 f hf
  | arr items =>
    obtain ⟨i, hi, rfl⟩ := List.mem_map.1 hp
    exact Json.WellFormed.arr.1 h i hi
  | _ => cases hp

theorem Distinct.part {j : Json} (h : Distinct j) : ∀ p ∈ parts j, Distinct p.2 := by
  intro p hp
  cases j with
  | obj fields =>
    obtain ⟨f, hf, rfl⟩ := List.mem_map.1 hp
    exact h.field hf
  | arr items =>
    obtain ⟨i, hi, rfl⟩ := List.mem_map.1 hp
    exact h.item hi
  | _ => cases hp

theorem sound_since {new : Json} (hform : new.WellFormed) (hdistinct : Distinct new)
    (old : Option Json) : Sound old new (since old new) := by
  induction new using induction_parts generalizing old with
  | h new ih =>
    have hparts : ∀ p ∈ parts new, ∀ old, Sound old p.2 (since old p.2) := fun p hp old =>
      ih p hp (wellFormed_part hform p hp) (hdistinct.part p hp) old
    cases old with
    | some old =>
      rw [since]
      rcases between_cases old new with ⟨olds, news, -, rfl, hbetween⟩ |
        ⟨olds, news, -, rfl, hchannels, hbetween⟩ | hbetween
      · rw [hbetween]
        exact sound_sinceParts hform hdistinct trivial hparts
      · rw [hbetween]
        exact sound_sinceParts hform hdistinct hchannels hparts
      · rw [hbetween]
        exact sound_whole old new
    | none =>
      cases new with
      | obj fields =>
        rw [since_none_obj]
        exact sound_sinceParts hform hdistinct trivial hparts
      | _ => exact sound_singleton fun v hv => nomatch hv

/-- The differences told from a place go with as many routes, all of them
    different. Each is told at the place that its route leads to, with what the
    new value holds there, and with what the old value holds there, or `null`
    where that holds nothing; and where the old value holds something, the two
    differ. -/
theorem between_genuine {old new : Json} (hform : new.WellFormed) (hdistinct : Distinct new)
    (place : String) :
    ∃ routes : List (List Step), routes.Nodup ∧
      List.Forall₂ (fun route change =>
          change.1 = Step.path place route ∧
          Step.reach? route new = some change.2.2 ∧
          change.2.1 = (Step.reach? route old).getD .null ∧
          ∀ v, Step.reach? route old = some v → (v == change.2.2) = false)
        routes ((between old new).map (told place)) := by
  obtain ⟨hgenuine, hnodup⟩ := sound_since hform hdistinct (some old)
  refine ⟨(between old new).map (·.route), hnodup, ?_⟩
  rw [List.forall₂_map_left_iff, List.forall₂_map_right_iff, List.forall₂_same]
  intro d hd
  have h := hgenuine d hd
  exact ⟨rfl, h.new_held, h.old_held, h.differs⟩

/-! ### Reports of outlets -/

/-- What is said of an outlet: its number, and whether it is on. -/
def outlet (o : Int × Int) : Json := .obj [("channel", .int o.1), ("onoff", .int o.2)]

/-- A report of outlets, in an order, and of readings. -/
def report (outlets : List (Int × Int)) (readings : List Int) : Json :=
  .obj [("readings", .arr (readings.map .int)), ("togglex", .arr (outlets.map outlet))]

theorem sameChannel_outlet (o o' : Int × Int) :
    SameChannel (outlet o) (outlet o') ↔ o.1 = o'.1 := by
  refine ⟨fun ⟨c, c', hc, hc', heq⟩ => ?_, fun h => ⟨_, _, rfl, rfl, beq_iff_eq (α := Int).2 h⟩⟩
  obtain rfl := Option.some.inj hc
  obtain rfl := Option.some.inj hc'
  exact eq_of_beq (α := Int) heq

theorem wellFormed_report (outlets : List (Int × Int)) (readings : List Int) :
    (report outlets readings).WellFormed := by
  have horder : compare "readings" "togglex" = .lt := by decide
  have horder' : compare "channel" "onoff" = .lt := by decide
  simp only [report, outlet, Json.WellFormed.obj, Json.WellFormed.arr, Keyed.Ascending,
    List.pairwise_pair, List.forall_mem_cons, List.forall_mem_map]
  simp [Json.WellFormed, horder, horder']

theorem eq_nil_of_channels {readings : List Int} (h : Channels (readings.map .int)) :
    readings = [] := by
  cases readings with
  | nil => rfl
  | cons i readings => cases h (.int i) (List.mem_cons_self ..)

/-- A report names no outlet twice if their numbers differ. -/
theorem distinct_report {outlets : List (Int × Int)} {readings : List Int}
    (h : outlets.Pairwise fun o o' => o.1 ≠ o'.1) : Distinct (report outlets readings) := by
  have hreadings : Distinct (.arr (readings.map .int)) := by
    refine distinct_arr.2 ⟨fun hchannels => ?_, List.forall_mem_map.2 fun i _ => distinct_int i⟩
    rw [eq_nil_of_channels hchannels]
    exact .nil
  have houtlets : Distinct (.arr (outlets.map outlet)) := by
    refine distinct_arr.2 ⟨fun _ => List.pairwise_map.2 (h.imp fun {o o'} hne hsame => ?_),
      List.forall_mem_map.2 fun o _ => ?_⟩
    · exact hne ((sameChannel_outlet o o').1 hsame)
    · simp [outlet, distinct_obj, distinct_int]
  simpa [report, distinct_obj] using ⟨hreadings, houtlets⟩

/-- A second outlet is there and on, the first was turned on too, and there are more readings. -/
theorem between_genuine_report :
    (report [(1, 1), (0, 1)] [21, 40]).WellFormed ∧
      Distinct (report [(1, 1), (0, 1)] [21, 40]) ∧
      (between (report [(0, 0)] [21]) (report [(1, 1), (0, 1)] [21, 40])).map (told "") =
        [("readings", .arr [.int 21], .arr [.int 21, .int 40]),
          ("togglex.[1].channel", .null, .int 1), ("togglex.[1].onoff", .null, .int 1),
          ("togglex.[0].onoff", .int 0, .int 1)] ∧
      ∃ routes : List (List Step), routes.Nodup ∧
        List.Forall₂ (fun route change =>
            change.1 = Step.path "" route ∧
            Step.reach? route (report [(1, 1), (0, 1)] [21, 40]) = some change.2.2 ∧
            change.2.1 = (Step.reach? route (report [(0, 0)] [21])).getD .null ∧
            ∀ v, Step.reach? route (report [(0, 0)] [21]) = some v → (v == change.2.2) = false)
          routes
          ((between (report [(0, 0)] [21]) (report [(1, 1), (0, 1)] [21, 40])).map (told "")) := by
  have hform := wellFormed_report [(1, 1), (0, 1)] [21, 40]
  have hdistinct : Distinct (report [(1, 1), (0, 1)] [21, 40]) := distinct_report (by decide)
  exact ⟨hform, hdistinct, by cbv, between_genuine hform hdistinct ""⟩

end Difference

end Appliance
