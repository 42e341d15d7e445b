-- SUMMARY: What the differences leave out: values without differences are the same up to the order of channels, save where a comparison comes to nothing.

import Appliance.Proofs.Route

namespace Appliance

namespace Difference

/-! ## What is lost and what is overlooked

A comparison follows the new value. What only the old one has is lost on it,
and so is what the new one brings where it has nothing that could be followed:
an empty list, for one, or an object that holds empty objects only. -/

/-- An object all of whose fields are hollow. Nothing in it can be told as new. -/
inductive Hollow : Json → Prop where
  | obj {fields : List (String × Json)} (h : ∀ f ∈ fields, Hollow f.2) : Hollow (.obj fields)

/-- A name that an object of the old value has is missing from the object at
    its place in the new one, where items of lists of channels are matched by
    channel. -/
inductive Loses : Json → Json → Prop where
  | name {olds news : List (String × Json)} {name : String} {old : Json}
      (had : olds.lookup name = some old) (gone : news.lookup name = none) :
      Loses (.obj olds) (.obj news)
  | field {olds news : List (String × Json)} {name : String} {old new : Json}
      (hold : olds.lookup name = some old) (hnew : news.lookup name = some new)
      (h : Loses old new) : Loses (.obj olds) (.obj news)
  | channel {olds news : List Json} (holds : Channels olds) (hnews : Channels news) {a : Json}
      (had : a ∈ olds) (gone : ∀ b ∈ news, ¬SameChannel a b) : Loses (.arr olds) (.arr news)
  | item {olds news : List Json} (holds : Channels olds) (hnews : Channels news) {a b : Json}
      (ha : a ∈ olds) (hb : b ∈ news) (hsame : SameChannel a b) (h : Loses a b) :
      Loses (.arr olds) (.arr news)

/-- Somewhere the comparison of the values comes to nothing though they differ. -/
inductive Overlooks : Json → Json → Prop where
  /-- A list of other things gives way to a list of channels that brings none. -/
  | list {olds news : List Json} (hnews : Channels news) {a : Json} (had : a ∈ olds)
      (plain : channelOf a = none) (none_new : ∀ b ∈ news, ∃ a ∈ olds, SameChannel a b) :
      Overlooks (.arr olds) (.arr news)
  /-- A hollow object is new. -/
  | name {olds news : List (String × Json)} {name : String} {new : Json}
      (hold : olds.lookup name = none) (hnew : news.lookup name = some new)
      (hollow : Hollow new) : Overlooks (.obj olds) (.obj news)
  /-- A channel is new about which hollow objects are all that is told. -/
  | channel {olds news : List Json} (hnews : Channels news) {b : Json} (hb : b ∈ news)
      (hold : ∀ a ∈ olds, ¬SameChannel a b) (hollow : Hollow b) :
      Overlooks (.arr olds) (.arr news)
  | field {olds news : List (String × Json)} {name : String} {old new : Json}
      (hold : olds.lookup name = some old) (hnew : news.lookup name = some new)
      (h : Overlooks old new) : Overlooks (.obj olds) (.obj news)
  | item {olds news : List Json} (hnews : Channels news) {a b : Json} (ha : a ∈ olds)
      (hb : b ∈ news) (hsame : SameChannel a b) (h : Overlooks a b) :
      Overlooks (.arr olds) (.arr news)

/-! ## Where there is no difference -/

theorem sinceParts_eq_nil {old : Option Json} {new : Json} (h : sinceParts old new = []) :
    ∀ p ∈ parts new, since (old.bind (Step.part? p.1)) p.2 = [] :=
  fun p hp => List.map_eq_nil_iff.1 (List.flatMap_eq_nil_iff.1 h p hp)

/-- Hollow objects, and nothing else, are new without a difference. -/
theorem since_none_eq_nil_iff {new : Json} : since none new = [] ↔ Hollow new := by
  refine ⟨fun h => ?_, fun h => ?_⟩
  · induction new using induction_parts with
    | h new ih =>
      cases new with
      | obj fields =>
        rw [since_none_obj] at h
        exact .obj fun f hf => ih _ (List.mem_map_of_mem hf)
          (sinceParts_eq_nil h _ (List.mem_map_of_mem hf))
      | _ => cases h
  · induction h with
    | obj _ ih =>
      rw [since_none_obj]
      refine List.flatMap_eq_nil_iff.2 fun p hp => ?_
      obtain ⟨f, hf, rfl⟩ := List.mem_map.1 hp
      exact List.map_eq_nil_iff.2 (ih f hf)

/-- That a list has become empty is no difference, whatever was in it. -/
theorem between_arr_nil (olds : List Json) : between (.arr olds) (.arr []) = [] := by
  rw [between_channels olds (List.forall_mem_nil _)]
  rfl

theorem beq_of_whole {old new : Json} (h : whole old new = []) : (old == new) = true := by
  unfold whole at h
  split at h
  · assumption
  · cases h

theorem SameChannel.symm {a b : Json} (h : SameChannel a b) : SameChannel b a := by
  obtain ⟨c, c', hc, hc', heq⟩ := h
  exact ⟨c', c, hc', hc, BEq.symm heq⟩

theorem SameChannel.trans {a b c : Json} (h : SameChannel a b) (h' : SameChannel b c) :
    SameChannel a c := by
  obtain ⟨x, y, hx, hy, heq⟩ := h
  obtain ⟨y', z, hy', hz, heq'⟩ := h'
  obtain rfl := Option.some.inj (hy.symm.trans hy')
  exact ⟨x, z, hx, hz, BEq.trans heq heq'⟩

/-- In a list that names no channel twice there is one item about a channel. -/
theorem eq_of_sameChannel {items : List Json}
    (h : items.Pairwise fun a b => ¬SameChannel a b) {a b : Json} (ha : a ∈ items)
    (hb : b ∈ items) (hsame : SameChannel a b) : a = b := by
  have hsymm : Std.Symm fun a b : Json => ¬SameChannel a b := ⟨fun _ _ hab hba => hab hba.symm⟩
  by_contra hne
  exact h.forall ha hb hne hsame

/-- Lists of channels are equivalent if each item of either has an item about
    its channel in the other, and those of one channel are equivalent. -/
theorem equivalent_channels {olds news : List Json} (hform : ∀ b ∈ news, b.WellFormed)
    (hnews : Channels news) (hdistinct : olds.Pairwise fun a b => ¬SameChannel a b)
    (hdistinct' : news.Pairwise fun a b => ¬SameChannel a b)
    (hkept : ∀ a ∈ olds, ∃ b ∈ news, SameChannel a b)
    (hknown : ∀ b ∈ news, ∃ a ∈ olds, SameChannel a b ∧ Equivalent a b) :
    Equivalent (.arr olds) (.arr news) := by
  have hpartner : ∀ a ∈ olds, ∃ b ∈ news, SameChannel a b ∧ Equivalent a b := by
    intro a ha
    obtain ⟨b, hb, hsame⟩ := hkept a ha
    obtain ⟨a', ha', hsame', hequivalent⟩ := hknown b hb
    obtain rfl := eq_of_sameChannel hdistinct ha ha' (hsame.trans hsame'.symm)
    exact ⟨b, hb, hsame, hequivalent⟩
  choose! partner hmem hsame hequivalent using hpartner
  have hperm : (olds.map partner).Perm news := by
    refine (List.perm_ext_iff_of_nodup ?_ ?_).2 fun b => ⟨fun hb => ?_, fun hb => ?_⟩
    · refine List.pairwise_map.2 (hdistinct.imp_of_mem fun ha ha' hother heq => ?_)
      exact hother ((hsame _ ha).trans (heq ▸ (hsame _ ha').symm))
    · refine hdistinct'.imp_of_mem fun hb _ hother heq => ?_
      subst heq
      exact hother (sameChannel_self (hform _ hb) (channelOf_eq hnews hb))
    · obtain ⟨a, ha, rfl⟩ := List.mem_map.1 hb
      exact hmem a ha
    · obtain ⟨a, ha, hab, -⟩ := hknown b hb
      have hpartner := eq_of_sameChannel hdistinct' hb (hmem a ha) (hab.symm.trans (hsame a ha))
      exact List.mem_map.2 ⟨a, ha, hpartner.symm⟩
  have hfirst : (olds.map fun a => (a, partner a)).map (·.1) = olds := by
    simp [Function.comp_def]
  have hsecond : (olds.map fun a => (a, partner a)).map (·.2) = olds.map partner := by simp
  rw [← hfirst]
  refine .channels (hsecond ▸ hperm) (fun p hp => ?_) fun p hp => ?_
  · obtain ⟨a, ha, rfl⟩ := List.mem_map.1 hp
    exact hsame a ha
  · obtain ⟨a, ha, rfl⟩ := List.mem_map.1 hp
    exact hequivalent a ha

/-- What an item of a list of channels was compared with. -/
theorem since_channel {olds news : List Json} (hnews : Channels news)
    (h : sinceParts (some (.arr olds)) (.arr news) = []) {b : Json} (hb : b ∈ news) :
    (∃ a ∈ olds, SameChannel a b ∧ between a b = []) ∨
      (∀ a ∈ olds, ¬SameChannel a b) ∧ Hollow b := by
  have hchannel := channelOf_eq hnews hb
  have hnone : since (olds.find? (Step.isAbout (channel b))) b = [] :=
    sinceParts_eq_nil h _ (List.mem_map_of_mem hb)
  cases hfind : olds.find? (Step.isAbout (channel b)) with
  | some a =>
    rw [hfind] at hnone
    exact .inl ⟨a, List.mem_of_find?_eq_some hfind,
      (isAbout_iff hchannel).1 (List.find?_some hfind), hnone⟩
  | none =>
    rw [hfind] at hnone
    refine .inr ⟨fun a ha hsame => ?_, since_none_eq_nil_iff.1 hnone⟩
    exact List.find?_eq_none.1 hfind a ha ((isAbout_iff hchannel).2 hsame)

/-- What a field was compared with. -/
theorem since_field {olds news : List (String × Json)}
    (h : sinceParts (some (.obj olds)) (.obj news) = []) {name : String} {new : Json}
    (hnew : news.lookup name = some new) :
    (∃ old, olds.lookup name = some old ∧ between old new = []) ∨
      olds.lookup name = none ∧ Hollow new := by
  have hnone : since (olds.lookup name) new = [] :=
    sinceParts_eq_nil h _ (List.mem_map_of_mem (Keyed.mem_of_lookup hnew))
  cases hold : olds.lookup name with
  | some old =>
    rw [hold] at hnone
    exact .inl ⟨old, rfl, hnone⟩
  | none =>
    rw [hold] at hnone
    exact .inr ⟨rfl, since_none_eq_nil_iff.1 hnone⟩

/-- Whatever value it is compared with, the value is equivalent to it when no
    difference is told and nothing is lost or overlooked. -/
def Complete (new : Json) : Prop :=
  ∀ {old : Json}, new.WellFormed → Distinct old → Distinct new → ¬Loses old new →
    ¬Overlooks old new → between old new = [] → Equivalent old new

theorem equivalent_fields {olds news : List (String × Json)}
    (ih : ∀ p ∈ parts (.obj news), Complete p.2) (hform : (Json.obj news).WellFormed)
    (hdistinct : Distinct (.obj olds)) (hdistinct' : Distinct (.obj news))
    (hkept : ¬Loses (.obj olds) (.obj news)) (hseen : ¬Overlooks (.obj olds) (.obj news))
    (h : sinceParts (some (.obj olds)) (.obj news) = []) :
    Equivalent (.obj olds) (.obj news) := by
  refine .object (fun name => ?_) fun name old new hold hnew => ?_
  · cases hold : olds.lookup name with
    | some old =>
      cases hnew : news.lookup name with
      | some new => rfl
      | none => exact absurd (.name hold hnew) hkept
    | none =>
      cases hnew : news.lookup name with
      | some new =>
        rcases since_field h hnew with ⟨old, hold', -⟩ | ⟨-, hollow⟩
        · cases hold.symm.trans hold'
        · exact absurd (.name hold hnew hollow) hseen
      | none => rfl
  · have hmem : (.field name, new) ∈ parts (.obj news) :=
      List.mem_map_of_mem (Keyed.mem_of_lookup hnew)
    rcases since_field h hnew with ⟨old', hold', hnone⟩ | ⟨hold', -⟩
    · obtain rfl := Option.some.inj (hold.symm.trans hold')
      exact ih _ hmem (wellFormed_part hform _ hmem)
        (hdistinct.field (Keyed.mem_of_lookup hold)) (hdistinct'.part _ hmem)
        (fun hloses => hkept (.field hold hnew hloses))
        (fun hoverlooks => hseen (.field hold hnew hoverlooks)) hnone
    · cases hold.symm.trans hold'

theorem equivalent_items {olds news : List Json} (ih : ∀ p ∈ parts (.arr news), Complete p.2)
    (hnews : Channels news) (hform : (Json.arr news).WellFormed)
    (hdistinct : Distinct (.arr olds)) (hdistinct' : Distinct (.arr news))
    (hkept : ¬Loses (.arr olds) (.arr news)) (hseen : ¬Overlooks (.arr olds) (.arr news))
    (h : sinceParts (some (.arr olds)) (.arr news) = []) :
    Equivalent (.arr olds) (.arr news) := by
  have hknown : ∀ b ∈ news, ∃ a ∈ olds, SameChannel a b ∧ between a b = [] := by
    intro b hb
    rcases since_channel hnews h hb with hknown | ⟨hold, hollow⟩
    · exact hknown
    · exact absurd (.channel hnews hb hold hollow) hseen
  have holds : Channels olds := by
    intro a ha
    rw [Option.isSome_iff_ne_none]
    refine fun hplain => hseen (.list hnews ha hplain fun b hb => ?_)
    obtain ⟨a, ha, hsame, -⟩ := hknown b hb
    exact ⟨a, ha, hsame⟩
  refine equivalent_channels (Json.WellFormed.arr.1 hform) hnews
    (hdistinct olds (.self _) holds) (hdistinct' news (.self _) hnews) (fun a ha => ?_)
    fun b hb => ?_
  · by_contra hgone
    exact hkept (.channel holds hnews ha fun b hb hsame => hgone ⟨b, hb, hsame⟩)
  · obtain ⟨a, ha, hsame, hnone⟩ := hknown b hb
    have hmem : (.channel (channel b), b) ∈ parts (.arr news) := List.mem_map_of_mem hb
    exact ⟨a, ha, hsame, ih _ hmem (wellFormed_part hform _ hmem) (hdistinct.item ha)
      (hdistinct'.part _ hmem) (fun hloses => hkept (.item holds hnews ha hb hsame hloses))
      (fun hoverlooks => hseen (.item hnews ha hb hsame hoverlooks)) hnone⟩

theorem complete (new : Json) : Complete new := by
  induction new using induction_parts with
  | h new ih =>
    intro old hform hdistinct hdistinct' hkept hseen h
    rcases between_cases old new with ⟨olds, news, rfl, rfl, hbetween⟩ |
      ⟨olds, news, rfl, rfl, hnews, hbetween⟩ | hbetween
    · exact equivalent_fields ih hform hdistinct hdistinct' hkept hseen (hbetween.symm.trans h)
    · exact equivalent_items ih hnews hform hdistinct hdistinct' hkept hseen
        (hbetween.symm.trans h)
    · exact .equal (beq_of_whole (hbetween.symm.trans h))

/-- Of two values, none of whose lists names a channel twice, where the new one
    has all names and channels of the old one and no comparison comes to nothing
    unduly, the differences are none just if the values are the same up to the
    order of channels. -/
theorem between_eq_nil_iff_equivalent {old new : Json} (hold : old.WellFormed)
    (hnew : new.WellFormed) (hdistinct : Distinct old) (hdistinct' : Distinct new)
    (hkept : ¬Loses old new) (hseen : ¬Overlooks old new) (place : String) :
    (between old new).map (told place) = [] ↔ Equivalent old new := by
  rw [List.map_eq_nil_iff]
  exact ⟨complete new hnew hdistinct hdistinct' hkept hseen,
    fun h => between_of_equivalent h hold hnew hdistinct⟩

/-! ### Reports of outlets -/

theorem lookup_report {outlets : List (Int × Int)} {readings : List Int} {name : String}
    {v : Json} (h : [("readings", Json.arr (readings.map .int)),
      ("togglex", .arr (outlets.map outlet))].lookup name = some v) :
    name = "readings" ∧ v = .arr (readings.map .int) ∨
      name = "togglex" ∧ v = .arr (outlets.map outlet) := by
  simpa using Keyed.mem_of_lookup h

theorem lookup_outlet {o : Int × Int} {name : String} {v : Json}
    (h : [("channel", Json.int o.1), ("onoff", .int o.2)].lookup name = some v) :
    (name = "channel" ∨ name = "onoff") ∧ ∃ i, v = .int i := by
  rcases List.mem_pair.1 (Keyed.mem_of_lookup h) with heq | heq <;> cases heq <;> simp

theorem not_loses_outlet (o o' : Int × Int) : ¬Loses (outlet o) (outlet o') := by
  intro h
  cases h with
  | name had gone =>
    obtain ⟨rfl | rfl, -⟩ := lookup_outlet had <;> cases gone
  | field hold hnew h =>
    obtain ⟨-, i, rfl⟩ := lookup_outlet hold
    cases h

/-- Nothing but an outlet can be missing from a later report. -/
theorem loses_report {outlets outlets' : List (Int × Int)} {readings readings' : List Int}
    (h : Loses (report outlets readings) (report outlets' readings')) :
    ∃ o ∈ outlets, ∀ o' ∈ outlets', o.1 ≠ o'.1 := by
  cases h with
  | name had gone =>
    rcases lookup_report had with ⟨rfl, -⟩ | ⟨rfl, -⟩ <;> cases gone
  | field hold hnew h =>
    rcases lookup_report hold with ⟨rfl, rfl⟩ | ⟨rfl, rfl⟩ <;> cases hnew
    · generalize hold : readings.map Json.int = olds at h
      cases h with
      | channel holds _ had | item holds _ had =>
        subst hold
        rw [eq_nil_of_channels holds] at had
        cases had
    · generalize hold : outlets.map outlet = olds, hnew : outlets'.map outlet = news at h
      cases h with
      | channel holds hnews had gone =>
        subst hold hnew
        obtain ⟨o, ho, rfl⟩ := List.mem_map.1 had
        exact ⟨o, ho, fun o' ho' heq =>
          gone _ (List.mem_map_of_mem ho') ((sameChannel_outlet o o').2 heq)⟩
      | item holds hnews ha hb hsame h =>
        subst hold hnew
        obtain ⟨o, -, rfl⟩ := List.mem_map.1 ha
        obtain ⟨o', -, rfl⟩ := List.mem_map.1 hb
        exact absurd h (not_loses_outlet o o')

theorem not_overlooks_outlet (o o' : Int × Int) : ¬Overlooks (outlet o) (outlet o') := by
  intro h
  cases h with
  | name hold hnew hollow =>
    obtain ⟨-, i, rfl⟩ := lookup_outlet hnew
    cases hollow
  | field hold hnew h =>
    obtain ⟨-, i, rfl⟩ := lookup_outlet hold
    cases h

theorem not_hollow_outlet (o : Int × Int) : ¬Hollow (outlet o) := by
  intro h
  cases h with
  | obj h => cases h _ (List.mem_cons_self ..)

/-- What is overlooked in a later report is that all readings are gone. -/
theorem overlooks_report_iff {outlets outlets' : List (Int × Int)} {readings readings' : List Int} :
    Overlooks (report outlets readings) (report outlets' readings') ↔
      readings ≠ [] ∧ readings' = [] := by
  refine ⟨fun h => ?_, fun ⟨hold, hnew⟩ => ?_⟩
  · cases h with
    | name hold hnew hollow =>
      rcases lookup_report hnew with ⟨rfl, -⟩ | ⟨rfl, -⟩ <;> cases hold
    | field hold hnew h =>
      rcases lookup_report hold with ⟨rfl, rfl⟩ | ⟨rfl, rfl⟩ <;> cases hnew
      · generalize hold : readings.map Json.int = olds, hnew : readings'.map Json.int = news at h
        cases h with
        | list hnews had | item hnews had =>
          subst hold hnew
          refine ⟨?_, eq_nil_of_channels hnews⟩
          rintro rfl
          cases had
        | channel hnews hb =>
          subst hnew
          rw [eq_nil_of_channels hnews] at hb
          cases hb
      · generalize hold : outlets.map outlet = olds, hnew : outlets'.map outlet = news at h
        cases h with
        | list hnews had plain =>
          subst hold
          obtain ⟨o, -, rfl⟩ := List.mem_map.1 had
          cases plain
        | channel hnews hb hold' hollow =>
          subst hnew
          obtain ⟨o, -, rfl⟩ := List.mem_map.1 hb
          exact absurd hollow (not_hollow_outlet o)
        | item hnews ha hb hsame h =>
          subst hold hnew
          obtain ⟨o, -, rfl⟩ := List.mem_map.1 ha
          obtain ⟨o', -, rfl⟩ := List.mem_map.1 hb
          exact absurd h (not_overlooks_outlet o o')
  · subst hnew
    obtain ⟨i, hi⟩ := List.exists_mem_of_ne_nil _ hold
    refine @Overlooks.field _ _ "readings" _ _ rfl rfl ?_
    exact .list (fun b hb => nomatch hb) (List.mem_map_of_mem hi) rfl fun b hb => nomatch hb

/-- Outlets that are told of in another order are no difference. -/
theorem between_eq_nil_iff_equivalent_report :
    (report [(0, 1), (1, 0)] [21]).WellFormed ∧ (report [(1, 0), (0, 1)] [21]).WellFormed ∧
      Distinct (report [(0, 1), (1, 0)] [21]) ∧ Distinct (report [(1, 0), (0, 1)] [21]) ∧
      ¬Loses (report [(0, 1), (1, 0)] [21]) (report [(1, 0), (0, 1)] [21]) ∧
      ¬Overlooks (report [(0, 1), (1, 0)] [21]) (report [(1, 0), (0, 1)] [21]) ∧
      (between (report [(0, 1), (1, 0)] [21]) (report [(1, 0), (0, 1)] [21])).map (told "") = [] ∧
      Equivalent (report [(0, 1), (1, 0)] [21]) (report [(1, 0), (0, 1)] [21]) := by
  have hold := wellFormed_report [(0, 1), (1, 0)] [21]
  have hnew := wellFormed_report [(1, 0), (0, 1)] [21]
  have hdistinct : Distinct (report [(0, 1), (1, 0)] [21]) := distinct_report (by decide)
  have hdistinct' : Distinct (report [(1, 0), (0, 1)] [21]) := distinct_report (by decide)
  have hkept : ¬Loses (report [(0, 1), (1, 0)] [21]) (report [(1, 0), (0, 1)] [21]) := fun h =>
    absurd (loses_report h) (by decide)
  have hseen : ¬Overlooks (report [(0, 1), (1, 0)] [21]) (report [(1, 0), (0, 1)] [21]) :=
    fun h => absurd (overlooks_report_iff.1 h) (by decide)
  have hnone : (between (report [(0, 1), (1, 0)] [21])
      (report [(1, 0), (0, 1)] [21])).map (told "") = [] := by cbv
  exact ⟨hold, hnew, hdistinct, hdistinct', hkept, hseen, hnone,
    (between_eq_nil_iff_equivalent hold hnew hdistinct hdistinct' hkept hseen "").1 hnone⟩

theorem eq_nil_of_equivalent {olds : List Json} (h : Equivalent (.arr olds) (.arr [])) :
    olds = [] := by
  cases h with
  | equal h =>
    cases olds with
    | nil => rfl
    | cons => cases h
  | channels paired =>
    rw [List.map_eq_nil_iff.1 (List.perm_nil.1 paired)]
    rfl

/-- All readings are gone, which is no loss of a name or a channel, and nothing is told. -/
theorem between_report_emptied :
    (report [] [21, 40]).WellFormed ∧ (report [] []).WellFormed ∧
      Distinct (report [] [21, 40]) ∧ Distinct (report [] []) ∧
      ¬Loses (report [] [21, 40]) (report [] []) ∧
      (between (report [] [21, 40]) (report [] [])).map (told "") = [] ∧
      ¬Equivalent (report [] [21, 40]) (report [] []) := by
  refine ⟨wellFormed_report .., wellFormed_report .., distinct_report .nil, distinct_report .nil,
    fun h => absurd (loses_report h) (by decide), by cbv, fun h => ?_⟩
  cases h with
  | equal h => cases h
  | object _ fields =>
    have hreadings := eq_nil_of_equivalent (fields "readings" _ _ rfl rfl)
    cases hreadings

end Difference

end Appliance
