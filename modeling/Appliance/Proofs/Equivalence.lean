-- SUMMARY: Values that are the same up to the order of their channels, at any depth, have no differences.

import Appliance.Difference
import Appliance.Proofs.Sameness

namespace Appliance

/-! ## Parts of a value -/

namespace Json

/-- The first value is the second one, or stands somewhere in it. -/
inductive Within : Json → Json → Prop where
  | self (j : Json) : Within j j
  | item {i j : Json} {items : List Json} (mem : j ∈ items) (h : Within i j) :
      Within i (.arr items)
  | field {i : Json} {f : String × Json} {fields : List (String × Json)} (mem : f ∈ fields)
      (h : Within i f.2) : Within i (.obj fields)

/-- Equal lists have equal items. -/
theorem exists_beq_of_mem {is js : List Json} (h : beqItems is js = true) {j : Json}
    (hj : j ∈ js) : ∃ i ∈ is, (i == j) = true := by
  induction is generalizing js with
  | nil =>
    cases js with
    | nil => cases hj
    | cons j js => cases h
  | cons i is ih =>
    cases js with
    | nil => cases h
    | cons j' js =>
      simp only [beqItems, Bool.and_eq_true] at h
      rcases List.mem_cons.1 hj with rfl | hj
      · exact ⟨i, List.mem_cons_self .., h.1⟩
      · obtain ⟨i', hi', heq⟩ := ih h.2 hj
        exact ⟨i', List.mem_cons_of_mem _ hi', heq⟩

/-- The names of equal fields are the same, and their values are equal. -/
theorem lookup_of_beqFields {fs gs : List (String × Json)} (h : beqFields fs gs = true)
    {name : String} {v : Json} (hv : gs.lookup name = some v) :
    ∃ u, fs.lookup name = some u ∧ (u == v) = true := by
  induction fs generalizing gs with
  | nil =>
    cases gs with
    | nil => cases hv
    | cons g gs => cases h
  | cons f fs ih =>
    cases gs with
    | nil => cases h
    | cons g gs =>
      simp only [beqFields, Bool.and_eq_true, beq_iff_eq] at h
      obtain ⟨⟨hname, hvalue⟩, hrest⟩ := h
      rw [Keyed.lookup_cons] at hv
      rw [Keyed.lookup_cons, hname]
      split at hv
      · rename_i hhere
        cases hv
        exact ⟨f.2, if_pos hhere, hvalue⟩
      · rename_i hthere
        obtain ⟨u, hu, huv⟩ := ih hrest hv
        exact ⟨u, by rw [if_neg hthere, hu], huv⟩

end Json

namespace Difference

/-! ## Values up to the order of channels

A list of channels is a list of objects each of which names a channel. What
such a list says does not depend on its order, and neither does what a value
says that has such lists in its fields, or in the items of such lists. All
other lists are values as a whole. -/

/-- The two items name a channel, and it is the same one. -/
def SameChannel (a b : Json) : Prop :=
  ∃ c c', channelOf a = some c ∧ channelOf b = some c' ∧ (c == c') = true

/-- The values are the same, up to the order of their channels. -/
inductive Equivalent : Json → Json → Prop where
  | equal {old new : Json} (h : (old == new) = true) : Equivalent old new
  /-- The objects have the same names, with equivalent values. -/
  | object {olds news : List (String × Json)}
      (names : ∀ name, (olds.lookup name).isSome = (news.lookup name).isSome)
      (fields : ∀ name old new, olds.lookup name = some old → news.lookup name = some new →
        Equivalent old new) :
      Equivalent (.obj olds) (.obj news)
  /-- The items of the lists are paired: each pair is about one channel, and its
      items are equivalent. -/
  | channels {pairs : List (Json × Json)} {news : List Json}
      (paired : (pairs.map (·.2)).Perm news) (channel : ∀ p ∈ pairs, SameChannel p.1 p.2)
      (items : ∀ p ∈ pairs, Equivalent p.1 p.2) :
      Equivalent (.arr (pairs.map (·.1))) (.arr news)

/-- No list of channels in the value names a channel twice. -/
def Distinct (j : Json) : Prop :=
  ∀ items, Json.Within (.arr items) j → (∀ i ∈ items, (channelOf i).isSome = true) →
    items.Pairwise fun a b => ¬SameChannel a b

theorem Distinct.item {items : List Json} (h : Distinct (.arr items)) {i : Json}
    (hi : i ∈ items) : Distinct i :=
  fun l hl => h l (.item hi hl)

theorem Distinct.field {fields : List (String × Json)} (h : Distinct (.obj fields))
    {f : String × Json} (hf : f ∈ fields) : Distinct f.2 :=
  fun l hl => h l (.field hf hl)

/-- A difference as it is told from a place: its path, and what was and is there. -/
def told (place : String) (x : Difference) : String × Json × Json :=
  (Step.path place x.route, x.old, x.new)

/-! ## Where there is no difference -/

theorem whole_of_beq {old new : Json} (h : (old == new) = true) : whole old new = [] := if_pos h

theorem between_obj (olds news : List (String × Json)) :
    between (.obj olds) (.obj news) = betweenFields olds news := by
  rw [between]

theorem between_arr (olds news : List Json) :
    between (.arr olds) (.arr news) =
      if news.all fun item => (channelOf item).isSome then betweenItems olds news
      else whole (.arr olds) (.arr news) := by
  rw [between]

theorem betweenFields_eq_nil {olds news : List (String × Json)}
    (h : ∀ f ∈ news, ∃ old, olds.lookup f.1 = some old ∧ between old f.2 = []) :
    betweenFields olds news = [] := by
  induction news with
  | nil => rw [betweenFields]
  | cons f news ih =>
    obtain ⟨⟨old, hold, hnone⟩, hrest⟩ := List.forall_mem_cons.1 h
    simp only [betweenFields, hold, ih hrest, hnone, List.map_nil, List.append_nil]

/-- Among different channels the first that matches is the only one. -/
theorem counterpart_eq {olds : List Json} (h : olds.Pairwise fun a b => ¬SameChannel a b)
    {a b c : Json} (ha : a ∈ olds) (hsame : SameChannel a b) (hc : channelOf b = some c) :
    counterpart olds c = a := by
  obtain ⟨ca, cb, hca, hcb, heq⟩ := hsame
  obtain rfl : cb = c := Option.some.inj (hcb.symm.trans hc)
  unfold counterpart
  induction olds with
  | nil => cases ha
  | cons x olds ih =>
    obtain ⟨hx, hrest⟩ := List.pairwise_cons.1 h
    rw [List.find?_cons]
    rcases List.mem_cons.1 ha with rfl | ha
    · simp [hca, heq]
    · -- an earlier match would name the same channel as the item itself
      cases hcx : channelOf x with
      | none => exact ih hrest ha
      | some cx =>
        have hne : (cx == cb) = false := by
          rw [← Bool.not_eq_true]
          exact fun hmatch => hx a ha ⟨cx, ca, hcx, hca, BEq.trans hmatch (BEq.symm heq)⟩
        simp only [hne]
        exact ih hrest ha

theorem betweenItems_eq_nil {olds news : List Json}
    (hdistinct : olds.Pairwise fun a b => ¬SameChannel a b)
    (h : ∀ b ∈ news, ∃ a ∈ olds, SameChannel a b ∧ between a b = []) :
    betweenItems olds news = [] := by
  induction news with
  | nil => rw [betweenItems]
  | cons b news ih =>
    obtain ⟨⟨a, ha, hsame, hnone⟩, hrest⟩ := List.forall_mem_cons.1 h
    obtain ⟨-, c, -, hc, -⟩ := id hsame
    simp only [betweenItems, ih hrest, hc, Option.getD_some, counterpart_eq hdistinct ha hsame hc,
      hnone, List.map_nil, List.append_nil]

/-! ### Equal values -/

/-- Equal items name equal channels. -/
theorem sameChannel_of_beq {a b : Json} (h : (a == b) = true)
    (hb : (channelOf b).isSome = true) : SameChannel a b := by
  obtain ⟨c, hc⟩ := Option.isSome_iff_exists.1 hb
  cases b with
  | obj news =>
    cases a with
    | obj olds =>
      obtain ⟨c', hc', heq⟩ := Json.lookup_of_beqFields h hc
      exact ⟨c', c, hc', hc, heq⟩
    | _ => cases h
  | _ => cases hc

mutual

private theorem between_beq : ∀ {old new : Json}, Json.beq old new = true → old.WellFormed →
    Distinct old → between old new = []
  | .null, .null, h, _, _ | .bool _, .bool _, h, _, _ | .int _, .int _, h, _, _
  | .float _, .float _, h, _, _ | .str _, .str _, h, _, _ => whole_of_beq h
  | .arr olds, .arr news, h, hwf, hdistinct => by
    rw [between_arr]
    split
    · rename_i hchannels
      have hnews := List.all_eq_true.1 hchannels
      have hmatched := between_beqItems h (Json.WellFormed.arr.1 hwf) fun a ha => hdistinct.item ha
      have holds : ∀ a ∈ olds, (channelOf a).isSome = true := fun a ha => by
        obtain ⟨b, hb, heq⟩ := Json.exists_beq_of_mem (BEq.symm (α := Json) h) ha
        obtain ⟨c, -, hc, -⟩ := sameChannel_of_beq (BEq.symm heq) (hnews b hb)
        rw [hc]
        rfl
      refine betweenItems_eq_nil (hdistinct olds (.self _) holds) fun b hb => ?_
      obtain ⟨a, ha, heq, hnone⟩ := hmatched b hb
      exact ⟨a, ha, sameChannel_of_beq heq (hnews b hb), hnone⟩
    · exact whole_of_beq h
  | .obj olds, .obj news, h, hwf, hdistinct => by
    obtain ⟨hascending, hvalues⟩ := Json.WellFormed.obj.1 hwf
    rw [between_obj]
    refine betweenFields_eq_nil fun f hf => ?_
    obtain ⟨g, hg, hname, hnone⟩ :=
      between_beqFields h hvalues (fun g hg => hdistinct.field hg) f hf
    exact ⟨g.2, hname ▸ Keyed.lookup_of_mem hascending hg, hnone⟩

private theorem between_beqItems : ∀ {olds news : List Json}, Json.beqItems olds news = true →
    (∀ a ∈ olds, a.WellFormed) → (∀ a ∈ olds, Distinct a) →
      ∀ b ∈ news, ∃ a ∈ olds, (a == b) = true ∧ between a b = []
  | [], [], _, _, _ => fun b hb => by cases hb
  | a :: olds, b :: news, h, hwf, hdistinct => by
    simp only [Json.beqItems, Bool.and_eq_true] at h
    obtain ⟨ha, hrest⟩ := h
    obtain ⟨hwfa, hwf⟩ := List.forall_mem_cons.1 hwf
    obtain ⟨hdistincta, hdistinct⟩ := List.forall_mem_cons.1 hdistinct
    refine List.forall_mem_cons.2 ⟨⟨a, List.mem_cons_self .., ha,
      between_beq ha hwfa hdistincta⟩, fun b hb => ?_⟩
    obtain ⟨a', ha', hsame⟩ := between_beqItems hrest hwf hdistinct b hb
    exact ⟨a', List.mem_cons_of_mem _ ha', hsame⟩

private theorem between_beqFields : ∀ {olds news : List (String × Json)},
    Json.beqFields olds news = true → (∀ f ∈ olds, f.2.WellFormed) → (∀ f ∈ olds, Distinct f.2) →
      ∀ f ∈ news, ∃ g ∈ olds, g.1 = f.1 ∧ between g.2 f.2 = []
  | [], [], _, _, _ => fun f hf => by cases hf
  | (name, old) :: olds, (name', new) :: news, h, hwf, hdistinct => by
    simp only [Json.beqFields, Bool.and_eq_true, beq_iff_eq] at h
    obtain ⟨⟨hname, hvalue⟩, hrest⟩ := h
    obtain ⟨hwfg, hwf⟩ := List.forall_mem_cons.1 hwf
    obtain ⟨hdistinctg, hdistinct⟩ := List.forall_mem_cons.1 hdistinct
    refine List.forall_mem_cons.2 ⟨⟨(name, old), List.mem_cons_self .., hname,
      between_beq hvalue hwfg hdistinctg⟩, fun f hf => ?_⟩
    obtain ⟨g, hg, hsame⟩ := between_beqFields hrest hwf hdistinct f hf
    exact ⟨g, List.mem_cons_of_mem _ hg, hsame⟩

end

theorem between_of_beq {old new : Json} (h : (old == new) = true) (hold : old.WellFormed)
    (hdistinct : Distinct old) : between old new = [] :=
  between_beq h hold hdistinct

/-! ### Equivalent values -/

theorem between_of_equivalent {old new : Json} (h : Equivalent old new) (hold : old.WellFormed)
    (hnew : new.WellFormed) (hdistinct : Distinct old) : between old new = [] := by
  induction h with
  | equal h => exact between_of_beq h hold hdistinct
  | @object olds news names fields ih =>
    obtain ⟨holds, hvalues⟩ := Json.WellFormed.obj.1 hold
    obtain ⟨hnews, hvalues'⟩ := Json.WellFormed.obj.1 hnew
    rw [between_obj]
    refine betweenFields_eq_nil fun f hf => ?_
    have hfound : news.lookup f.1 = some f.2 := Keyed.lookup_of_mem hnews hf
    have hsome : (olds.lookup f.1).isSome = true := by
      rw [names, hfound]
      rfl
    obtain ⟨old, hlookup⟩ := Option.isSome_iff_exists.1 hsome
    have hmem := Keyed.mem_of_lookup hlookup
    exact ⟨old, hlookup, ih f.1 old f.2 hlookup hfound (hvalues _ hmem) (hvalues' f hf)
      (hdistinct.field hmem)⟩
  | @channels pairs news paired channel items ih =>
    have hnews : ∀ b ∈ news, ∃ p ∈ pairs, p.2 = b := fun b hb =>
      List.mem_map.1 (paired.mem_iff.2 hb)
    have hchannels : (news.all fun item => (channelOf item).isSome) = true := by
      refine List.all_eq_true.2 fun b hb => ?_
      obtain ⟨p, hp, rfl⟩ := hnews b hb
      obtain ⟨-, c, -, hc, -⟩ := channel p hp
      rw [hc]
      rfl
    have hpairwise : (pairs.map (·.1)).Pairwise fun a b => ¬SameChannel a b := by
      refine hdistinct _ (.self _) fun a ha => ?_
      obtain ⟨p, hp, rfl⟩ := List.mem_map.1 ha
      obtain ⟨c, -, hc, -⟩ := channel p hp
      rw [hc]
      rfl
    rw [between_arr, if_pos hchannels]
    refine betweenItems_eq_nil hpairwise fun b hb => ?_
    obtain ⟨p, hp, rfl⟩ := hnews b hb
    have hold' : p.1 ∈ pairs.map (·.1) := List.mem_map_of_mem hp
    exact ⟨p.1, hold', channel p hp, ih p hp (Json.WellFormed.arr.1 hold _ hold')
      (Json.WellFormed.arr.1 hnew _ hb) (hdistinct.item hold')⟩

/-- Values that are the same up to the order of their channels have no
    differences, from wherever these would be told; nor has a value any from
    itself. Only the old value is asked not to name a channel twice in a list:
    an equivalent one then does not do so either. -/
theorem between_equivalent {old new : Json} (hold : old.WellFormed) (hnew : new.WellFormed)
    (hdistinct : Distinct old) (h : Equivalent old new) (place : String) :
    (between old new).map (told place) = [] ∧ (between old old).map (told place) = [] := by
  have hself : Equivalent old old := .equal hold.proper
  rw [between_of_equivalent h hold hnew hdistinct, between_of_equivalent hself hold hold hdistinct]
  exact ⟨rfl, rfl⟩

-- A list that names a channel twice is matched by its first item alone.
example :
    let twice : Json := .arr [.obj [("channel", .int 0), ("onoff", .int 0)],
      .obj [("channel", .int 0), ("onoff", .int 1)]]
    (between twice twice).map (told "") = [("[0].onoff", .int 0, .int 1)] := by
  cbv

/-- Outlets that are on, in an order. -/
def outlets (order : List Int) : Json :=
  .obj [("togglex", .arr (order.map fun c => .obj [("channel", .int c), ("onoff", .int 1)]))]

/-- Two outlets may be told of in either order. -/
theorem between_equivalent_outlets :
    (outlets [0, 1] == outlets [1, 0]) = false ∧ Equivalent (outlets [0, 1]) (outlets [1, 0]) ∧
      (between (outlets [0, 1]) (outlets [1, 0])).map (told "") = [] := by
  have hwf : ∀ a b, (outlets [a, b]).WellFormed := by
    intro a b
    have horder : compare "channel" "onoff" = .lt := by decide
    simp [outlets, Json.WellFormed, Json.WellFormedItems, Json.WellFormedFields, Keyed.Ascending,
      horder]
  have hchannel : ∀ a b : Int, SameChannel (.obj [("channel", .int a), ("onoff", .int 1)])
      (.obj [("channel", .int b), ("onoff", .int 1)]) ↔ (Json.int a == Json.int b) = true := by
    intro a b
    simp [SameChannel, channelOf]
  have hdistinct : Distinct (outlets [0, 1]) := by
    intro items hin _
    cases hin with
    | field mem hin =>
      obtain rfl := List.mem_singleton.1 mem
      cases hin with
      | self =>
        refine List.pairwise_pair.2 fun hsame => ?_
        cases (hchannel 0 1).1 hsame
      | item mem hin =>
        rcases List.mem_pair.1 mem with rfl | rfl <;> cases hin with
        | field mem hin => rcases List.mem_pair.1 mem with rfl | rfl <;> cases hin
  have hequivalent : Equivalent (outlets [0, 1]) (outlets [1, 0]) := by
    refine .object (fun name => ?_) fun name old new hold hnew => ?_
    · simp only [Keyed.lookup_cons]
      split <;> rfl
    · have hmem := List.mem_singleton.1 (Keyed.mem_of_lookup hold)
      obtain ⟨rfl, rfl⟩ := Prod.mk.inj hmem
      cases hnew
      let outlet (c : Int) : Json := .obj [("channel", .int c), ("onoff", .int 1)]
      have hsame : ∀ p ∈ [(outlet 0, outlet 0), (outlet 1, outlet 1)],
          SameChannel p.1 p.2 ∧ Equivalent p.1 p.2 := by
        intro p hp
        rcases List.mem_pair.1 hp with rfl | rfl <;>
          exact ⟨(hchannel _ _).2 rfl, .equal rfl⟩
      have hswap : ([(outlet 0, outlet 0), (outlet 1, outlet 1)].map (·.2)).Perm
          [outlet 1, outlet 0] := List.Perm.swap ..
      exact .channels hswap (fun p hp => (hsame p hp).1) fun p hp => (hsame p hp).2
  exact ⟨rfl, hequivalent, (between_equivalent (hwf 0 1) (hwf 1 0) hdistinct hequivalent "").1⟩

end Difference

end Appliance
