-- SUMMARY: Work that leaves the device as it is, and of which the listeners hear nothing.

import Appliance.Proofs.Remeasure
import Appliance.Proofs.Resend

namespace Appliance

namespace Device

open Entity (TookOps)
open Reading (Apt humidityId)

/-! ## Actions at rest -/

/-- The action leaves the device as it is and hands no entity on. -/
structure Rests {α : Type} (f : Action α) (d : Device) : Prop where
  device : (f d).device = d
  quiet : ∀ e, .flushed e ∉ (f d).events

/-- The operation does nothing to what has the id. -/
def Idle (d : Device) (id : EntityId) (op : EntityOp) : Prop :=
  ∀ e, d.entity? id = some e → (op.run e).entity = e

namespace Rests

variable {α β : Type} {d : Device}

theorem pure (a : α) (d : Device) : Rests (pure a : Action α) d :=
  ⟨rfl, fun _ h => by cases h⟩

theorem warn (w : Warning) (d : Device) : Rests (Action.warn w) d := by
  refine ⟨rfl, fun e h => ?_⟩
  cases List.mem_singleton.1 h

theorem bind {f : Action α} {g : α → Action β} (hf : Rests f d)
    (hg : Rests (g (f d).answer) d) : Rests (f >>= g) d := by
  have hdevice : ((f >>= g) d).device = (g (f d).answer d).device := by
    rw [Action.bind_apply, hf.device]
  refine ⟨hdevice.trans hg.device, fun e h => ?_⟩
  rw [Action.bind_apply, hf.device] at h
  exact (List.mem_append.1 h).elim (hf.quiet e) (hg.quiet e)

/-- Reading the device is no work. -/
theorem read {g : Device → Action β} (h : Rests (g d) d) : Rests (Action.device >>= g) d :=
  ⟨h.device, h.quiet⟩

theorem modify {f : Device → Device} (h : f d = d) : Rests (.modify f) d :=
  ⟨h, fun _ h => by cases h⟩

theorem forEach {xs : List α} {f : α → Action Unit} (h : ∀ x ∈ xs, Rests (f x) d) :
    Rests (Action.forEach xs f) d := by
  induction xs with
  | nil => exact pure () d
  | cons x xs ih =>
    exact bind (h x (List.mem_cons_self ..)) (ih fun y hy => h y (List.mem_cons_of_mem _ hy))

theorem update {f : Entity → Entity.Change α} (op : EntityOp) {id : EntityId}
    (hop : ∀ e, op.run e = (f e).map fun _ => ()) (hs : d.Sound) (hproper : op.Proper)
    (hidle : d.Idle id op) : Rests (Device.update id f) d := by
  have hentity : ∀ e, (f e).entity = (op.run e).entity := by
    intro e
    rw [hop]
    rfl
  refine ⟨(keeps_update f id d).eq fun id' => ?_, fun e h => ?_⟩
  · rw [entity?_update]
    split
    · rename_i hid
      subst hid
      cases he : d.entity? id' with
      | none => rfl
      | some e => rw [Option.map_some, hentity, hidle e he]
    · rfl
  · unfold Device.update at h
    split at h
    · cases h
    · rename_i e₀ he₀
      have hflushes : (f e₀).flushes = (op.run e₀).flushes := by
        rw [hop]
        rfl
      rcases EntityOp.run_flushes op (hs id e₀ he₀) with ⟨hnone, -⟩ | ⟨-, -, hne⟩
      · simp only [hflushes, hnone] at h
        cases h
      · exact hne hproper (congrArg Entity.status (hidle e₀ he₀)).symm

theorem change {f : Entity → Entity.Change α} (op : EntityOp) {id : EntityId}
    (hop : ∀ e, op.run e = (f e).map fun _ => ()) (hs : d.Sound) (hproper : op.Proper)
    (hidle : d.Idle id op) : Rests (Device.change id f) d :=
  bind (update op hop hs hproper hidle) (pure _ d)

end Rests

/-! ## Rows of steps at rest

Where each entity takes one operation at most, and all is as before in the
end, all was as before all the time. -/

/-- Two entities that took the same are in the same state. -/
theorem status_of_tookOps {ops : List EntityOp} {e₀ e e' : Entity} (h : TookOps ops e₀ e)
    (h' : TookOps ops e₀ e') (hs : e.Sound) (hs' : e'.Sound) : e'.status = e.status := by
  refine Status.ext_datum hs'.consistent hs.consistent (h'.clear.trans h.clear.symm) ?_ fun p => ?_
  · rw [h'.available, h.available]
  · rw [h'.datum, h.datum]

theorem idle_of_tookOps {e : Entity} {op : EntityOp} (h : TookOps [op] e e) (hs : e.Sound)
    (hop : op ≠ .unavailable) : (op.run e).entity = e := by
  have hstatus := status_of_tookOps h (TookOps.run hs hop) hs (EntityOp.sound_run op hs)
  rw [EntityOp.run_frame op hs, hstatus]

section Rows

variable {α : Type} {run : α → Action Unit} {ops : α → Device → EntityId → List EntityOp}
  {Ready : α → Device → Prop} {xs : List α} {d : Device}

/-- The first of a row of steps that does nothing in the end does nothing. -/
theorem device_of_forEach {x : α} (h : Repeatable run ops Ready (x :: xs)) (hd : d.Fit)
    (hready : Ready x d) (hsame : (Action.forEach (x :: xs) run d).device = d)
    (hone : ∀ id, (history run ops (x :: xs) d id).length ≤ 1) : (run x d).device = d := by
  have hx := List.mem_cons_self (a := x) (l := xs)
  have hfit := h.fit x hx d hd
  have hleaves := h.leaves x hx d hd hready
  refine hleaves.toKeeps.eq fun id => ?_
  have hnamespaces := hleaves.namespaces id
  cases he : d.entity? id with
  | none =>
    rw [he, Option.map_none, Option.map_eq_none_iff] at hnamespaces
    exact hnamespaces
  | some e =>
    obtain ⟨e', he', htook⟩ := (h.tookOpsAt x hx d hd id).present e he
    obtain ⟨e'', he'', hrest⟩ := (h.tail.tookOpsAt_forEach hfit id).present e' he'
    have hfinal : (Action.forEach xs run (run x d).device).device.entity? id = some e := by
      rw [← Action.device_forEach_cons, hsame, he]
    rw [hfinal] at he''
    obtain rfl := Option.some.inj he''
    have hs := hd.sound id e he
    have hs' := hfit.sound id e' he'
    have hlength := hone id
    rw [history, List.length_append] at hlength
    have hstatus : e'.status = e.status := by
      rcases Nat.eq_zero_or_pos (ops x d id).length with hzero | hpos
      · rw [List.eq_nil_of_length_eq_zero hzero] at htook
        exact status_of_tookOps (TookOps.nil e e.namespaces) htook hs hs'
      · have hzero : (history run ops xs (run x d).device id).length = 0 := by omega
        rw [List.eq_nil_of_length_eq_zero hzero] at hrest
        exact status_of_tookOps hrest (TookOps.nil e' e'.namespaces) hs hs'
    rw [he, he', Option.map_some, Option.map_some] at hnamespaces
    rw [he', htook.frame, hstatus, Option.some.inj hnamespaces]

/-- A row of steps that does nothing in the end, and to no entity more than one
    thing, rests, if its steps do where they do nothing. -/
theorem Repeatable.rests (h : Repeatable run ops Ready xs) (hd : d.Fit)
    (hready : ∀ x ∈ xs, Ready x d) (hsame : (Action.forEach xs run d).device = d)
    (hone : ∀ id, (history run ops xs d id).length ≤ 1)
    (hreports : ∀ x d id, ∀ op ∈ ops x d id, op ≠ .unavailable)
    (hrests : ∀ x ∈ xs, (∀ id, ∀ op ∈ ops x d id, d.Idle id op) → Rests (run x) d) :
    Rests (Action.forEach xs run) d := by
  induction xs with
  | nil => exact Rests.pure () d
  | cons x xs ih =>
    have hx := List.mem_cons_self (a := x) (l := xs)
    have hdevice := device_of_forEach h hd (hready x hx) hsame hone
    have hfirst : Rests (run x) d := by
      refine hrests x hx fun id op hop e he => ?_
      obtain ⟨e', he', htook⟩ := (h.tookOpsAt x hx d hd id).present e he
      rw [hdevice, he] at he'
      obtain rfl := Option.some.inj he'
      have hlength := hone id
      rw [history, List.length_append] at hlength
      have honly : ops x d id = [op] := by
        have hpos := List.length_pos_of_mem hop
        obtain ⟨op', hop'⟩ := List.length_eq_one_iff.1 (show (ops x d id).length = 1 by omega)
        rw [hop'] at hop ⊢
        rw [List.mem_singleton.1 hop]
      rw [honly] at htook
      exact idle_of_tookOps htook (hd.sound id e he) (hreports x d id op hop)
    refine Rests.bind hfirst (ih h.tail (fun y hy => hready y (List.mem_cons_of_mem _ hy)) ?_ ?_
      fun y hy => hrests y (List.mem_cons_of_mem _ hy))
    · rwa [Action.device_forEach_cons, hdevice] at hsame
    · intro id
      have hlength := hone id
      rw [history, List.length_append, hdevice] at hlength
      omega

/-- Where at most one step of a row does anything to an entity, and that one
    thing, the row does one thing to it at most. -/
theorem Repeatable.length_history (h : Repeatable run ops Ready xs) (hd : d.Fit) {id : EntityId}
    {P : Device → Prop} (hstep : ∀ x ∈ xs, ∀ d, P d → P (run x d).device)
    (hone : ∀ x ∈ xs, ∀ d, d.Fit → P d → (ops x d id).length ≤ 1) {H : α → Prop}
    (hhits : ∀ x ∈ xs, ∀ d, d.Fit → P d → ops x d id ≠ [] → H x)
    (hapart : xs.Pairwise fun x y => H x → ¬H y) (hP : P d) :
    (history run ops xs d id).length ≤ 1 ∧ (history run ops xs d id ≠ [] → ∃ x ∈ xs, H x) := by
  induction xs generalizing d with
  | nil => exact ⟨Nat.zero_le 1, fun hne => absurd rfl hne⟩
  | cons x xs ih =>
    have hx := List.mem_cons_self (a := x) (l := xs)
    obtain ⟨hnot, hapart⟩ := List.pairwise_cons.1 hapart
    obtain ⟨hrest, hsome⟩ := ih h.tail (h.fit x hx d hd)
      (fun y hy => hstep y (List.mem_cons_of_mem _ hy))
      (fun y hy => hone y (List.mem_cons_of_mem _ hy))
      (fun y hy => hhits y (List.mem_cons_of_mem _ hy)) hapart (hstep x hx d hP)
    rw [history]
    by_cases hnil : ops x d id = []
    · rw [hnil, List.nil_append]
      refine ⟨hrest, fun hne => ?_⟩
      obtain ⟨y, hy, hhit⟩ := hsome hne
      exact ⟨y, List.mem_cons_of_mem _ hy, hhit⟩
    · have hhit := hhits x hx d hd hP hnil
      have hnone : history run ops xs (run x d).device id = [] := by
        by_contra hne
        obtain ⟨y, hy, hhit'⟩ := hsome hne
        exact hnot y hy hhit hhit'
      rw [hnone, List.append_nil]
      exact ⟨hone x hx d hd hP, fun _ => ⟨x, hx, hhit⟩⟩

end Rows

/-! ## Items at rest -/

section Items

variable {d : Device} {x : Namespace × Item}

theorem itemOps_ne_unavailable (x : Namespace × Item) (d : Device) (id : EntityId) :
    ∀ op ∈ itemOps x d id, op ≠ .unavailable := by
  intro op hop
  rcases List.mem_append.1 hop with hplain | hfollow
  · unfold plainOps at hplain
    split at hplain
    · rw [List.mem_singleton.1 hplain]
      exact EntityOp.noConfusion
    · cases hplain
  · rcases mem_followOps hfollow with ⟨_, _, -, rfl⟩ | ⟨_, _, -, rfl⟩ <;> exact EntityOp.noConfusion

theorem rests_parseEntity (hs : d.Sound) {ns : Namespace} {body : Json} (hbody : body.WellFormed)
    {id : EntityId} (hidle : d.Idle id (.item ns body)) : Rests (parseEntity ns body id) d := by
  refine Rests.bind (Rests.update (.item ns body) (fun _ => rfl) hs (EntityOp.proper_item ns hbody)
    hidle) ?_
  split
  · exact Rests.warn _ d
  · exact Rests.pure () d
  · exact Rests.pure () d

theorem rests_sync (hs : d.Sound) {c : Channel}
    (hidle : ∀ id, ∀ op ∈ d.following c id, d.Idle id op) : Rests (syncClimateSensors c) d := by
  refine Rests.read ?_
  cases hl : d.leader? c with
  | none => exact Rests.pure () d
  | some k =>
    have hpower : ∀ on, k.heating? = some on → d.Idle (.keyed c outputPowerKey) (.power on) := by
      intro on hon e he
      refine hidle _ _ ?_ e he
      rw [following_power (by rw [he]; rfl), hl, Option.bind_some, hon]
      exact List.mem_singleton_self _
    have hmode : d.Idle (.keyed c modeStateKey) (showing k) := by
      intro e he
      refine hidle _ _ ?_ e he
      rw [following_mode (by rw [he]; rfl), hl]
      exact List.mem_singleton_self _
    refine Rests.bind ?_ (Rests.change (showing k) (fun _ => rfl) hs ?_ hmode)
    · unfold followHeating
      cases hon : k.heating? with
      | none => exact Rests.pure () d
      | some on =>
        exact Rests.change (.power on) (fun _ => rfl) hs (EntityOp.proper_power on) (hpower on hon)
    · exact EntityOp.proper_stateWith _ (proper_leaderAttributes k)

theorem mem_plainOps {c : Channel} (hc : x.2.channel = some c) {id : EntityId}
    (hid : id ∈ d.addressees x.1 c) : .item x.1 x.2.body ∈ d.plainOps id x := by
  have hfor : d.isFor x.1 id x.2 = true := by
    rw [isFor, hc, Option.any_some, List.contains_iff_mem]
    exact hid
  rw [plainOps, if_pos hfor]
  exact List.mem_singleton_self _

/-- Where an item leaves those it is for alone, the derived sensors follow
    what they followed. -/
theorem rests_syncAfter (hs : d.Sound) {c : Channel} (hc : x.2.channel = some c)
    (hne : d.addressees x.1 c ≠ []) (hdeliver : d.deliver x.1 c x.2.body = d)
    (hidle : ∀ id, ∀ op ∈ d.followOps id x, d.Idle id op) : Rests (syncAfter x.1 c) d := by
  unfold syncAfter
  split
  · rename_i hns
    refine rests_sync hs fun id op hop => hidle id op ?_
    unfold followOps
    rw [hc]
    simp only
    rw [if_pos ⟨hns, hne⟩, hdeliver]
    exact hop
  · exact Rests.pure () d

theorem rests_pass (hd : d.Fit) (hready : Receptive x d) (hbody : x.2.body.WellFormed)
    (hidle : ∀ id, ∀ op ∈ itemOps x d id, d.Idle id op) : Rests (pass x) d := by
  unfold pass dispatchItem
  cases hc : x.2.channel with
  | none => exact Rests.warn _ d
  | some c =>
    refine Rests.read ?_
    have hparse : ∀ id ∈ d.addressees x.1 c, Rests (parseEntity x.1 x.2.body id) d := by
      intro id hid
      exact rests_parseEntity hd.sound hbody
        (hidle id _ (List.mem_append_left _ (mem_plainOps hc hid)))
    rcases lookup_of_addressees d x.1 c with ⟨hne, haddressees, hlookup⟩ | ⟨hnil, hlookup⟩
    · rw [hlookup]
      rw [← haddressees] at hne
      have hall : Rests (.forEach (d.dispatcher.targets x.1 c) (parseEntity x.1 x.2.body)) d :=
        Rests.forEach (haddressees ▸ hparse)
      have hdeliver : d.deliver x.1 c x.2.body = d := by
        unfold deliver
        rw [hlookup]
        exact hall.device
      exact Rests.bind hall (rests_syncAfter hd.sound hc hne hdeliver fun id op hop =>
        hidle id op (List.mem_append_right _ hop))
    · rw [hlookup]
      cases hp : x.1.policy with
      | ignore => exact Rests.pure () d
      | logOnly => exact Rests.warn _ d
      | createDefault kind =>
        have hid : defaultId kind c ∈ d.addressees x.1 c := by
          rw [addressees_eq, hlookup, hp]
          exact List.mem_singleton_self _
        have hmade : d.addAndRegister (.ofKind kind (defaultId kind c) x.1) x.1 = d :=
          addAndRegister_of_ready hd hnil (hready c hc _ hid)
        exact Rests.bind (Rests.modify hmade) (hparse _ hid)

/-! ### One item for each -/

/-- The derived sensors get no items. -/
def DerivedApart (d : Device) : Prop :=
  ∀ c, ∀ id ∈ derivedIds c, ∀ ns c', id ∉ d.addressees ns c'

theorem DerivedApart.pass (h : d.DerivedApart) (x : Namespace × Item) :
    (pass x d).device.DerivedApart := by
  intro c id hid ns c'
  rw [Device.pass, addressees_dispatchItem]
  exact h c id hid ns c'

theorem length_opAt (d : Device) (i : EntityId) (op : EntityOp) (id : EntityId) :
    (d.opAt i op id).length ≤ 1 := by
  unfold opAt
  split
  · exact Nat.le_refl 1
  · exact Nat.zero_le 1

theorem length_following (d : Device) (c : Channel) (id : EntityId) :
    (d.following c id).length ≤ 1 := by
  have htoList : ∀ o : Option EntityOp, o.toList.length ≤ 1 := by
    intro o
    cases o <;> simp
  by_cases hid : id ∈ derivedIds c
  · cases he : d.entity? id with
    | none =>
      rw [following_of_none he]
      exact Nat.zero_le 1
    | some e =>
      have hthere : (d.entity? id).isSome = true := by rw [he]; rfl
      simp only [derivedIds, List.mem_cons, List.not_mem_nil, or_false] at hid
      rcases hid with rfl | rfl
      · rw [following_power hthere]
        exact htoList _
      · rw [following_mode hthere]
        exact htoList _
  · rw [following_of_not_mem hid]
    exact Nat.zero_le 1

theorem plainOps_of_not_addressed {id : EntityId} (h : ∀ ns c, id ∉ d.addressees ns c)
    (x : Namespace × Item) : d.plainOps id x = [] := by
  refine if_neg fun hfor => ?_
  obtain ⟨c, -, hmem⟩ := Option.any_eq_true .. |>.1 hfor
  exact h x.1 c (List.contains_iff_mem.1 hmem)

theorem DerivedApart.plainOps (h : d.DerivedApart) {c : Channel} {id : EntityId}
    (hid : id ∈ derivedIds c) (x : Namespace × Item) : d.plainOps id x = [] :=
  plainOps_of_not_addressed (h c id hid) x

theorem length_itemOps (h : d.DerivedApart) (x : Namespace × Item) (id : EntityId) :
    (itemOps x d id).length ≤ 1 := by
  rw [itemOps, List.length_append]
  by_cases hid : ∃ c, id ∈ derivedIds c
  · obtain ⟨c, hid⟩ := hid
    have hfollow : (d.followOps id x).length ≤ 1 := by
      unfold followOps
      split
      · exact Nat.zero_le 1
      · split
        · exact length_following _ _ id
        · exact Nat.zero_le 1
    rw [h.plainOps hid, List.length_nil, Nat.zero_add]
    exact hfollow
  · rw [followOps_of_not_mem (fun c hc => hid ⟨c, hc⟩) x, List.length_nil, Nat.add_zero]
    exact length_plainOps d id x

/-- Items work on their own channel only. -/
theorem channel_of_itemOps (hd : d.Fit) {id : EntityId} (h : itemOps x d id ≠ []) :
    ∃ c, x.2.channel = some c ∧ id.channel? = some c := by
  cases hc : x.2.channel with
  | none =>
    refine absurd ?_ h
    rw [itemOps, followOps, plainOps, isFor, hc]
    rfl
  | some c =>
    refine ⟨c, rfl, ?_⟩
    by_contra hne
    refine h ?_
    have hplain : d.plainOps id x = [] := by
      refine if_neg fun hfor => ?_
      rw [isFor, hc, Option.any_some, List.contains_iff_mem] at hfor
      exact hne (mem_addressees hd.wired hfor).1
    have hfollow : d.followOps id x = [] := by
      unfold followOps
      rw [hc]
      simp only
      split
      · exact following_of_not_mem fun hmem => hne (channel?_of_mem_derivedIds hmem)
      · rfl
    rw [itemOps, hplain, hfollow]
    rfl

theorem length_history_pass {xs : List (Namespace × Item)} (hd : d.Fit) (hapart : d.DerivedApart)
    (hxs : (xs.filterMap (·.2.channel)).Nodup) (id : EntityId) :
    (history pass itemOps xs d id).length ≤ 1 := by
  refine ((repeatable_pass xs).length_history hd (P := DerivedApart)
    (H := fun x => ∃ c, x.2.channel = some c ∧ id.channel? = some c)
    (fun x _ d hd => hd.pass x) (fun x _ d _ hd => length_itemOps hd x id)
    (fun x _ d hd _ hne => channel_of_itemOps hd hne) ?_ hapart).1
  refine (List.pairwise_filterMap.1 hxs).imp fun {x y} hne ⟨c, hc, hid⟩ ⟨c', hc', hid'⟩ => ?_
  exact hne c hc c' hc' (Option.some.inj (hid.symm.trans hid'))

end Items

/-! ## Readings at rest -/

section Readings

variable {d : Device} {r : Reading}

theorem partOps_ne_unavailable (part : Reading.Part) (d : Device) (id : EntityId) :
    ∀ op ∈ partOps part d id, op ≠ .unavailable := by
  intro op hop
  rcases mem_partOps hop with ⟨r, rfl⟩ | ⟨x, rfl⟩
  · exact measureOp_ne_unavailable r
  · exact EntityOp.noConfusion

/-- What was measured, and is the same when it is measured again, is a number. -/
theorem native_ne_nan_of_idle (hd : d.Fit) (hr : SaneReading True r)
    (hidle : d.Idle r.id (measureOp r)) {e : Entity} (he : d.entity? r.id = some e) {x : Float}
    (hx : e.native? = some x) : x ≠ Float.nan := by
  have hs := hd.sound r.id e he
  have hcarries : e.kind.carries .device = true := by
    obtain ⟨m, hm, -⟩ := Option.bind_eq_some_iff.1 hx
    rw [← hs.carries, Status.datum?, hm]
    rfl
  have htook := TookOps.run hs (measureOp_ne_unavailable r)
  rw [hidle e he] at htook
  obtain ⟨y, hy, hne⟩ :=
    native_of_tookOps (hr.value trivial) hs hs (hd.scaled r.id e he) hcarries htook
  rwa [Option.some.inj (hx.symm.trans hy)]

theorem rests_applyReading (hd : d.Fit) (hr : SaneReading True r)
    (hthere : ∃ e, d.entity? r.id = some e)
    (hidle : ∀ id, ∀ op ∈ partOps (.ok r) d id, d.Idle id op) : Rests (applyReading r) d := by
  obtain ⟨e, he⟩ := hthere
  have hsensor : d.ensureSensor r.id r.scale = d := by
    rw [← insert_sensor]
    exact insert_of_taken he
  have hmeasure : d.Idle r.id (measureOp r) := by
    refine hidle r.id _ (List.mem_append_left _ ?_)
    rw [if_pos rfl]
    exact List.mem_singleton_self _
  have hchange : Rests (change r.id (measure r)) d :=
    Rests.change (measureOp r) (run_measureOp r) hd.sound (proper_measureOp hr) hmeasure
  have hmeasured : d.measured r = d := by
    rw [measured, hsensor]
    exact hchange.device
  refine Rests.bind (Rests.modify hsensor) (Rests.bind hchange ?_)
  cases hc : r.humidityOf with
  | none => exact Rests.pure () d
  | some c =>
    refine Rests.read ?_
    rw [he, Option.bind_some]
    cases hx : e.native? with
    | none => exact Rests.pure () d
    | some x =>
      have hproper := native_ne_nan_of_idle hd hr hmeasure he hx
      refine Rests.change (.humidity x) (fun _ => rfl) hd.sound
        (EntityOp.proper_humidity hproper) ?_
      intro k hk
      refine hidle (.channel c) _ (List.mem_append_right _ ?_) k hk
      have hat : d.opAt (.channel c) (.humidity x) (.channel c) = [.humidity x] :=
        opAt_self (by rw [hk]; rfl) _
      rw [hmeasured, sharedOps, passedOn?, hc, Option.bind_some, he, Option.bind_some, hx,
        Option.map_some]
      simp only
      rw [hat]
      exact List.mem_singleton_self _

theorem rests_applyPart (ns : Namespace) (hd : d.Fit) {part : Reading.Part}
    (hsane : ∀ r, part = .ok r → SaneReading True r) (hready : Measured part d)
    (hidle : ∀ id, ∀ op ∈ partOps part d id, d.Idle id op) : Rests (applyPart ns part) d := by
  cases part with
  | error fault => exact Rests.warn _ d
  | ok r => exact rests_applyReading hd (hsane r rfl) (hready r rfl) hidle

/-- The sensor that decides what happens to what has an id. -/
def sensorOf : EntityId → EntityId
  | .channel c => humidityId c
  | id => id

theorem length_partOps (d : Device) (hkeyed : ∀ c, r.id ≠ .channel c) (id : EntityId) :
    (partOps (.ok r) d id).length ≤ 1 := by
  have hshared : ((d.measured r).sharedOps r id).length ≤ 1 := by
    unfold sharedOps
    split
    · exact Nat.zero_le 1
    · exact length_opAt _ _ _ id
  by_cases hid : id = r.id
  · have hsensor : ∀ c, id ≠ .channel c := fun c hc => hkeyed c (hid ▸ hc)
    rw [partOps, if_pos hid, sharedOps_of_ne hsensor]
    exact Nat.le_refl 1
  · rw [partOps, if_neg hid, List.nil_append]
    exact hshared

theorem sensorOf_of_partOps {parts : List Reading.Part} (hapt : Apt parts) (hr : .ok r ∈ parts)
    {id : EntityId} (h : partOps (.ok r) d id ≠ []) : r.id = sensorOf id := by
  by_contra hne
  refine h ?_
  cases id with
  | channel c =>
    rw [partOps_channel (hapt.keyed r hr)]
    exact sharedOps_of_not_shared _ fun hc => hne (hapt.shared r hr c hc).1
  | key k =>
    rw [partOps_sensor fun c => EntityId.noConfusion]
    exact if_neg fun hid => hne hid.symm
  | keyed c k =>
    rw [partOps_sensor fun c => EntityId.noConfusion]
    exact if_neg fun hid => hne hid.symm

theorem length_history_part (ns : Namespace) {parts : List Reading.Part} (hd : d.Fit)
    (hapt : Apt parts) (hdistinct : Reading.Distinct parts) (id : EntityId) :
    (history (applyPart ns) partOps parts d id).length ≤ 1 := by
  have hrepeat := repeatable_applyPart ns hapt
  refine (hrepeat.length_history hd (P := fun _ => True)
    (H := fun part => ∃ r, part = .ok r ∧ r.id = sensorOf id) (fun _ _ _ _ => trivial)
    (fun part hpart d _ _ => ?_) (fun part hpart d _ _ hne => ?_) ?_ trivial).1
  · cases part with
    | error fault => exact Nat.zero_le 1
    | ok r => exact length_partOps d (hapt.keyed r hpart) id
  · cases part with
    | error fault => exact absurd rfl hne
    | ok r => exact ⟨r, rfl, sensorOf_of_partOps hapt hpart hne⟩
  · refine hdistinct.imp fun {p q} hne ⟨r, hr, hid⟩ ⟨s, hs, hid'⟩ => ?_
    exact hne r hr s hs (hid.trans hid'.symm)

end Readings

end Device

end Appliance
