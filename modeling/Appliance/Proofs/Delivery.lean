-- SUMMARY: What each item that is passed on does to each entity, and that it adds nothing when it comes again.

import Appliance.Proofs.Repeat

namespace Appliance

namespace Device

open Entity (TookOps)

/-! ## Single operations -/

/-- An operation on what has an id, as it is seen from an id. -/
def opAt (d : Device) (i : EntityId) (op : EntityOp) (id : EntityId) : List EntityOp :=
  if id = i ∧ (d.entity? i).isSome then [op] else []

theorem opAt_of_ne {d : Device} {i id : EntityId} (h : id ≠ i) (op : EntityOp) : d.opAt i op id =
    [] :=
  if_neg fun hid => h hid.1

theorem opAt_self {d : Device} {i : EntityId} (h : (d.entity? i).isSome = true) (op : EntityOp) :
    d.opAt i op i = [op] := if_pos ⟨rfl, h⟩

theorem mem_opAt {d : Device} {i id : EntityId} {op op' : EntityOp} (h : op ∈ d.opAt i op' id) :
    id = i ∧ op = op' := by
  unfold opAt at h
  split at h
  · rename_i hid
    exact ⟨hid.1, List.mem_singleton.1 h⟩
  · cases h

section Update

variable {α : Type} {f : Entity → Entity.Change α} (op : EntityOp) {d : Device}
  (hop : ∀ e, op.run e = (f e).map fun _ => ()) (hs : d.Sound)
include hop hs

theorem tookOpsAt_update (hreport : op ≠ .unavailable) (i id : EntityId) :
    TookOpsAt d (update i f d).device id (d.opAt i op id) := by
  unfold opAt
  by_cases hid : id = i
  · subst hid
    cases he : d.entity? id with
    | none =>
      rw [if_neg fun h => Bool.noConfusion h.2]
      refine .of_eq ?_
      rw [entity?_update, if_pos rfl, he, Option.map_none]
    | some e =>
      rw [if_pos ⟨rfl, rfl⟩]
      refine ⟨fun e' he' => ?_, fun hnone => ?_⟩
      · obtain rfl := Option.some.inj (he.symm.trans he')
        refine ⟨(op.run e).entity, ?_, TookOps.run (hs id e he) hreport⟩
        rw [entity?_update, if_pos rfl, he, hop]
        rfl
      · rw [he] at hnone
        cases hnone
  · rw [if_neg fun h => hid h.1]
    refine .of_eq ?_
    rw [entity?_update, if_neg hid]

theorem leaves_update (i : EntityId) : Leaves d (update i f d).device where
  toKeeps := keeps_update f i d
  namespaces id := by
    rw [entity?_update]
    split
    · rename_i hid
      subst hid
      cases he : d.entity? id with
      | none => rfl
      | some e =>
        have hsame : (f e).entity = (op.run e).entity := by
          rw [hop]
          rfl
        rw [Option.map_some, Option.map_some, hsame, EntityOp.namespaces_run op (hs id e he),
          Option.map_some]
    · rfl

end Update

/-! ## Derived sensors -/

/-- How the derived sensors of a channel follow its climate. -/
def following (d : Device) (c : Channel) (id : EntityId) : List EntityOp :=
  match d.leader? c with
  | none => []
  | some climate =>
    (match climate.heating? with
      | none => []
      | some on => d.opAt (.keyed c outputPowerKey) (.power on) id) ++
    d.opAt (.keyed c modeStateKey)
      (.stateWith (Climate.activity climate.power? climate.heating?) (leaderAttributes climate)) id

theorem isSome_entity?_followHeating (c : Channel) (on : Option Bool) (d : Device)
    (id : EntityId) :
    ((followHeating c on d).device.entity? id).isSome = (d.entity? id).isSome := by
  rw [device_followHeating]
  cases on with
  | none => rfl
  | some on =>
    simp only [entity?_update]
    split
    · rename_i hid
      rw [hid, Option.isSome_map]
    · rfl

section Sync

variable {d : Device} (hs : d.Sound) (c : Channel)
include hs

theorem sound_followHeating (on : Option Bool) : (followHeating c on d).device.Sound := by
  cases on with
  | none => exact hs
  | some on =>
    have htrace : Traced .any (followHeating c (some on)) d :=
      Traced.change (.power on) (fun _ => rfl) fun hp _ => hp.elim
    exact hs.trace htrace

theorem tookOpsAt_sync (id : EntityId) :
    TookOpsAt d (syncClimateSensors c d).device id (d.following c id) := by
  unfold following
  cases hl : d.leader? c with
  | none =>
    rw [sync_of_none hl]
    exact .of_eq rfl
  | some climate =>
    rw [sync_of_some hl, Action.bind_apply]
    have hmode := tookOpsAt_update (.stateWith (Climate.activity climate.power? climate.heating?)
      (leaderAttributes climate)) (fun _ => rfl) (sound_followHeating hs c climate.heating?)
      EntityOp.noConfusion (.keyed c modeStateKey) id
    rw [opAt, isSome_entity?_followHeating] at hmode
    refine TookOpsAt.trans ?_ hmode
    rw [device_followHeating]
    cases climate.heating? with
    | none => exact .of_eq rfl
    | some on => exact tookOpsAt_update (.power on) (fun _ => rfl) hs EntityOp.noConfusion _ id

theorem leaves_sync : Leaves d (syncClimateSensors c d).device := by
  cases hl : d.leader? c with
  | none =>
    rw [sync_of_none hl]
    exact .refl d
  | some climate =>
    rw [sync_of_some hl, Action.bind_apply]
    refine Leaves.trans ?_ (leaves_update (.stateWith _ _) (fun _ => rfl)
      (sound_followHeating hs c climate.heating?) (.keyed c modeStateKey))
    rw [device_followHeating]
    cases climate.heating? with
    | none => exact .refl d
    | some on => exact leaves_update (.power on) (fun _ => rfl) hs _

end Sync

/-! ## Items -/

/-- Passes on an item of a namespace. -/
def pass (x : Namespace × Item) : Action Unit := dispatchItem x.1 x.2

/-- What an item itself does to what has an id. -/
def plainOps (d : Device) (id : EntityId) (x : Namespace × Item) : List EntityOp :=
  if d.isFor x.1 id x.2 then [.item x.1 x.2.body] else []

/-- A thermostat item that reaches anybody makes the derived sensors of its
    channel follow. -/
def followOps (d : Device) (id : EntityId) (x : Namespace × Item) : List EntityOp :=
  match x.2.channel with
  | none => []
  | some c =>
    if x.1 = .thermostatMode ∧ d.addressees x.1 c ≠ [] then
      (d.deliver x.1 c x.2.body).following c id
    else []

/-- All that an item does to what has an id. -/
def itemOps (x : Namespace × Item) (d : Device) (id : EntityId) : List EntityOp :=
  d.plainOps id x ++ d.followOps id x

/-- Those that the item is for are there and registered, if they can be. -/
def Receptive (x : Namespace × Item) (d : Device) : Prop :=
  ∀ c, x.2.channel = some c → ∀ id ∈ d.addressees x.1 c, ∃ e, d.entity? id = some e ∧
    (d.enrolls x.1 = true → e.namespaces.contains x.1 = true)

theorem tookOps_enroll (d : Device) (ns : Namespace) (e : Entity) : TookOps [] e
    (d.enroll ns e) := by
  unfold enroll
  split
  · exact TookOps.nil e _
  · exact TookOps.nil e e.namespaces

theorem insert_of_taken {d : Device} {e e' : Entity} (h : d.entity? e.id = some e') :
    d.insert e = d := by
  have hcontains : d.entities.contains e.id = true := by
    unfold entity? at h
    rw [Table.contains, h]
    rfl
  rw [insert, add, if_pos hcontains]

/-- What is there and registered, if it can be, is made and registered by nobody. -/
theorem addAndRegister_of_ready {d : Device} (hd : d.Fit) {ns : Namespace} {c : Channel}
    {kind : Kind} (hnil : d.dispatcher.targets ns c = [])
    (hready : ∃ e, d.entity? (defaultId kind c) = some e ∧
      (d.enrolls ns = true → e.namespaces.contains ns = true)) :
    d.addAndRegister (.ofKind kind (defaultId kind c) ns) ns = d := by
  obtain ⟨e, he, hcontains⟩ := hready
  have hr : d.enrolls ns = false := by
    rw [← Bool.not_eq_true]
    intro hr
    have htarget : defaultId kind c ∈ d.dispatcher.targets ns c :=
      hd.wired.mem_targets.2 ⟨channel?_defaultId kind c, e, he, hcontains hr⟩
    rw [hnil] at htarget
    cases htarget
  have htaken : d.entity? (Entity.ofKind kind (defaultId kind c) ns).id = some e := by
    rw [id_ofKind]
    exact he
  rw [addAndRegister_eq, insert_of_taken htaken]
  rcases register_spec d ns (Entity.ofKind kind (defaultId kind c) ns).id with
    ⟨-, hsame⟩ | ⟨hdone, -⟩
  · exact hsame
  · rw [register_fst, hr, Bool.and_false, Bool.false_and] at hdone
    cases hdone

section Deliver

variable {d : Device} (hd : d.Fit) (ns : Namespace) (c : Channel) (body : Json)
include hd

theorem tookOpsAt_deliver (id : EntityId) :
    TookOpsAt d (d.deliver ns c body) id
      (if id ∈ d.addressees ns c then [.item ns body] else []) := by
  have hafter := entity?_deliver hd.wired ns c body id
  split
  · rename_i hid
    rw [if_pos hid] at hafter
    have htook : ∀ e, e.Sound →
        TookOps [.item ns body] e ((d.enroll ns e).parse ns body).entity := fun e he =>
      (tookOps_enroll d ns e).append (TookOps.run (Sound.enroll he d ns) EntityOp.noConfusion)
    rcases initial?_of_mem_addressees hd.wired hid with
      ⟨hinitial, e₀, he₀⟩ | ⟨hnone, e, hmade, he⟩
    · rw [hinitial] at hafter
      refine ⟨fun e he => ?_, fun hnone => ?_⟩
      · rw [he, Option.map_some] at hafter
        exact ⟨_, hafter, htook e (hd.sound id e he)⟩
      · rw [he₀] at hnone
        cases hnone
    · rw [he, Option.map_some] at hafter
      refine ⟨fun e he => ?_, fun _ => .inr ⟨e, _, hmade, hafter, htook e hmade.sound⟩⟩
      rw [hnone] at he
      cases he
  · rename_i hid
    rw [if_neg hid] at hafter
    exact .of_eq hafter

theorem sound_deliver : (d.deliver ns c body).Sound := by
  intro id e' he'
  have hafter := entity?_deliver hd.wired ns c body id
  rw [he'] at hafter
  split at hafter
  · rename_i hid
    obtain ⟨e, he, hs⟩ := sound_initial? hd.wired hd.sound hid
    rw [he, Option.map_some] at hafter
    obtain rfl := Option.some.inj hafter
    exact sound_parse (Sound.enroll hs d ns) ns body
  · exact hd.sound id e' hafter.symm

/-- What is delivered to is registered then, and what was registered still is. -/
theorem registered_deliver {id : EntityId} {e : Entity} (he : d.entity? id = some e) :
    ∃ e', (d.deliver ns c body).entity? id = some e' ∧
      ∀ ns', e.namespaces.contains ns' = true → e'.namespaces.contains ns' = true := by
  have hafter := entity?_deliver hd.wired ns c body id
  rw [initial?_of_some he, he, Option.map_some] at hafter
  split at hafter
  · refine ⟨_, hafter, fun ns' hns' => ?_⟩
    have hnamespaces :=
      EntityOp.namespaces_run (.item ns body) (Sound.enroll (hd.sound id e he) d ns)
    change ((EntityOp.item ns body).run (d.enroll ns e)).entity.namespaces.contains ns' = true
    rw [hnamespaces]
    unfold enroll
    split
    · rw [Table.contains, Table.get?_insert]
      split
      · rfl
      · exact hns'
    · exact hns'
  · exact ⟨e, hafter, fun _ h => h⟩

theorem enrolled_deliver {id : EntityId} (hid : id ∈ d.addressees ns c) :
    ∃ e, (d.deliver ns c body).entity? id = some e ∧
      (d.enrolls ns = true → e.namespaces.contains ns = true) := by
  have hafter := entity?_deliver hd.wired ns c body id
  rw [if_pos hid] at hafter
  obtain ⟨e, he, hs⟩ := sound_initial? hd.wired hd.sound hid
  rw [he, Option.map_some] at hafter
  refine ⟨_, hafter, fun hr => ?_⟩
  have hnamespaces := EntityOp.namespaces_run (.item ns body) (Sound.enroll hs d ns)
  change ((EntityOp.item ns body).run (d.enroll ns e)).entity.namespaces.contains ns = true
  rw [hnamespaces, enroll, if_pos hr, Table.contains, Table.get?_insert_self]
  rfl

/-- Where those that an item is for are there and registered, it is delivered
    and that is all. -/
theorem leaves_deliver (hready : ∀ id ∈ d.addressees ns c, ∃ e, d.entity? id = some e ∧
    (d.enrolls ns = true → e.namespaces.contains ns = true)) :
    Leaves d (d.deliver ns c body) := by
  have hnamespaces : ∀ id, ((d.deliver ns c body).entity? id).map (·.namespaces) =
      (d.entity? id).map (·.namespaces) := by
    intro id
    rw [entity?_deliver hd.wired]
    split
    · rename_i hid
      obtain ⟨e, he, hcontains⟩ := hready id hid
      have hsame : d.enroll ns e = e := by
        cases hr : d.enrolls ns with
        | true => exact enroll_of_contains (hcontains hr)
        | false => rw [enroll, hr]; rfl
      rw [initial?_of_some he, he, Option.map_some, Option.map_some, Option.map_some, hsame]
      exact congrArg some (EntityOp.namespaces_run (.item ns body) (hd.sound id e he))
    · rfl
  refine ⟨?_, hnamespaces⟩
  unfold deliver
  rcases lookup_of_addressees d ns c with ⟨-, -, hlookup⟩ | ⟨hnil, hlookup⟩ <;> rw [hlookup]
  · exact keeps_parseAll ns body _ d
  · cases hp : ns.policy with
    | ignore | logOnly => exact Keeps.refl d
    | createDefault kind =>
      have hid : defaultId kind c ∈ d.addressees ns c := by
        rw [addressees_eq, hlookup, hp]
        exact List.mem_singleton_self _
      simp only
      rw [addAndRegister_of_ready hd hnil (hready _ hid), device_parseEntity]
      exact keeps_change _ _ d

end Deliver

/-! ### Rows of items -/

section Items

variable {x : Namespace × Item} {d : Device}

theorem fit_pass (x : Namespace × Item) (hd : d.Fit) : (pass x d).device.Fit :=
  hd.trace (traced_dispatchItem Scope.opens_calm x.1 (fun hp => hp.elim) d)

theorem device_pass {c : Channel} (hc : x.2.channel = some c) (d : Device) :
    (pass x d).device =
      if d.addressees x.1 c = [] then d
      else if x.1 = .thermostatMode then
        (syncClimateSensors c (d.deliver x.1 c x.2.body)).device
      else d.deliver x.1 c x.2.body := by
  rw [pass, device_dispatchItem x.1 hc, syncAfter]
  split
  · rfl
  · split <;> rfl

theorem tookOpsAt_pass (hd : d.Fit) (x : Namespace × Item) (id : EntityId) :
    TookOpsAt d (pass x d).device id (itemOps x d id) := by
  unfold itemOps plainOps followOps isFor
  cases hc : x.2.channel with
  | none =>
    rw [pass, device_dispatchItem_none x.1 hc]
    exact .of_eq rfl
  | some c =>
    rw [device_pass hc]
    simp only [Option.any_some, List.contains_iff_mem]
    by_cases hnil : d.addressees x.1 c = []
    · simp only [hnil, List.not_mem_nil, if_false, ne_eq, not_true_eq_false, and_false, if_true]
      exact .of_eq rfl
    · rw [if_neg hnil]
      refine (tookOpsAt_deliver hd x.1 c x.2.body id).trans ?_
      by_cases hns : x.1 = .thermostatMode
      · rw [if_pos hns, if_pos ⟨hns, hnil⟩]
        exact tookOpsAt_sync (sound_deliver hd x.1 c x.2.body) c id
      · rw [if_neg hns, if_neg fun h => hns h.1]
        exact .of_eq rfl

/-- What follows the deliver of an item adds and registers nothing. -/
theorem leaves_pass (hd : d.Fit) {c : Channel} (hc : x.2.channel = some c)
    (h : d.addressees x.1 c ≠ []) : Leaves (d.deliver x.1 c x.2.body) (pass x d).device := by
  rw [device_pass hc, if_neg h]
  split
  · exact leaves_sync (sound_deliver hd x.1 c x.2.body) c
  · exact .refl _

theorem registered_pass (hd : d.Fit) {id : EntityId} {e : Entity} (he : d.entity? id = some e) :
    ∃ e', (pass x d).device.entity? id = some e' ∧
      ∀ ns, e.namespaces.contains ns = true → e'.namespaces.contains ns = true := by
  cases hc : x.2.channel with
  | none =>
    rw [pass, device_dispatchItem_none x.1 hc]
    exact ⟨e, he, fun _ h => h⟩
  | some c =>
    by_cases hnil : d.addressees x.1 c = []
    · rw [device_pass hc, if_pos hnil]
      exact ⟨e, he, fun _ h => h⟩
    · obtain ⟨e', he', hcontains⟩ := registered_deliver hd x.1 c x.2.body he
      have hleaves := (leaves_pass hd hc hnil).namespaces id
      rw [he', Option.map_some] at hleaves
      obtain ⟨e'', he'', hsame⟩ := Option.map_eq_some_iff.1 hleaves
      exact ⟨e'', he'', fun ns hns => hsame ▸ hcontains ns hns⟩

theorem repeatable_pass (xs : List (Namespace × Item)) :
    Repeatable pass itemOps Receptive xs where
  fit x _ d hd := fit_pass x hd
  tookOpsAt x _ d hd id := tookOpsAt_pass hd x id
  ready x _ d hd := by
    intro c hc id hid
    rw [pass, addressees_dispatchItem] at hid
    have henrolls : (pass x d).device.enrolls x.1 = d.enrolls x.1 :=
      enrolls_dispatchItem d x.1 x.1 x.2
    obtain ⟨e, he, hcontains⟩ := enrolled_deliver hd x.1 c x.2.body hid
    have hleaves := (leaves_pass hd hc (List.ne_nil_of_mem hid)).namespaces id
    rw [he, Option.map_some] at hleaves
    obtain ⟨e', he', hsame⟩ := Option.map_eq_some_iff.1 hleaves
    refine ⟨e', he', fun hr => ?_⟩
    rw [hsame]
    exact hcontains (henrolls ▸ hr)
  stays x _ y d hd hy := by
    intro c hc id hid
    rw [pass, addressees_dispatchItem] at hid
    have henrolls : (pass x d).device.enrolls y.1 = d.enrolls y.1 :=
      enrolls_dispatchItem d x.1 y.1 x.2
    obtain ⟨e, he, hcontains⟩ := hy c hc id hid
    obtain ⟨e', he', hkept⟩ := registered_pass hd he (x := x)
    exact ⟨e', he', fun hr => hkept y.1 (hcontains (henrolls ▸ hr))⟩
  leaves x _ d hd hx := by
    cases hc : x.2.channel with
    | none =>
      rw [pass, device_dispatchItem_none x.1 hc]
      exact .refl d
    | some c =>
      by_cases hnil : d.addressees x.1 c = []
      · rw [device_pass hc, if_pos hnil]
        exact .refl d
      · exact (leaves_deliver hd x.1 c x.2.body (hx c hc)).trans (leaves_pass hd hc hnil)

end Items

end Device

end Appliance
