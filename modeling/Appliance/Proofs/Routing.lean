-- SUMMARY: Which items reach which entities: every item reaches exactly those it is for, in order.

import Appliance.Proofs.Coherence

namespace Appliance

namespace Device

/-! ## Addressees

Whom the items of a channel are for is settled before the first of them is
passed on: what a default entity gets is what it would be addressed by anyway. -/

/-- The ids that items of a namespace for a channel are for: those registered
    for them, or the id of a default entity where nobody is. -/
def addressees (d : Device) (ns : Namespace) (c : Channel) : List EntityId :=
  match d.dispatcher.targets ns c, ns.policy with
  | [], .createDefault kind => [defaultId kind c]
  | ids, _ => ids

/-- The dispatcher finds just these. -/
theorem addressees_eq (d : Device) (ns : Namespace) (c : Channel) :
    d.addressees ns c =
      match d.dispatcher.lookup ns c with
      | .found ids => ids
      | .notFound (.createDefault kind) => [defaultId kind c]
      | .notFound .logOnly | .notFound .ignore => [] := by
  unfold addressees Dispatcher.lookup
  cases d.dispatcher.targets ns c <;> cases ns.policy <;> rfl

/-- What an id has when items of a namespace reach it, which is made then if it
    has nothing. -/
def initial? (d : Device) (ns : Namespace) (id : EntityId) : Option Entity :=
  match d.entity? id with
  | some e => some e
  | none =>
    match ns.policy with
    | .createDefault kind => some (.ofKind kind id ns)
    | .logOnly | .ignore => none

/-- Ids with a channel can be registered for a namespace. -/
def enrolls (d : Device) (ns : Namespace) : Bool :=
  d.dispatcher.supports ns && (d.dispatcher.routes? ns).isSome

/-- What items of a namespace reach is registered for it, where that is possible. -/
def enroll (d : Device) (ns : Namespace) (e : Entity) : Entity :=
  if d.enrolls ns then { e with namespaces := e.namespaces.insert ns () } else e

/-! ### Registration -/

theorem register_fst (d : Device) (ns : Namespace) (id : EntityId) :
    (d.register ns id).1 =
      ((d.entity? id).isSome && d.enrolls ns && id.channel?.isSome) := by
  unfold register enrolls
  cases he : d.entity? id with
  | none => rfl
  | some e =>
    unfold Dispatcher.register
    cases hs : d.dispatcher.supports ns with
    | false => simp
    | true =>
      cases hc : id.channel? with
      | none => simp
      | some c => cases hr : d.dispatcher.routes? ns <;> simp

theorem dispatcher_register (d : Device) (ns : Namespace) (id : EntityId) :
    (d.register ns id).2.dispatcher =
      if (d.register ns id).1 then (d.dispatcher.register ns id).2 else d.dispatcher := by
  rcases register_spec d ns id with ⟨hr, hsame⟩ | ⟨hr, -, -, -, -, hdispatcher⟩
  · rw [hr, hsame]
    rfl
  · rw [hr, hdispatcher]
    rfl

theorem enrolls_insert (d : Device) (e : Entity) (ns : Namespace) :
    (d.insert e).enrolls ns = d.enrolls ns := by
  unfold enrolls
  rw [dispatcher_insert]

theorem addAndRegister_eq (d : Device) (e : Entity) (ns : Namespace) :
    d.addAndRegister e ns = ((d.insert e).register ns e.id).2 := rfl

/-- What is already registered is not changed by being registered. -/
theorem enroll_of_contains {d : Device} {ns : Namespace} {e : Entity}
    (h : e.namespaces.contains ns = true) : d.enroll ns e = e := by
  unfold enroll
  split
  · have hsame : e.namespaces.insert ns () = e.namespaces := by
      refine Table.ext fun n => ?_
      rw [Table.get?_insert]
      split
      · rename_i hn
        obtain rfl : n = ns := by simpa using hn
        exact (Option.isSome_iff_exists.1 h).elim fun _ hu => hu.symm
      · rfl
    rw [hsame]
  · rfl

/-! ### Passing an item on -/

theorem device_parseEntity (ns : Namespace) (body : Json) (id : EntityId) (d : Device) :
    (parseEntity ns body id d).device = (change id (·.parse ns body) d).device := by
  unfold parseEntity
  rw [Action.bind_apply]
  cases (update id (·.parse ns body) d).answer with
  | none => rfl
  | some answer => cases answer <;> rfl

theorem device_forEach_congr {α : Type} {f g : α → Action Unit}
    (h : ∀ x d, (f x d).device = (g x d).device) (xs : List α) (d : Device) :
    (Action.forEach xs f d).device = (Action.forEach xs g d).device := by
  induction xs generalizing d with
  | nil => rfl
  | cons x xs ih =>
    rw [Action.device_forEach_cons, Action.device_forEach_cons, ih, h]

theorem keeps_parseAll (ns : Namespace) (body : Json) (ids : List EntityId) (d : Device) :
    Keeps d (Action.forEach ids (parseEntity ns body) d).device := by
  rw [device_forEach_congr (device_parseEntity ns body)]
  exact keeps_forEach (fun id d => keeps_change _ id d) ids d

theorem entity?_parseAll (ns : Namespace) (body : Json) {ids : List EntityId} (h : ids.Nodup)
    (d : Device) (id : EntityId) :
    (Action.forEach ids (parseEntity ns body) d).device.entity? id =
      if id ∈ ids then (d.entity? id).map fun e => (e.parse ns body).entity
      else d.entity? id := by
  rw [device_forEach_congr (device_parseEntity ns body)]
  exact forEach_change_entity? _ h d id

/-- The derived sensors of a channel. -/
def derivedIds (c : Channel) : List EntityId :=
  [.keyed c outputPowerKey, .keyed c modeStateKey]

theorem sync_of_none {c : Channel} {d : Device} (h : d.leader? c = none) :
    syncClimateSensors c d = ⟨d, [], ()⟩ := by
  unfold syncClimateSensors
  rw [Action.bind_apply]
  simp only [Action.device, h]
  rfl

theorem sync_of_some {c : Channel} {d : Device} {climate : Entity}
    (h : d.leader? c = some climate) :
    syncClimateSensors c d =
      (do
        followHeating c climate.heating?
        followMode c climate : Action Unit) d := by
  unfold syncClimateSensors
  rw [Action.bind_apply]
  simp only [Action.device, h]
  rfl

theorem device_followHeating (c : Channel) (on : Option Bool) (d : Device) :
    (followHeating c on d).device =
      match on with
      | some on => (update (.keyed c outputPowerKey) (·.updatePower on) d).device
      | none => d := by
  cases on <;> rfl

theorem keeps_sync (c : Channel) (d : Device) : Keeps d (syncClimateSensors c d).device := by
  cases h : d.leader? c with
  | none =>
    rw [sync_of_none h]
    exact Keeps.refl d
  | some climate =>
    rw [sync_of_some h, Action.bind_apply]
    refine Keeps.trans ?_ (keeps_change _ _ _)
    rw [device_followHeating]
    cases climate.heating? with
    | none => exact Keeps.refl d
    | some on => exact keeps_update _ _ d

theorem keeps_syncAfter (ns : Namespace) (c : Channel) (d : Device) :
    Keeps d (syncAfter ns c d).device := by
  unfold syncAfter
  split
  · exact keeps_sync c d
  · exact Keeps.refl d

theorem entity?_sync {c : Channel} {id : EntityId} (h : id ∉ derivedIds c) (d : Device) :
    (syncClimateSensors c d).device.entity? id = d.entity? id := by
  simp only [derivedIds, List.mem_cons, List.not_mem_nil, or_false, not_or] at h
  cases hl : d.leader? c with
  | none => rw [sync_of_none hl]
  | some climate =>
    rw [sync_of_some hl, Action.bind_apply]
    simp only [followMode, device_change, entity?_update, if_neg h.2, device_followHeating]
    cases climate.heating? with
    | none => rfl
    | some on => rw [entity?_update, if_neg h.1]

/-! ### Deliveries

An item is delivered, and then, if it is a thermostat item, the derived sensors
of its channel follow. -/

/-- The device after an item reached those it is for. -/
def deliver (d : Device) (ns : Namespace) (c : Channel) (body : Json) : Device :=
  match d.dispatcher.lookup ns c with
  | .found ids => (Action.forEach ids (parseEntity ns body) d).device
  | .notFound (.createDefault kind) =>
    (parseEntity ns body (defaultId kind c)
      (d.addAndRegister (.ofKind kind (defaultId kind c) ns) ns)).device
  | .notFound .logOnly | .notFound .ignore => d

theorem device_dispatchItem_none (ns : Namespace) {item : Item} (h : item.channel = none)
    (d : Device) : (dispatchItem ns item d).device = d := by
  unfold dispatchItem
  rw [h]
  rfl

theorem device_dispatchItem (ns : Namespace) {item : Item} {c : Channel}
    (h : item.channel = some c) (d : Device) :
    (dispatchItem ns item d).device =
      if d.addressees ns c = [] then d
      else (syncAfter ns c (d.deliver ns c item.body)).device := by
  rw [addressees_eq]
  unfold dispatchItem deliver Dispatcher.lookup
  rw [h]
  simp only [Action.bind_apply, Action.device]
  cases ht : d.dispatcher.targets ns c with
  | cons id ids =>
    simp only [reduceCtorEq, if_false]
    rfl
  | nil =>
    cases hp : ns.policy with
    | ignore => rfl
    | logOnly => rfl
    | createDefault kind =>
      have hns : ns ≠ .thermostatMode := by
        rintro rfl
        cases hp
      simp only [syncAfter, if_neg hns, List.cons_ne_nil, if_false]
      rfl

theorem lookup_of_addressees (d : Device) (ns : Namespace) (c : Channel) :
    (d.dispatcher.targets ns c ≠ [] ∧ d.addressees ns c = d.dispatcher.targets ns c ∧
        d.dispatcher.lookup ns c = .found (d.dispatcher.targets ns c)) ∨
      (d.dispatcher.targets ns c = [] ∧ d.dispatcher.lookup ns c = .notFound ns.policy) := by
  unfold addressees Dispatcher.lookup
  cases d.dispatcher.targets ns c <;> simp

theorem channel?_defaultId (kind : Kind) (c : Channel) : (defaultId kind c).channel? = some c := by
  unfold defaultId
  split <;> rfl

theorem id_ofKind (kind : Kind) (id : EntityId) (ns : Namespace) :
    (Entity.ofKind kind id ns).id = id := by
  cases kind <;> rfl

private theorem entity?_addAndRegister (d : Device) (ns : Namespace) (c : Channel) {kind : Kind}
    (hp : ns.policy = .createDefault kind) (id : EntityId) :
    (d.addAndRegister (.ofKind kind (defaultId kind c) ns) ns).entity? id =
      if id = defaultId kind c then (d.initial? ns id).map (d.enroll ns) else d.entity? id := by
  rw [addAndRegister_eq, entity?_register, register_fst, enrolls_insert, id_ofKind,
    channel?_defaultId, entity?_insert, entity?_insert, id_ofKind]
  by_cases hid : id = defaultId kind c
  · subst hid
    unfold initial? enroll
    cases he : d.entity? (defaultId kind c) with
    | none => cases hr : d.enrolls ns <;> simp [hp]
    | some e => cases hr : d.enrolls ns <;> simp
  · simp [hid]

section Deliver

variable {d : Device} (hw : d.Wired) (ns : Namespace) (c : Channel) (body : Json)
include hw

theorem entity?_deliver (id : EntityId) :
    (d.deliver ns c body).entity? id =
      if id ∈ d.addressees ns c then
        (d.initial? ns id).map fun e => ((d.enroll ns e).parse ns body).entity
      else d.entity? id := by
  unfold deliver
  rcases lookup_of_addressees d ns c with
    ⟨-, haddressees, hlookup⟩ | ⟨hnil, hlookup⟩
  · rw [hlookup, haddressees]
    simp only
    rw [entity?_parseAll ns body (hw.nodup ns c)]
    split
    · rename_i hid
      obtain ⟨-, e, he, hcontains⟩ := hw.mem_targets.1 hid
      simp [initial?, he, enroll_of_contains hcontains]
    · rfl
  · rw [addressees_eq, hlookup]
    cases hp : ns.policy with
    | ignore => simp
    | logOnly => simp
    | createDefault kind =>
      simp only [List.mem_singleton]
      rw [device_parseEntity, device_change, entity?_update,
        entity?_addAndRegister d ns c hp, entity?_addAndRegister d ns c hp]
      by_cases hid : id = defaultId kind c
      · subst hid
        simp [Function.comp_def]
      · simp [hid]

end Deliver

theorem enrolls_register (d : Device) (ns ns' : Namespace) (id : EntityId) :
    (d.register ns id).2.enrolls ns' = d.enrolls ns' := by
  unfold enrolls
  rw [dispatcher_register]
  split
  · rw [Dispatcher.supports_register]
    congr 1
    unfold Dispatcher.register
    split
    · rename_i channel routes hs hc hr
      by_cases hns : ns' = ns
      · subst hns
        simp only [Dispatcher.routes?, Table.get?_insert_self]
        simp only [Dispatcher.routes?] at hr
        rw [hr]
        rfl
      · simp [Dispatcher.routes?, Table.get?_insert, hns]
    · rfl
  · rfl

theorem dispatcher_register_fst (d : Dispatcher) (ns : Namespace) (id : EntityId) :
    (d.register ns id).1 = (d.supports ns && (d.routes? ns).isSome && id.channel?.isSome) := by
  unfold Dispatcher.register
  cases d.supports ns with
  | false => rfl
  | true => cases hc : id.channel? <;> cases hr : d.routes? ns <;> simp

theorem targets_addAndRegister (d : Device) (e : Entity) (ns ns' : Namespace) (c : Channel) :
    (d.addAndRegister e ns).dispatcher.targets ns' c =
      if d.enrolls ns = true ∧ ns' = ns ∧ e.id.channel? = some c then
        Dispatcher.enlist e.id (d.dispatcher.targets ns c)
      else d.dispatcher.targets ns' c := by
  have hthere : ((d.insert e).entity? e.id).isSome = true := by
    rw [entity?_insert]
    cases h : d.entity? e.id <;> simp
  have hfst : ((d.insert e).register ns e.id).1 = (d.enrolls ns && e.id.channel?.isSome) := by
    rw [register_fst, hthere, Bool.true_and, enrolls, dispatcher_insert]
    rfl
  have hsecond : (d.dispatcher.register ns e.id).1 = (d.enrolls ns && e.id.channel?.isSome) :=
    dispatcher_register_fst d.dispatcher ns e.id
  rw [addAndRegister_eq, dispatcher_register, dispatcher_insert, hfst]
  split
  · rename_i hok
    rw [Dispatcher.targets_register, hsecond, hok]
    rw [Bool.and_eq_true] at hok
    simp [hok.1]
  · rename_i hnot
    rw [if_neg]
    rintro ⟨he, -, hc⟩
    exact hnot (by simp [he, hc])

/-- Whom items are for does not change when items are delivered. -/
theorem addressees_deliver (d : Device) (ns ns' : Namespace) (c c' : Channel) (body : Json) :
    (d.deliver ns c body).addressees ns' c' = d.addressees ns' c' := by
  have hcongr : ∀ {d' : Device}, d'.dispatcher.targets ns' c' = d.dispatcher.targets ns' c' →
      d'.addressees ns' c' = d.addressees ns' c' := by
    intro d' h
    unfold addressees
    rw [h]
  rcases lookup_of_addressees d ns c with
    ⟨-, -, hlookup⟩ | ⟨hnil, hlookup⟩ <;> unfold deliver <;> rw [hlookup]
  · refine hcongr ?_
    rw [(keeps_parseAll ns body _ d).dispatcher]
  · cases hp : ns.policy with
    | ignore => rfl
    | logOnly => rfl
    | createDefault kind =>
      have htargets := targets_addAndRegister d (.ofKind kind (defaultId kind c) ns) ns ns' c'
      rw [← (keeps_change (·.parse ns body) (defaultId kind c) _).dispatcher,
        ← device_parseEntity, id_ofKind, channel?_defaultId] at htargets
      by_cases hhere : d.enrolls ns = true ∧ ns' = ns ∧ some c = some c'
      · rw [if_pos hhere] at htargets
        obtain ⟨-, rfl, hc⟩ := hhere
        obtain rfl := Option.some.inj hc
        have hmade : d.addressees ns' c = [defaultId kind c] := by
          rw [addressees_eq, hlookup, hp]
        rw [hnil] at htargets
        rw [hmade]
        unfold addressees
        rw [htargets]
        rfl
      · rw [if_neg hhere] at htargets
        exact hcongr htargets

theorem enrolls_deliver (d : Device) (ns ns' : Namespace) (c : Channel) (body : Json) :
    (d.deliver ns c body).enrolls ns' = d.enrolls ns' := by
  have hcongr : ∀ {d₁ d₂ : Device}, Keeps d₁ d₂ → d₂.enrolls ns' = d₁.enrolls ns' := by
    intro d₁ d₂ h
    unfold enrolls
    rw [h.dispatcher]
  unfold deliver
  split
  · exact hcongr (keeps_parseAll ns body _ d)
  · rw [device_parseEntity, hcongr (keeps_change _ _ _), addAndRegister_eq, enrolls_register]
    unfold enrolls
    rw [dispatcher_insert]
  · rfl
  · rfl

/-! ## Items in a row -/

/-- The item is for the entity with an id. -/
def isFor (d : Device) (ns : Namespace) (id : EntityId) (i : Item) : Bool :=
  i.channel.any fun c => (d.addressees ns c).contains id

/-- The items, in order, that are for the entity with an id. -/
def itemsFor (d : Device) (ns : Namespace) (id : EntityId) (items : List Item) : List Item :=
  items.filter (d.isFor ns id)

/-- The entity after items, whether it could take them or not. -/
def parseAll (ns : Namespace) (items : List Item) (e : Entity) : Entity :=
  items.foldl (fun e i => (e.parse ns i.body).entity) e

theorem addressees_dispatchItem (d : Device) (ns ns' : Namespace) (item : Item) (c' : Channel) :
    (dispatchItem ns item d).device.addressees ns' c' = d.addressees ns' c' := by
  have hsync : ∀ c d', (syncAfter ns c d').device.addressees ns' c' = d'.addressees ns' c' := by
    intro c d'
    unfold addressees
    rw [(keeps_syncAfter ns c d').dispatcher]
  cases hc : item.channel with
  | none => rw [device_dispatchItem_none ns hc]
  | some c =>
    rw [device_dispatchItem ns hc]
    split
    · rfl
    · rw [hsync, addressees_deliver]

theorem isFor_dispatchItem (d : Device) (ns ns' : Namespace) (id : EntityId) (item i : Item) :
    (dispatchItem ns item d).device.isFor ns' id i = d.isFor ns' id i := by
  unfold isFor
  simp only [addressees_dispatchItem]

theorem enrolls_dispatchItem (d : Device) (ns ns' : Namespace) (item : Item) :
    (dispatchItem ns item d).device.enrolls ns' = d.enrolls ns' := by
  have hsync : ∀ c d', (syncAfter ns c d').device.enrolls ns' = d'.enrolls ns' := by
    intro c d'
    unfold enrolls
    rw [(keeps_syncAfter ns c d').dispatcher]
  cases hc : item.channel with
  | none => rw [device_dispatchItem_none ns hc]
  | some c =>
    rw [device_dispatchItem ns hc]
    split
    · rfl
    · rw [hsync, enrolls_deliver]

theorem entity?_dispatchItem {d : Device} (hw : d.Wired) (ns : Namespace) (item : Item)
    {id : EntityId}
    (hid : ns = .thermostatMode → ∀ c, item.channel = some c → id ∉ derivedIds c) :
    (dispatchItem ns item d).device.entity? id =
      if d.isFor ns id item then
        (d.initial? ns id).map fun e => ((d.enroll ns e).parse ns item.body).entity
      else d.entity? id := by
  unfold isFor
  cases hc : item.channel with
  | none =>
    rw [device_dispatchItem_none ns hc]
    rfl
  | some c =>
    have hsync : ∀ d', (syncAfter ns c d').device.entity? id = d'.entity? id := by
      intro d'
      unfold syncAfter
      split
      · rename_i hns
        exact entity?_sync (hid hns c hc) d'
      · rfl
    rw [device_dispatchItem ns hc, Option.any_some]
    split
    · rename_i hnil
      simp [hnil]
    · rw [hsync, entity?_deliver hw]
      simp

/-! ### Those that items are for -/

theorem initial?_of_some {d : Device} {id : EntityId} {e : Entity} (h : d.entity? id = some e)
    (ns : Namespace) : d.initial? ns id = some e := by
  unfold initial?
  rw [h]

theorem mem_addressees {d : Device} (hw : d.Wired) {ns : Namespace} {c : Channel} {id : EntityId}
    (h : id ∈ d.addressees ns c) :
    id.channel? = some c ∧ ((∃ e, d.entity? id = some e) ∨
      ∃ kind, ns.policy = .createDefault kind ∧ id = defaultId kind c) := by
  rcases lookup_of_addressees d ns c with ⟨-, haddressees, -⟩ | ⟨-, hlookup⟩
  · rw [haddressees] at h
    obtain ⟨hc, e, he, -⟩ := hw.mem_targets.1 h
    exact ⟨hc, .inl ⟨e, he⟩⟩
  · rw [addressees_eq, hlookup] at h
    cases hp : ns.policy with
    | ignore | logOnly => simp [hp] at h
    | createDefault kind =>
      rw [hp] at h
      obtain rfl := List.mem_singleton.1 h
      exact ⟨channel?_defaultId kind c, .inr ⟨kind, rfl, rfl⟩⟩

theorem initial?_of_mem_addressees {d : Device} (hw : d.Wired) {ns : Namespace} {c : Channel}
    {id : EntityId} (h : id ∈ d.addressees ns c) :
    d.initial? ns id = d.entity? id ∧ (∃ e, d.entity? id = some e) ∨
      d.entity? id = none ∧ ∃ e, e.Made ∧ d.initial? ns id = some e := by
  cases he : d.entity? id with
  | some e => exact .inl ⟨initial?_of_some he ns, e, rfl⟩
  | none =>
    rcases (mem_addressees hw h).2 with ⟨e, he'⟩ | ⟨kind, hp, -⟩
    · rw [he] at he'
      cases he'
    · refine .inr ⟨rfl, .ofKind kind id ns, Entity.made_ofKind kind id ns, ?_⟩
      unfold initial?
      rw [he, hp]

/-- What items are for has something, or is made. -/
theorem sound_initial? {d : Device} (hw : d.Wired) (hs : d.Sound) {ns : Namespace} {c : Channel}
    {id : EntityId} (h : id ∈ d.addressees ns c) : ∃ e, d.initial? ns id = some e ∧ e.Sound := by
  rcases initial?_of_mem_addressees hw h with ⟨hinitial, e, he⟩ | ⟨-, e, hmade, he⟩
  · exact ⟨e, hinitial.trans he, hs id e he⟩
  · exact ⟨e, he, hmade.sound⟩

theorem sound_initial?_of_isFor {d : Device} (hw : d.Wired) (hs : d.Sound) {ns : Namespace}
    {id : EntityId} {item : Item} (h : d.isFor ns id item = true) :
    ∃ e, d.initial? ns id = some e ∧ e.Sound := by
  obtain ⟨c, -, hmem⟩ := (Option.any_eq_true ..).1 h
  exact sound_initial? hw hs (List.contains_iff_mem.1 hmem)

theorem initial?_congr {d d' : Device} {ns : Namespace} {id : EntityId}
    (h : d'.entity? id = d.entity? id) : d'.initial? ns id = d.initial? ns id := by
  unfold initial?
  rw [h]

theorem Sound.enroll {e : Entity} (h : e.Sound) (d : Device) (ns : Namespace) :
    (d.enroll ns e).Sound := by
  unfold Device.enroll
  split
  · exact ⟨h.shaped, h.consistent, h.idle⟩
  · exact h

theorem sound_parse {e : Entity} (h : e.Sound) (ns : Namespace) (body : Json) :
    (e.parse ns body).entity.Sound := EntityOp.sound_run (.item ns body) h

/-- Registering again what was reached changes nothing. -/
theorem enroll_parse {d d' : Device} (ns : Namespace) (h : d'.enrolls ns = d.enrolls ns)
    {e : Entity} (he : e.Sound) (body : Json) :
    d'.enroll ns ((d.enroll ns e).parse ns body).entity =
      ((d.enroll ns e).parse ns body).entity := by
  have hnamespaces : ((d.enroll ns e).parse ns body).entity.namespaces =
      (d.enroll ns e).namespaces :=
    EntityOp.namespaces_run (.item ns body) (Sound.enroll he d ns)
  cases hr : d.enrolls ns with
  | false =>
    unfold Device.enroll
    rw [h, hr]
    rfl
  | true =>
    apply enroll_of_contains
    rw [hnamespaces, Device.enroll, if_pos hr]
    simp [Table.contains]

theorem enroll_dispatchItem (d : Device) (ns : Namespace) (item : Item) (e : Entity) :
    (dispatchItem ns item d).device.enroll ns e = d.enroll ns e := by
  unfold Device.enroll
  rw [enrolls_dispatchItem]

theorem trace_dispatchItem (ns : Namespace) (item : Item) (d : Device) :
    Trace .any d (dispatchItem ns item d).events (dispatchItem ns item d).device :=
  traced_dispatchItem Scope.opens_any ns (fun hp => hp.elim) d

theorem itemsFor_cons (d : Device) (ns : Namespace) (id : EntityId) (item : Item)
    (items : List Item) :
    d.itemsFor ns id (item :: items) =
      if d.isFor ns id item then item :: d.itemsFor ns id items else d.itemsFor ns id items :=
  List.filter_cons

theorem itemsFor_dispatchItem (d : Device) (ns : Namespace) (item : Item) (id : EntityId)
    (items : List Item) :
    (dispatchItem ns item d).device.itemsFor ns id items = d.itemsFor ns id items := by
  refine List.filter_congr fun i _ => ?_
  rw [isFor_dispatchItem]

section Items

variable {d : Device} (hw : d.Wired) (hs : d.Sound) (ns : Namespace) (items : List Item)
  {id : EntityId}
  (hid : ns = .thermostatMode → ∀ i ∈ items, ∀ c, i.channel = some c → id ∉ derivedIds c)
include hw hs hid

/-- Items that are for others pass an entity by. -/
theorem entity?_dispatchItems_of_nil (hnil : d.itemsFor ns id items = []) :
    (Action.forEach items (dispatchItem ns) d).device.entity? id = d.entity? id := by
  induction items generalizing d with
  | nil => rfl
  | cons item items ih =>
    have hitem := entity?_dispatchItem hw ns item
      fun hns c hc => hid hns item (List.mem_cons_self ..) c hc
    have htrace := trace_dispatchItem ns item d
    rw [itemsFor_cons] at hnil
    cases hfor : d.isFor ns id item with
    | true =>
      rw [hfor] at hnil
      cases hnil
    | false =>
      rw [hfor] at hitem hnil
      rw [Action.device_forEach_cons]
      refine (ih (hw.trace hs htrace) (hs.trace htrace) (fun hns i hi => ?_) ?_).trans hitem
      · exact hid hns i (List.mem_cons_of_mem _ hi)
      · rw [itemsFor_dispatchItem]
        exact hnil

/-- Each of a row of items reaches those it is for, as they were before the
    first of them. -/
theorem entity?_dispatchItems (hne : d.itemsFor ns id items ≠ []) :
    ∃ e, d.initial? ns id = some e ∧
      (Action.forEach items (dispatchItem ns) d).device.entity? id =
        some (parseAll ns (d.itemsFor ns id items) (d.enroll ns e)) := by
  induction items generalizing d with
  | nil => exact absurd rfl hne
  | cons item items ih =>
    have hitem := entity?_dispatchItem hw ns item
      fun hns c hc => hid hns item (List.mem_cons_self ..) c hc
    have hrest := fun hns i hi => hid hns i (List.mem_cons_of_mem _ hi)
    have htrace := trace_dispatchItem ns item d
    have hw' := hw.trace hs htrace
    have hs' := hs.trace htrace
    have hreach := ih hw' hs' hrest
    rw [itemsFor_dispatchItem] at hreach
    rw [itemsFor_cons] at hne ⊢
    rw [Action.device_forEach_cons]
    cases hfor : d.isFor ns id item with
    | false =>
      -- the item passes the entity by
      rw [hfor] at hitem hne
      obtain ⟨e, he, hend⟩ := hreach hne
      rw [initial?_congr hitem] at he
      refine ⟨e, he, ?_⟩
      rw [hend, enroll_dispatchItem]
      rfl
    | true =>
      -- the item reaches the entity, and the rest goes on from there
      obtain ⟨e, he, hsound⟩ := sound_initial?_of_isFor hw hs hfor
      rw [hfor, if_pos rfl, he, Option.map_some] at hitem
      refine ⟨e, he, ?_⟩
      rw [if_pos rfl]
      by_cases hnil : d.itemsFor ns id items = []
      · have hlast := entity?_dispatchItems_of_nil hw' hs' ns items hrest
        rw [itemsFor_dispatchItem] at hlast
        rw [hlast hnil, hitem, hnil]
        rfl
      · obtain ⟨e', he', hend⟩ := hreach hnil
        rw [initial?_of_some hitem] at he'
        obtain rfl := Option.some.inj he'
        rw [hend, enroll_parse ns (enrolls_dispatchItem d ns ns item) hsound]
        rfl

end Items

/-- A message whose namespace has no reader of its own reaches, item by item
    and in order, those that its channels address, and nobody else. Only the
    derived sensors of a thermostat's channel are left out: they follow it. -/
theorem dispatch_routes {d : Device} (hd : d.Reachable) {header : Header} {ns : Namespace}
    (hknown : header.known? = some ns) (hall : ns ≠ .systemAll) (hability : ns ≠ .systemAbility)
    (hcustom : d.dispatcher.isCustom ns = false) {payload : Json} {items : List Item}
    (hitems : Item.ofPayload ns payload = .ok items) {id : EntityId}
    (hid : ns = .thermostatMode → ∀ i ∈ items, ∀ c, i.channel = some c → id ∉ derivedIds c) :
    (d.itemsFor ns id items = [] →
        (dispatch header payload d).device.entity? id = d.entity? id) ∧
      (d.itemsFor ns id items ≠ [] → ∃ e, d.initial? ns id = some e ∧
        (dispatch header payload d).device.entity? id =
          some (parseAll ns (d.itemsFor ns id items) (d.enroll ns e))) := by
  obtain ⟨mask, descriptor, c, hreached, rfl⟩ := hd
  have hdispatch : (dispatch header payload c.device).device =
      (Action.forEach items (dispatchItem ns) c.device).device := by
    have hnamespace : dispatch header payload = dispatchNamespace ns payload := by
      unfold dispatch
      rw [hknown]
      cases ns <;> simp_all
    rw [hnamespace, dispatchNamespace, Action.bind_apply]
    simp only [Action.device, hcustom, Bool.false_eq_true, if_false, hitems]
    rfl
  rw [hdispatch]
  exact ⟨entity?_dispatchItems_of_nil hreached.wired.1 hreached.sound.1 ns items hid,
    entity?_dispatchItems hreached.wired.1 hreached.sound.1 ns items hid⟩

/-- The header of a message in which a device speaks of a namespace. -/
def pushHeader (ns : Namespace) : Header where
  messageId := ""
  ns := ns.name
  method := .push
  payloadVersion := 1
  sender := ""
  timestamp := 0
  timestampMs := 0
  sign := ""
  triggerSrc := none

/-- A second outlet, which a plug did not advertise, is made by the item for it. -/
theorem dispatch_routes_plug : ∃ e,
    (dispatch (pushHeader .toggleX)
      (.obj [("togglex", .arr [.obj [("channel", .int 1), ("onoff", .int 1)]])])
      (Chronicle.start 0 .plug).device).device.entity? (.channel (.int 1)) = some e ∧
        e.kind = .switch ∧ e.power? = some true ∧ e.namespaces.contains .toggleX = true := by
  have hbuilt : Reached (fun _ _ => True) 0 .plug (.start 0 .plug) := .built
  have hknown : (pushHeader .toggleX).known? = some .toggleX := Namespace.ofName?_name .toggleX
  have hitems : Item.ofPayload .toggleX
      (.obj [("togglex", .arr [.obj [("channel", .int 1), ("onoff", .int 1)]])]) =
        .ok [⟨some (.int 1), .obj [("channel", .int 1), ("onoff", .int 1)]⟩] := rfl
  have hid : Namespace.toggleX = .thermostatMode →
      ∀ i ∈ [(⟨some (.int 1), .obj [("channel", .int 1), ("onoff", .int 1)]⟩ : Item)],
        ∀ c, i.channel = some c → EntityId.channel (.int 1) ∉ derivedIds c := fun h => by cases h
  have hroutes := dispatch_routes hbuilt.reachable hknown (by decide) (by decide) rfl hitems hid
  obtain ⟨e, he, hend⟩ := hroutes.2 (List.cons_ne_nil _ _)
  refine ⟨_, hend, ?_⟩
  cases he
  exact ⟨rfl, rfl, rfl⟩

end Device

end Appliance
