-- SUMMARY: The handlers of a device and the registrations of its entities say the same, wherever operations lead.

import Appliance.Proofs.Chronicle

namespace Appliance

/-! ## Handlers

A handler never keeps an empty list, and only namespaces of the device have
handlers. -/

namespace Dispatcher

/-- The handler of a namespace holds a list of ids for a channel. -/
def Lists (d : Dispatcher) (ns : Namespace) (c : Channel) (ids : List EntityId) : Prop :=
  ∃ routes, d.handlers.get? ns = some (.channels routes) ∧ routes.get? c = some ids

theorem targets_of_lists {d : Dispatcher} {ns : Namespace} {c : Channel} {ids : List EntityId}
    (h : d.Lists ns c ids) : d.targets ns c = ids := by
  obtain ⟨routes, hroutes, hids⟩ := h
  simp [targets, hroutes, Routes.targets, hids]

theorem lists_targets {d : Dispatcher} {ns : Namespace} {c : Channel} {id : EntityId}
    (h : id ∈ d.targets ns c) : d.Lists ns c (d.targets ns c) := by
  unfold targets at h ⊢
  split at h
  · rename_i routes hroutes
    refine ⟨routes, hroutes, ?_⟩
    unfold Routes.targets at h ⊢
    cases hids : routes.get? c with
    | none => simp [hids] at h
    | some ids => simp
  · cases h

/-- No channel of the routes has an empty list. -/
def Routes.Full (routes : Table Channel (List EntityId)) : Prop := ∀ c, routes.get? c ≠ some []

theorem Routes.Full.add {routes : Table Channel (List EntityId)} (h : Full routes)
    (channel : Channel) (id : EntityId) : Full (add routes channel id) := by
  intro c hc
  rw [Routes.add, Table.get?_insert] at hc
  split at hc
  · have hmem : id ∈ enlist id (targets routes channel) := mem_enlist.2 (.inr rfl)
    rw [Option.some.inj hc] at hmem
    cases hmem
  · exact h c hc

theorem Routes.Full.remove {routes : Table Channel (List EntityId)} (h : Full routes)
    (channel : Channel) (id : EntityId) : Full (remove routes channel id) := by
  unfold Routes.remove
  split
  · exact h
  · split
    · intro c hc
      rw [Table.get?_erase] at hc
      split at hc
      · cases hc
      · exact h c hc
    · rename_i hrest
      intro c hc
      rw [Table.get?_insert] at hc
      split at hc
      · exact hrest (Option.some.inj hc)
      · exact h c hc

end Dispatcher

def Handler.Full : Handler → Prop
  | .channels routes => Dispatcher.Routes.Full routes
  | .custom => True

namespace Dispatcher

/-- Every handler is one of a namespace of the device, and holds no empty list. -/
def Tidy (d : Dispatcher) : Prop :=
  ∀ ns h, d.handlers.get? ns = some h → d.supports ns = true ∧ h.Full

theorem Tidy.insert {d : Dispatcher} (h : d.Tidy) {ns : Namespace} {handler : Handler}
    (hs : d.supports ns = true) (hfull : handler.Full) :
    Tidy { d with handlers := d.handlers.insert ns handler } := by
  intro ns' h' hget
  rw [Table.get?_insert] at hget
  split at hget
  · rename_i hns
    obtain rfl : ns' = ns := by simpa using hns
    cases hget
    exact ⟨hs, hfull⟩
  · exact h ns' h' hget

theorem Tidy.full_routes? {d : Dispatcher} (h : d.Tidy) {ns : Namespace}
    {routes : Table Channel (List EntityId)} (hr : d.routes? ns = some routes) :
    Routes.Full routes := by
  unfold routes? at hr
  cases hh : d.handlers.get? ns with
  | none =>
    simp only [hh, Option.some.injEq] at hr
    subst hr
    intro c hc
    cases hc
  | some handler =>
    cases handler with
    | custom => simp [hh] at hr
    | channels old =>
      simp only [hh, Option.some.injEq] at hr
      subst hr
      exact (h ns _ hh).2

theorem Tidy.register {d : Dispatcher} (h : d.Tidy) (ns : Namespace) (id : EntityId) :
    (d.register ns id).2.Tidy := by
  unfold Dispatcher.register
  split
  · rename_i channel routes hs hc hr
    exact h.insert hs ((h.full_routes? hr).add channel id)
  · exact h

/-- A registration that succeeds lists one id more, and takes none out. -/
theorem mem_targets_register {d : Dispatcher} {ns ns' : Namespace} {id i : EntityId} {c : Channel}
    (hok : (d.register ns id).1 = true) :
    i ∈ (d.register ns id).2.targets ns' c ↔
      i ∈ d.targets ns' c ∨ ns' = ns ∧ id.channel? = some c ∧ i = id := by
  rw [targets_register, hok]
  split
  · rename_i hcond
    obtain ⟨-, rfl, hc⟩ := hcond
    simp [mem_enlist, hc]
  · rename_i hcond
    constructor
    · exact .inl
    · rintro (hi | ⟨rfl, hc, rfl⟩)
      · exact hi
      · exact absurd ⟨rfl, rfl, hc⟩ hcond

theorem Tidy.unregister {d : Dispatcher} (h : d.Tidy) (ns : Namespace) (id : EntityId) :
    (d.unregister ns id).Tidy := by
  unfold Dispatcher.unregister
  split
  · rename_i routes channel hh hc
    obtain ⟨hs, hfull⟩ := h ns _ hh
    exact h.insert hs (Routes.Full.remove hfull channel id)
  · exact h

theorem Tidy.registerCustom {d : Dispatcher} (h : d.Tidy) (ns : Namespace) :
    (d.registerCustom ns).2.Tidy := by
  unfold Dispatcher.registerCustom
  split
  · rename_i hs
    exact h.insert hs trivial
  · exact h

theorem Tidy.ne_nil {d : Dispatcher} (h : d.Tidy) {ns : Namespace} {c : Channel}
    {ids : List EntityId} (hl : d.Lists ns c ids) : ids ≠ [] := by
  obtain ⟨routes, hroutes, hids⟩ := hl
  rintro rfl
  exact (h ns _ hroutes).2 c hids

/-! ### Taking back all registrations of an id -/

/-- The dispatcher after an id is taken out of several namespaces. -/
def without (d : Dispatcher) (nss : List Namespace) (id : EntityId) : Dispatcher :=
  nss.foldl (fun d ns => d.unregister ns id) d

theorem Tidy.without {d : Dispatcher} (h : d.Tidy) (nss : List Namespace) (id : EntityId) :
    (d.without nss id).Tidy :=
  List.foldlRecOn nss _ h fun _ h ns _ => h.unregister ns id

theorem ability_unregister (d : Dispatcher) (ns : Namespace) (id : EntityId) :
    (d.unregister ns id).ability = d.ability := by
  unfold unregister
  split <;> rfl

theorem ability_without (d : Dispatcher) (nss : List Namespace) (id : EntityId) :
    (d.without nss id).ability = d.ability :=
  List.foldlRecOn (motive := fun d' => d'.ability = d.ability) nss _ rfl fun d' h ns _ =>
    (ability_unregister d' ns id).trans h

theorem targets_without (d : Dispatcher) (nss : List Namespace) (id : EntityId) (ns : Namespace)
    (c : Channel) :
    (d.without nss id).targets ns c =
      if ns ∈ nss ∧ id.channel? = some c then (d.targets ns c).filter (· ≠ id)
      else d.targets ns c := by
  induction nss generalizing d with
  | nil => simp [without]
  | cons n nss ih =>
    change ((d.unregister n id).without nss id).targets ns c = _
    rw [ih, targets_unregister]
    by_cases hc : id.channel? = some c <;> by_cases hns : ns = n <;>
      by_cases hmem : ns ∈ nss <;> simp_all [List.filter_filter]

end Dispatcher

/-! ## Registrations

An entity knows the namespaces that it is registered for; the handlers know
the ids. The two must say the same. -/

namespace Device

/-- The entity with an id is there and registered for a namespace. -/
def Registered (d : Device) (ns : Namespace) (id : EntityId) : Prop :=
  ∃ e, d.entity? id = some e ∧ e.namespaces.contains ns = true

structure Wired (d : Device) : Prop where
  stored : ∀ id e, d.entity? id = some e → e.id = id
  ability : d.dispatcher.ability = d.descriptor.ability
  tidy : d.dispatcher.Tidy
  nodup : ∀ ns c, (d.dispatcher.targets ns c).Nodup
  mem_targets : ∀ {ns c id}, id ∈ d.dispatcher.targets ns c ↔
    id.channel? = some c ∧ d.Registered ns id
  reached : ∀ {ns id}, d.Registered ns id → ∃ c, id.channel? = some c

/-! ### Moves -/

/-- Where the handlers and the registrations stay as they are, so does what they say. -/
private theorem Wired.congr {d d' : Device} (h : d.Wired)
    (hdispatcher : d'.dispatcher = d.dispatcher)
    (hability : d'.descriptor.ability = d.descriptor.ability)
    (hstored : ∀ id e, d'.entity? id = some e → e.id = id)
    (hregistered : ∀ ns id, d'.Registered ns id ↔ d.Registered ns id) : d'.Wired where
  stored := hstored
  ability := by rw [hdispatcher, hability, h.ability]
  tidy := hdispatcher ▸ h.tidy
  nodup ns c := by
    rw [hdispatcher]
    exact h.nodup ns c
  mem_targets {ns c id} := by rw [hdispatcher, hregistered, h.mem_targets]
  reached {ns id} hr := h.reached ((hregistered ns id).1 hr)

theorem Wired.edit {d : Device} (h : d.Wired) (hs : d.Sound) (id : EntityId) (op : EntityOp) :
    ((DeviceMove.edit id op).run d).device.Wired := by
  have hentity : ∀ i, ((DeviceMove.edit id op).run d).device.entity? i =
      if i = id then (d.entity? id).map fun e => (op.run e).entity else d.entity? i := fun i => by
    rw [DeviceMove.run, device_change, entity?_update]
  refine h.congr ?_ ?_ (fun i e he => ?_) fun ns i => ?_
  · exact (keeps_change op.run id d).dispatcher
  · exact congrArg Descriptor.ability (keeps_change op.run id d).descriptor
  · rw [hentity] at he
    split at he
    · rename_i hi
      subst hi
      obtain ⟨e', he', rfl⟩ := Option.map_eq_some_iff.1 he
      rw [EntityOp.id_run op (hs i e' he'), h.stored i e' he']
    · exact h.stored i e he
  · unfold Registered
    rw [hentity]
    split
    · rename_i hi
      subst hi
      cases he : d.entity? i with
      | none => simp
      | some e => simp [EntityOp.namespaces_run op (hs i e he)]
    · rfl

theorem descriptor_insert (d : Device) (e : Entity) : (d.insert e).descriptor = d.descriptor := by
  unfold Device.insert add
  split <;> rename_i heq <;> split at heq <;> cases heq <;> rfl

theorem dispatcher_insert (d : Device) (e : Entity) : (d.insert e).dispatcher = d.dispatcher := by
  unfold Device.insert add
  split <;> rename_i heq <;> split at heq <;> cases heq <;> rfl

/-- What is added is not registered yet. -/
theorem registered_insert {d : Device} {e : Entity} (he : e.namespaces = .empty) {ns : Namespace}
    {id : EntityId} : (d.insert e).Registered ns id ↔ d.Registered ns id := by
  unfold Registered
  rw [entity?_insert]
  split
  · rename_i hi
    obtain ⟨hfree, rfl⟩ := hi
    simp [hfree, he, Table.contains]
  · rfl

theorem Wired.insert {d : Device} (h : d.Wired) {e : Entity} (he : e.namespaces = .empty) :
    (d.insert e).Wired := by
  refine h.congr (dispatcher_insert d e) (by rw [descriptor_insert]) (fun i e' he' => ?_)
    fun ns i => registered_insert he
  rw [entity?_insert] at he'
  split at he'
  · rename_i hi
    cases he'
    exact hi.2.symm
  · exact h.stored i e' he'

/-- A registration that succeeds shows in the dispatcher and at the entity. -/
theorem register_spec (d : Device) (ns : Namespace) (id : EntityId) :
    ((d.register ns id).1 = false ∧ (d.register ns id).2 = d) ∨
      ((d.register ns id).1 = true ∧ (∃ e, d.entity? id = some e) ∧
        (∃ c, id.channel? = some c) ∧ (d.dispatcher.register ns id).1 = true ∧
        (d.register ns id).2.descriptor = d.descriptor ∧
        (d.register ns id).2.dispatcher = (d.dispatcher.register ns id).2) := by
  unfold register
  cases he : d.entity? id with
  | none => simp
  | some e =>
    rcases hr : d.dispatcher.register ns id with ⟨_ | _, dispatcher⟩
    · simp
    · refine .inr ⟨rfl, ⟨e, rfl⟩, ?_, rfl, rfl, rfl⟩
      unfold Dispatcher.register at hr
      split at hr
      · rename_i channel routes hs hc hroutes
        exact ⟨channel, hc⟩
      · cases hr

theorem registered_register (d : Device) (ns ns' : Namespace) (id id' : EntityId) :
    (d.register ns id).2.Registered ns' id' ↔
      d.Registered ns' id' ∨ ((d.register ns id).1 = true ∧ ns' = ns ∧ id' = id) := by
  unfold Registered
  rw [entity?_register]
  rcases register_spec d ns id with ⟨hr, -⟩ | ⟨hr, ⟨e, he⟩, -⟩
  · simp [hr]
  · rw [hr, he]
    by_cases hid : id' = id
    · subst hid
      by_cases hns : ns' = ns <;> simp [he, Table.contains, Table.get?_insert, hns]
    · simp [hid]

theorem Wired.register {d : Device} (h : d.Wired) (ns : Namespace) (id : EntityId) :
    (d.register ns id).2.Wired := by
  rcases register_spec d ns id with
    ⟨-, hsame⟩ | ⟨hr, ⟨e, he⟩, ⟨c₀, hc₀⟩, hok, hdescriptor, hdispatcher⟩
  · rw [hsame]
    exact h
  · have hregistered := fun ns' id' => registered_register d ns ns' id id'
    simp only [hr, true_and] at hregistered
    refine ⟨fun i e' he' => ?_, ?_, ?_, fun ns' c => ?_, fun {ns' c i} => ?_, fun {ns' i} hri => ?_⟩
    · rw [entity?_register] at he'
      split at he'
      · rename_i hi
        obtain ⟨-, rfl⟩ := hi
        obtain ⟨e, he, rfl⟩ := Option.map_eq_some_iff.1 he'
        exact h.stored i e he
      · exact h.stored i e' he'
    · rw [hdispatcher, hdescriptor, ← h.ability]
      unfold Dispatcher.register
      split <;> rfl
    · rw [hdispatcher]
      exact h.tidy.register ns id
    · rw [hdispatcher, Dispatcher.targets_register]
      split
      · exact Dispatcher.nodup_enlist (h.nodup ns c)
      · exact h.nodup ns' c
    · rw [hdispatcher, Dispatcher.mem_targets_register hok, hregistered, h.mem_targets]
      constructor
      · rintro (⟨hi, hreg⟩ | ⟨rfl, hc, rfl⟩)
        · exact ⟨hi, .inl hreg⟩
        · exact ⟨hc, .inr ⟨rfl, rfl⟩⟩
      · rintro ⟨hi, hreg | ⟨rfl, rfl⟩⟩
        · exact .inl ⟨hi, hreg⟩
        · exact .inr ⟨rfl, hi, rfl⟩
    · rcases (hregistered ns' i).1 hri with hreg | ⟨-, rfl⟩
      · exact h.reached hreg
      · exact ⟨c₀, hc₀⟩

theorem registered_remove (d : Device) (ns : Namespace) (id id' : EntityId) :
    (d.remove id).2.Registered ns id' ↔ id' ≠ id ∧ d.Registered ns id' := by
  unfold Registered
  rw [entity?_remove]
  by_cases h : id' = id <;> simp [h]

theorem descriptor_remove (d : Device) (id : EntityId) :
    (d.remove id).2.descriptor = d.descriptor := by
  unfold remove
  split <;> rfl

theorem dispatcher_remove (d : Device) (id : EntityId) :
    (d.remove id).2.dispatcher =
      d.dispatcher.without (((d.entity? id).map (·.namespaces.keys)).getD []) id := by
  unfold remove
  split <;> rename_i he <;> simp [he, Dispatcher.without]

/-- Removing an entity takes its id out of every list. -/
theorem targets_remove {d : Device} (h : d.Wired) (id : EntityId) (ns : Namespace) (c : Channel) :
    (d.remove id).2.dispatcher.targets ns c = (d.dispatcher.targets ns c).filter (· ≠ id) := by
  rw [dispatcher_remove, Dispatcher.targets_without]
  split
  · rfl
  · rename_i hnot
    symm
    rw [List.filter_eq_self]
    intro i hi
    simp only [decide_eq_true_eq]
    rintro rfl
    obtain ⟨hc, e, he, hns⟩ := h.mem_targets.1 hi
    refine hnot ⟨?_, hc⟩
    rw [he, Option.map_some, Option.getD_some]
    obtain ⟨u, hu⟩ := Option.isSome_iff_exists.1 hns
    exact List.mem_map.2 ⟨(ns, u), Table.mem_entries_iff.2 hu, rfl⟩

theorem Wired.remove {d : Device} (h : d.Wired) (id : EntityId) : (d.remove id).2.Wired where
  stored i e he := by
    rw [entity?_remove] at he
    split at he
    · cases he
    · exact h.stored i e he
  ability := by
    rw [descriptor_remove, dispatcher_remove, Dispatcher.ability_without, h.ability]
  tidy := by
    rw [dispatcher_remove]
    exact h.tidy.without _ id
  nodup ns c := by
    rw [targets_remove h]
    exact (h.nodup ns c).filter _
  mem_targets {ns c i} := by
    rw [targets_remove h, registered_remove, List.mem_filter, h.mem_targets]
    simp only [decide_eq_true_eq]
    constructor
    · rintro ⟨⟨hc, hreg⟩, hne⟩
      exact ⟨hc, hne, hreg⟩
    · rintro ⟨hc, hne, hreg⟩
      exact ⟨⟨hc, hreg⟩, hne⟩
  reached {ns i} hreg := h.reached ((registered_remove d ns id i).1 hreg).2

/-- Every move leaves the two sides of the registry in agreement. -/
theorem Wired.move {d : Device} (h : d.Wired) (hs : d.Sound) {m : DeviceMove}
    (hm : Scope.any.Allows d m) : (m.run d).device.Wired := by
  cases m with
  | edit id op => exact h.edit hs id op
  | insert e => exact h.insert (Entity.Loose.namespaces hm)
  | register ns id => exact h.register ns id
  | remove id => exact h.remove id
  | keepDigest digest => exact h.congr rfl rfl h.stored fun _ _ => Iff.rfl
  | warn w => exact h
  | send r => exact h

theorem Wired.trace {d d' : Device} {es : List Event} (h : d.Wired) (hs : d.Sound)
    (ht : Trace .any d es d') : d'.Wired :=
  (ht.invariant (I := fun d => d.Sound ∧ d.Wired) (fun _ m hd hm =>
    ⟨hd.1.trace (Trace.move m hm), hd.2.move hd.1 hm⟩) ⟨hs, h⟩).2

/-- No move touches what the device advertises itself to have. -/
theorem ability_move (m : DeviceMove) (d : Device) :
    (m.run d).device.descriptor.ability = d.descriptor.ability := by
  cases m with
  | edit id op => exact congrArg Descriptor.ability (keeps_change op.run id d).descriptor
  | insert e => exact congrArg Descriptor.ability (descriptor_insert d e)
  | register ns id =>
    rcases register_spec d ns id with ⟨-, hsame⟩ | ⟨-, -, -, -, hdescriptor, -⟩
    · exact congrArg (fun d => d.descriptor.ability) hsame
    · exact congrArg Descriptor.ability hdescriptor
  | remove id => exact congrArg Descriptor.ability (descriptor_remove d id)
  | keepDigest _ | warn _ | send _ => rfl

/-! ### Building -/

theorem wired_blank (descriptor : Descriptor) (mask : UInt8) : (blank descriptor mask).Wired where
  stored id e he := by cases he
  ability := rfl
  tidy ns h hget := by cases hget
  nodup ns c := List.nodup_nil
  mem_targets {ns c id} := by
    refine iff_of_false List.not_mem_nil ?_
    rintro ⟨-, e, he, -⟩
    cases he
  reached {ns id} := by
    rintro ⟨e, he, -⟩
    cases he

/-- Nothing is registered for the namespaces that have readers of their own. -/
def Apart (d : Device) : Prop :=
  ∀ ns ∈ [Namespace.diffuserSensor, .sensorLatest, .sensorLatestX], ∀ id, ¬d.Registered ns id

theorem Wired.join {d : Device} (h : d.Wired) (hapart : d.Apart) {m : Member}
    (hm : SaneMember m) : (d.join m).Wired ∧ (d.join m).Apart := by
  have hinsert : (d.insert m.entity).Wired := h.insert hm.made.namespaces
  have hstill : (d.insert m.entity).Apart := fun ns hns id hreg =>
    hapart ns hns id ((registered_insert hm.made.namespaces).1 hreg)
  unfold Device.join
  cases hns : m.ns with
  | none => exact ⟨hinsert, hstill⟩
  | some ns =>
    refine ⟨hinsert.register ns m.entity.id, fun ns' hns' id hreg => ?_⟩
    rcases (registered_register _ ns ns' m.entity.id id).1 hreg with hreg | ⟨-, rfl, -⟩
    · exact hstill ns' hns' id hreg
    · exact hm.ns ns' hns hns'

theorem Wired.readApart {d : Device} (h : d.Wired) (hapart : d.Apart) {ns : Namespace}
    (hns : ns ∈ [Namespace.diffuserSensor, .sensorLatest, .sensorLatestX]) :
    (d.readApart ns).Wired where
  stored := h.stored
  ability := by
    rw [← show d.descriptor.ability = (d.readApart ns).descriptor.ability from rfl, ← h.ability]
    unfold Device.readApart Dispatcher.registerCustom
    split <;> rfl
  tidy := h.tidy.registerCustom ns
  nodup ns' c := by
    change ((d.dispatcher.registerCustom ns).2.targets ns' c).Nodup
    rw [Dispatcher.targets_registerCustom]
    split
    · exact List.nodup_nil
    · exact h.nodup ns' c
  mem_targets {ns' c id} := by
    change id ∈ (d.dispatcher.registerCustom ns).2.targets ns' c ↔ _ ∧ d.Registered ns' id
    rw [Dispatcher.targets_registerCustom]
    split
    · rename_i hcond
      obtain ⟨-, rfl⟩ := hcond
      exact iff_of_false List.not_mem_nil fun hreg => hapart ns' hns id hreg.2
    · exact h.mem_targets
  reached hreg := h.reached hreg

theorem wired_furnish (mask : UInt8) (descriptor : Descriptor) :
    (furnish mask descriptor).Wired := by
  refine (furnish_invariant (I := fun d => d.Wired ∧ d.Apart) ?_ ?_ ?_).1
  · refine ⟨wired_blank descriptor mask, fun ns _ id => ?_⟩
    rintro ⟨e, he, -⟩
    cases he
  · intro d m hm hd
    exact hd.1.join hd.2 hm
  · intro d ns hns hd
    exact ⟨hd.1.readApart hd.2 hns, hd.2⟩

end Device

/-! ## Coherence -/

namespace Device

/-- The two sides of the registry agree, over the namespaces of an ability. -/
structure Coherent (ability : Table Namespace Unit) (d : Device) : Prop where
  /-- Every entity is stored under its own id. -/
  stored : ∀ id e, d.entity? id = some e → e.id = id
  /-- What handlers list is there, and registered for their namespace. -/
  listed : ∀ ns c ids, d.dispatcher.Lists ns c ids →
    ids ≠ [] ∧ ids.Nodup ∧ ∀ id ∈ ids, id.channel? = some c ∧ d.Registered ns id
  /-- What is registered is listed on its channel. -/
  registered : ∀ ns id, d.Registered ns id →
    ∃ c ids, id.channel? = some c ∧ d.dispatcher.Lists ns c ids ∧ id ∈ ids
  /-- Only namespaces of the ability have handlers. -/
  supported : ∀ ns h, d.dispatcher.handlers.get? ns = some h → ability.contains ns = true

theorem Wired.coherent {d : Device} (h : d.Wired) : d.Coherent d.descriptor.ability where
  stored := h.stored
  listed ns c ids hl := by
    have htargets := Dispatcher.targets_of_lists hl
    refine ⟨h.tidy.ne_nil hl, htargets ▸ h.nodup ns c, fun id hid => ?_⟩
    rw [← htargets] at hid
    exact h.mem_targets.1 hid
  registered ns id hreg := by
    obtain ⟨c, hc⟩ := h.reached hreg
    have hmem : id ∈ d.dispatcher.targets ns c := h.mem_targets.2 ⟨hc, hreg⟩
    exact ⟨c, _, hc, Dispatcher.lists_targets hmem, hmem⟩
  supported ns handler hget := by
    rw [← h.ability]
    exact (h.tidy ns handler hget).1

theorem entity?_shutdown (d : Device) (id : EntityId) : d.shutdown.entity? id = none := by
  have hfold : ∀ (ids : List EntityId) (d : Device),
      (ids.foldl (fun d id => (d.remove id).2) d).entity? id =
        if id ∈ ids then none else d.entity? id := by
    intro ids
    induction ids with
    | nil => simp
    | cons i ids ih =>
      intro d
      rw [List.foldl_cons, ih, entity?_remove]
      by_cases hi : id = i <;> simp [hi]
  unfold shutdown
  rw [hfold]
  split
  · rfl
  · rename_i hid
    rw [mem_keys_iff] at hid
    exact Option.eq_none_iff_forall_ne_some.2 fun e he => hid ⟨e, he⟩

end Device

/-- A plug with one outlet, which is on. -/
def Descriptor.plug : Descriptor where
  uuid := "plug"
  ability := .ofKeys [.toggleX]
  digest := .obj [("togglex", .arr [.obj [("channel", .int 0), ("onoff", .int 1)]])]

/-- What a plug is told of its outlet is in order. -/
theorem wellFormed_outlet (on : Int) :
    (Json.obj [("channel", .int 0), ("onoff", .int on)]).WellFormed := by
  refine Json.WellFormed.obj.2 ⟨?_, ?_⟩
  · have horder : compare "channel" "onoff" = .lt := by decide
    exact List.pairwise_pair.2 horder
  · simp [Json.WellFormed]

namespace Reached

variable {fit : Transport → Operation → Prop} {mask : UInt8} {descriptor : Descriptor}
  {c : Chronicle}

theorem wired (h : Reached fit mask descriptor c) :
    c.device.Wired ∧ c.device.descriptor.ability = descriptor.ability := by
  refine h.invariant (I := fun d => d.Wired ∧ d.descriptor.ability = descriptor.ability) ?_ ?_
  · refine ⟨Device.wired_furnish mask descriptor, ?_⟩
    refine Device.furnish_invariant (I := fun d => d.descriptor.ability = descriptor.ability) rfl
      (fun d m hm hd => ?_) fun d ns _ hd => hd
    have htrace : Trace .any d [] (d.join m) := Device.trace_join hm.made.loose d
    exact htrace.invariant (fun d m hd _ => (Device.ability_move m d).trans hd) hd
  · intro d m hs hd hm
    exact ⟨hd.1.move hs hm, (Device.ability_move m d).trans hd.2⟩

/-- Wherever operations lead, handlers and registrations agree. What is removed
    is listed nowhere any more, and after a shutdown nothing is. -/
theorem registry_coherent (h : Reached fit mask descriptor c) :
    c.device.Coherent descriptor.ability ∧
      (∀ t id ns ch ids,
        ((Operation.remove id).run t c.device).device.dispatcher.Lists ns ch ids → id ∉ ids) ∧
      ∀ t ns ch ids, ¬(Operation.shutdown.run t c.device).device.dispatcher.Lists ns ch ids := by
  obtain ⟨hwired, hability⟩ := h.wired
  refine ⟨hability ▸ hwired.coherent, ?_, ?_⟩
  · intro t id ns ch ids hl hid
    have hremoved : (c.device.remove id).2.Coherent _ := (hwired.remove id).coherent
    obtain ⟨-, hreg⟩ := (hremoved.listed ns ch ids hl).2.2 id hid
    exact ((Device.registered_remove c.device ns id id).1 hreg).1 rfl
  · intro t ns ch ids hl
    have hshut : c.device.shutdown.Wired :=
      List.foldlRecOn _ _ hwired fun d hd id _ => hd.remove id
    obtain ⟨hne, -, hids⟩ := hshut.coherent.listed ns ch ids hl
    obtain ⟨id, hid⟩ := List.exists_mem_of_ne_nil ids hne
    obtain ⟨-, e, he, -⟩ := hids id hid
    rw [Device.entity?_shutdown] at he
    cases he

/-- The outlet of a plug is listed until it is taken out. -/
theorem registry_coherent_plug :
    (Chronicle.start 0 .plug).device.dispatcher.Lists .toggleX (.int 0) [.channel (.int 0)] ∧
      (∀ t ids, ¬((Operation.remove (.channel (.int 0))).run t
        (Chronicle.start 0 .plug).device).device.dispatcher.Lists .toggleX (.int 0)
          (.channel (.int 0) :: ids)) := by
  have hbuilt : Reached (fun _ _ => True) 0 .plug (.start 0 .plug) := .built
  have hcoherent := registry_coherent hbuilt
  refine ⟨⟨_, rfl, rfl⟩, fun t ids hl => ?_⟩
  exact hcoherent.2.1 t _ _ _ _ hl (List.mem_cons_self ..)

end Reached

end Appliance
