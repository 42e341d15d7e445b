-- SUMMARY: The dispatcher: which entities the items of a namespace go to, channel by channel.

import Appliance.Identity
import Appliance.Namespace

namespace Appliance

/-! ## Handlers -/

/-- What happens to the payloads of a namespace. -/
inductive Handler where
  /-- Items go to the entities registered for their channel, in the order of
      their registration. -/
  | channels (routes : Table Channel (List EntityId))
  /-- The payload is not made of items and has a reader of its own. -/
  | custom
deriving Inhabited

/-- Who an item goes to. -/
inductive Lookup where
  | found (ids : List EntityId)
  | notFound (policy : CreatePolicy)
deriving DecidableEq, Repr, Inhabited

/-- The handlers of a device, and the namespaces it can have them for. -/
structure Dispatcher where
  ability : Table Namespace Unit
  handlers : Table Namespace Handler
deriving Inhabited

/-! ## Registration -/

namespace Dispatcher

/-- A dispatcher without handlers. -/
def ofAbility (ability : Table Namespace Unit) : Dispatcher := ⟨ability, .empty⟩

/-- The device has the namespace. -/
def supports (d : Dispatcher) (ns : Namespace) : Bool := d.ability.contains ns

/-- The ids with one more at the end, unless it is among them. -/
def enlist (id : EntityId) (ids : List EntityId) : List EntityId :=
  if ids.contains id then ids else ids ++ [id]

theorem mem_enlist {id id' : EntityId} {ids : List EntityId} :
    id' ∈ enlist id ids ↔ id' ∈ ids ∨ id' = id := by
  unfold enlist
  split <;> simp_all

theorem nodup_enlist {id : EntityId} {ids : List EntityId} (h : ids.Nodup) :
    (enlist id ids).Nodup := by
  unfold enlist
  split
  · exact h
  · rename_i hnot
    rw [List.contains_iff_mem] at hnot
    refine List.nodup_append.2 ⟨h, by simp, fun a ha b hb => ?_⟩
    rintro rfl
    exact hnot (List.mem_singleton.1 hb ▸ ha)

/-- The ids that routes have for a channel. -/
def Routes.targets (routes : Table Channel (List EntityId)) (channel : Channel) :
    List EntityId :=
  (routes.get? channel).getD []

/-- The routes with an id on its channel. -/
def Routes.add (routes : Table Channel (List EntityId)) (channel : Channel) (id : EntityId) :
    Table Channel (List EntityId) :=
  routes.insert channel (enlist id (targets routes channel))

/-- The routes without an id on its channel. A channel without ids is dropped. -/
def Routes.remove (routes : Table Channel (List EntityId)) (channel : Channel) (id : EntityId) :
    Table Channel (List EntityId) :=
  match routes.get? channel with
  | none => routes
  | some ids =>
    match ids.filter (· ≠ id) with
    | [] => routes.erase channel
    | rest => routes.insert channel rest

theorem Routes.targets_add (routes : Table Channel (List EntityId)) (channel c : Channel)
    (id : EntityId) :
    targets (add routes channel id) c =
      if c = channel then enlist id (targets routes channel) else targets routes c := by
  by_cases h : c = channel <;> simp [targets, add, Table.get?_insert, h]

theorem Routes.targets_remove (routes : Table Channel (List EntityId)) (channel c : Channel)
    (id : EntityId) :
    targets (remove routes channel id) c =
      if c = channel then (targets routes channel).filter (· ≠ id) else targets routes c := by
  unfold remove
  split <;> rename_i hroutes
  · by_cases h : c = channel <;> simp [targets, h, hroutes]
  · split <;> rename_i hrest
    · by_cases h : c = channel
      · simpa [targets, h, hroutes, Table.get?_erase] using hrest
      · simp [targets, h, Table.get?_erase]
    · by_cases h : c = channel <;> simp [targets, Table.get?_insert, h, hroutes]

/-- The routes that an id could be added to; a custom reader leaves none. -/
def routes? (d : Dispatcher) (ns : Namespace) : Option (Table Channel (List EntityId)) :=
  match d.handlers.get? ns with
  | none => some .empty
  | some (.channels routes) => some routes
  | some .custom => none

/-- Registers an id for the items of a namespace on its channel. Tells whether
    it is registered: the device must have the namespace, the id a channel,
    and the namespace no reader of its own. -/
def register (d : Dispatcher) (ns : Namespace) (id : EntityId) : Bool × Dispatcher :=
  match d.supports ns, id.channel?, d.routes? ns with
  | true, some channel, some routes =>
    (true, { d with handlers := d.handlers.insert ns (.channels (Routes.add routes channel id)) })
  | _, _, _ => (false, d)

/-- Gives a namespace a reader of its own, in place of all registrations. -/
def registerCustom (d : Dispatcher) (ns : Namespace) : Bool × Dispatcher :=
  if d.supports ns then (true, { d with handlers := d.handlers.insert ns .custom })
  else (false, d)

/-- Takes back a registration, if there is one. -/
def unregister (d : Dispatcher) (ns : Namespace) (id : EntityId) : Dispatcher :=
  match d.handlers.get? ns, id.channel? with
  | some (.channels routes), some channel =>
    { d with handlers := d.handlers.insert ns (.channels (Routes.remove routes channel id)) }
  | _, _ => d

/-- The namespace has a reader of its own. -/
def isCustom (d : Dispatcher) (ns : Namespace) : Bool :=
  match d.handlers.get? ns with
  | some .custom => true
  | _ => false

/-- The ids that are registered for a channel. -/
def targets (d : Dispatcher) (ns : Namespace) (channel : Channel) : List EntityId :=
  match d.handlers.get? ns with
  | some (.channels routes) => Routes.targets routes channel
  | _ => []

/-- Who the items of a namespace for a channel go to. -/
def lookup (d : Dispatcher) (ns : Namespace) (channel : Channel) : Lookup :=
  match d.targets ns channel with
  | [] => .notFound ns.policy
  | ids => .found ids

/-! ## Who is registered -/

theorem targets_of_routes? {d : Dispatcher} {ns : Namespace}
    {routes : Table Channel (List EntityId)} (h : d.routes? ns = some routes) (c : Channel) :
    d.targets ns c = Routes.targets routes c := by
  unfold routes? at h
  unfold targets
  cases hh : d.handlers.get? ns with
  | none =>
    simp only [hh, Option.some.injEq] at h
    subst h
    rfl
  | some k => cases k <;> simp_all

/-- Only a registration that succeeds changes anything, and only for its own
    namespace and channel. -/
theorem targets_register (d : Dispatcher) (ns ns' : Namespace) (id : EntityId) (c : Channel) :
    (d.register ns id).2.targets ns' c =
      if (d.register ns id).1 = true ∧ ns' = ns ∧ id.channel? = some c then
        enlist id (d.targets ns c)
      else d.targets ns' c := by
  unfold register
  split
  · rename_i channel routes hs hc hr
    by_cases hns : ns' = ns
    · subst hns
      have hnew : (Dispatcher.mk d.ability
          (d.handlers.insert ns' (.channels (Routes.add routes channel id)))).targets ns' c =
          Routes.targets (Routes.add routes channel id) c := by
        simp [targets]
      rw [hnew, Routes.targets_add, hc, ← targets_of_routes? hr, ← targets_of_routes? hr]
      by_cases h : c = channel <;> simp [h, eq_comm]
    · simp [targets, Table.get?_insert, hns]
  · simp

/-- Taking a registration back concerns its own namespace and channel alone. -/
theorem targets_unregister (d : Dispatcher) (ns ns' : Namespace) (id : EntityId) (c : Channel) :
    (d.unregister ns id).targets ns' c =
      if ns' = ns ∧ id.channel? = some c then (d.targets ns c).filter (· ≠ id)
      else d.targets ns' c := by
  unfold unregister
  split
  · rename_i routes channel hh hc
    by_cases hns : ns' = ns
    · subst hns
      have hold : d.targets ns' c = Routes.targets routes c := by simp [targets, hh]
      have hnew : (Dispatcher.mk d.ability
          (d.handlers.insert ns' (.channels (Routes.remove routes channel id)))).targets ns' c =
          Routes.targets (Routes.remove routes channel id) c := by
        simp [targets]
      rw [hnew, Routes.targets_remove, hc, hold]
      by_cases h : c = channel <;> simp [h, eq_comm]
    · simp [targets, Table.get?_insert, hns]
  · rename_i hnone
    by_cases h : ns' = ns ∧ id.channel? = some c
    · obtain ⟨rfl, hc⟩ := h
      have hempty : d.targets ns' c = [] := by
        unfold targets
        split
        · rename_i routes hh
          exact (hnone routes c hh hc).elim
        · rfl
      simp [hempty, hc]
    · simp [h]

/-- A reader of its own takes the items of its namespace from all entities. -/
theorem targets_registerCustom (d : Dispatcher) (ns ns' : Namespace) (c : Channel) :
    (d.registerCustom ns).2.targets ns' c =
      if d.supports ns = true ∧ ns' = ns then [] else d.targets ns' c := by
  unfold registerCustom
  by_cases hs : d.supports ns <;> by_cases hns : ns' = ns <;>
    simp [targets, Table.get?_insert, hs, hns]

@[simp] theorem supports_register (d : Dispatcher) (ns ns' : Namespace) (id : EntityId) :
    (d.register ns id).2.supports ns' = d.supports ns' := by
  unfold register
  split <;> rfl

@[simp] theorem supports_unregister (d : Dispatcher) (ns ns' : Namespace) (id : EntityId) :
    (d.unregister ns id).supports ns' = d.supports ns' := by
  unfold unregister
  split <;> rfl

@[simp] theorem supports_registerCustom (d : Dispatcher) (ns ns' : Namespace) :
    (d.registerCustom ns).2.supports ns' = d.supports ns' := by
  unfold registerCustom
  split <;> rfl

end Dispatcher

end Appliance
