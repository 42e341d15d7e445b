-- SUMMARY: Which namespaces have a reader of their own, and that this never changes.

import Appliance.Proofs.Routing

namespace Appliance

/-! ## Readers in the dispatcher

A reader of its own takes the place of all registrations. Registering an
entity for such a namespace fails, so that a reader is never lost again. -/

namespace Dispatcher

theorem isCustom_insert (s : Dispatcher) (ns ns' : Namespace) (handler : Handler) :
    isCustom { s with handlers := s.handlers.insert ns' handler } ns =
      if ns = ns' then (match handler with | .custom => true | .channels _ => false)
      else s.isCustom ns := by
  unfold isCustom
  rw [Table.get?_insert]
  by_cases hns : ns = ns'
  · cases handler <;> simp [hns]
  · simp [hns]

theorem isCustom_of_channels {s : Dispatcher} {ns : Namespace}
    {routes : Table Channel (List EntityId)} (h : s.handlers.get? ns = some (.channels routes)) :
    s.isCustom ns = false := by
  unfold isCustom
  rw [h]

/-- An id can be added wherever there is no reader. -/
theorem isSome_routes? (s : Dispatcher) (ns : Namespace) :
    (s.routes? ns).isSome = !s.isCustom ns := by
  unfold routes? isCustom
  cases s.handlers.get? ns with
  | none => rfl
  | some handler => cases handler <;> rfl

theorem isCustom_of_routes? {s : Dispatcher} {ns : Namespace}
    {routes : Table Channel (List EntityId)} (h : s.routes? ns = some routes) :
    s.isCustom ns = false := by
  have hsome := isSome_routes? s ns
  rw [h] at hsome
  simpa using hsome.symm

theorem isCustom_register (s : Dispatcher) (ns ns' : Namespace) (id : EntityId) :
    (s.register ns' id).2.isCustom ns = s.isCustom ns := by
  unfold register
  split
  · rename_i c routes _ _ hroutes
    rw [isCustom_insert]
    split
    · rename_i hns
      rw [hns, isCustom_of_routes? hroutes]
    · rfl
  · rfl

theorem isCustom_unregister (s : Dispatcher) (ns ns' : Namespace) (id : EntityId) :
    (s.unregister ns' id).isCustom ns = s.isCustom ns := by
  unfold unregister
  split
  · rename_i routes c hroutes _
    rw [isCustom_insert]
    split
    · rename_i hns
      rw [hns, isCustom_of_channels hroutes]
    · rfl
  · rfl

theorem isCustom_without (s : Dispatcher) (nss : List Namespace) (id : EntityId) (ns : Namespace) :
    (s.without nss id).isCustom ns = s.isCustom ns :=
  List.foldlRecOn (motive := fun s' => s'.isCustom ns = s.isCustom ns) nss _ rfl
    fun s' h ns' _ => (isCustom_unregister s' ns ns' id).trans h

theorem isCustom_registerCustom (s : Dispatcher) (ns ns' : Namespace) :
    (s.registerCustom ns').2.isCustom ns =
      (s.isCustom ns || (decide (ns = ns') && s.supports ns)) := by
  unfold registerCustom
  by_cases hns : ns = ns'
  · subst hns
    cases s.supports ns <;> simp [isCustom_insert]
  · cases s.supports ns' <;> simp [isCustom_insert, hns]

end Dispatcher

/-! ## Readers of a device -/

namespace Device

theorem isCustom_move (m : DeviceMove) (d : Device) (ns : Namespace) :
    (m.run d).device.dispatcher.isCustom ns = d.dispatcher.isCustom ns := by
  cases m with
  | edit id op => exact congrArg (·.isCustom ns) (keeps_change op.run id d).dispatcher
  | insert e => exact congrArg (·.isCustom ns) (dispatcher_insert d e)
  | register ns' id =>
    rw [DeviceMove.device_register, dispatcher_register]
    split
    · exact Dispatcher.isCustom_register d.dispatcher ns ns' id
    · rfl
  | remove id =>
    rw [DeviceMove.device_remove, dispatcher_remove]
    exact Dispatcher.isCustom_without d.dispatcher _ id ns
  | keepDigest _ | warn _ | send _ => rfl

theorem supports_move (m : DeviceMove) (d : Device) (ns : Namespace) :
    (m.run d).device.dispatcher.supports ns = d.dispatcher.supports ns := by
  cases m with
  | edit id op => exact congrArg (·.supports ns) (keeps_change op.run id d).dispatcher
  | insert e => exact congrArg (·.supports ns) (dispatcher_insert d e)
  | register ns' id =>
    rw [DeviceMove.device_register, dispatcher_register]
    split
    · exact Dispatcher.supports_register d.dispatcher ns' ns id
    · rfl
  | remove id =>
    rw [DeviceMove.device_remove, dispatcher_remove]
    exact congrArg (·.contains ns) (Dispatcher.ability_without d.dispatcher _ id)
  | keepDigest _ | warn _ | send _ => rfl

theorem isCustom_trace {sc : Scope} {d d' : Device} {es : List Event} (h : Trace sc d es d')
    (ns : Namespace) : d'.dispatcher.isCustom ns = d.dispatcher.isCustom ns :=
  h.invariant (I := fun d' => d'.dispatcher.isCustom ns = d.dispatcher.isCustom ns)
    (fun d' m hd' _ => (isCustom_move m d' ns).trans hd') rfl

theorem supports_trace {sc : Scope} {d d' : Device} {es : List Event} (h : Trace sc d es d')
    (ns : Namespace) : d'.dispatcher.supports ns = d.dispatcher.supports ns :=
  h.invariant (I := fun d' => d'.dispatcher.supports ns = d.dispatcher.supports ns)
    (fun d' m hd' _ => (supports_move m d' ns).trans hd') rfl

/-- Of the namespaces that a device has, those of sensors and no others have
    readers of their own. -/
def ReadsApart (d : Device) : Prop :=
  ∀ ns, d.dispatcher.isCustom ns = true ↔
    ns ∈ [Namespace.diffuserSensor, .sensorLatest, .sensorLatestX] ∧
      d.dispatcher.supports ns = true

theorem readsApart_furnish (mask : UInt8) (descriptor : Descriptor) :
    (furnish mask descriptor).ReadsApart := by
  have hmembers : ∀ ns, ((Member.ofDescriptor mask descriptor).foldl join
      (blank descriptor mask)).dispatcher.isCustom ns = false := by
    intro ns
    have hblank : (blank descriptor mask).dispatcher.isCustom ns = false := rfl
    refine List.foldlRecOn (motive := fun d => d.dispatcher.isCustom ns = false) _ join hblank ?_
    intro d hd m hm
    have hjoin : Trace .any d [] (d.join m) := trace_join (sane_member hm).made.loose d
    exact (isCustom_trace hjoin ns).trans hd
  intro ns
  simp only [furnish, List.foldl_cons, List.foldl_nil, readApart,
    Dispatcher.isCustom_registerCustom, Dispatcher.supports_registerCustom, hmembers ns]
  simp only [Bool.false_or, Bool.or_eq_true, Bool.and_eq_true, decide_eq_true_eq, List.mem_cons,
    List.not_mem_nil, or_false]
  tauto

theorem Reachable.readsApart {d : Device} (h : d.Reachable) : d.ReadsApart := by
  obtain ⟨mask, descriptor, c, hreached, rfl⟩ := h
  refine hreached.invariant (readsApart_furnish mask descriptor) ?_
  intro d m _ hd _ ns
  rw [isCustom_move, supports_move]
  exact hd ns

/-! ## Payloads

A payload of a namespace is either read as a whole or passed on in items. -/

theorem dispatch_of_known {header : Header} {ns : Namespace} (h : header.known? = some ns)
    (hall : ns ≠ .systemAll) (hability : ns ≠ .systemAbility) (payload : Json) :
    dispatch header payload = dispatchNamespace ns payload := by
  unfold dispatch
  rw [h]
  cases ns <;> simp_all

theorem dispatchNamespace_eq (ns : Namespace) (payload : Json) (d : Device) :
    dispatchNamespace ns payload d =
      if d.dispatcher.isCustom ns then applyReadings ns payload d
      else dispatchItems ns (Item.ofPayload ns payload) d := by
  unfold dispatchNamespace
  rw [Action.bind_apply]
  cases h : d.dispatcher.isCustom ns <;> simp only [Action.device, h] <;> rfl

end Device

end Appliance
