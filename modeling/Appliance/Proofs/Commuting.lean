-- SUMMARY: Work in different places comes to the same in any order.

import Appliance.Proofs.Locality

namespace Appliance

/-- The states in which an entity is handed to the listeners. -/
def handed (id : EntityId) (es : List Event) : List Entity :=
  es.filterMap fun
    | .flushed e => if e.id = id then some e else none
    | .warned _ | .sent _ => none

theorem handed_append (id : EntityId) (es es' : List Event) :
    handed id (es ++ es') = handed id es ++ handed id es' := List.filterMap_append

/-- Work in turn may be taken together in any way. -/
theorem Action.bind_bind {α β γ : Type} (f : Action α) (g : Action β) (h : Action γ) :
    Action.bind (Action.bind f fun _ => g) (fun _ => h) =
      Action.bind f fun _ => Action.bind g fun _ => h := by
  funext d
  simp only [Action.bind, List.append_assoc]

/-- Lists of lists are worked on list by list. -/
theorem Action.forEach_flatMap {α β : Type} (g : α → List β) (f : β → Action Unit) (xs : List α) :
    forEach (xs.flatMap g) f = forEach xs fun x => forEach (g x) f := by
  induction xs with
  | nil => rfl
  | cons x xs ih =>
    funext d
    rw [List.flatMap_cons, forEach_append, forEach_cons, ← ih]
    rfl

/-! ## Handlers

A handler can be there without listing anybody, so that what is listed does
not tell which handlers there are. But what comes in by itself only makes
handlers that list somebody, and takes nobody out. -/

namespace Dispatcher

theorem get?_register_of_ne {s : Dispatcher} {ns ns' : Namespace} (h : ns' ≠ ns)
    (id : EntityId) : (s.register ns id).2.handlers.get? ns' = s.handlers.get? ns' := by
  unfold register
  split
  · simp [Table.get?_insert, h]
  · rfl

theorem isSome_of_targets {s : Dispatcher} {ns : Namespace} {c : Channel}
    (h : s.targets ns c ≠ []) : (s.handlers.get? ns).isSome = true := by
  unfold targets at h
  cases hget : s.handlers.get? ns with
  | none =>
    rw [hget] at h
    exact absurd rfl h
  | some handler => rfl

/-- Routes without empty lists are known from what they list. -/
theorem Routes.Full.ext {routes routes' : Table Channel (List EntityId)}
    (h : Routes.Full routes) (h' : Routes.Full routes')
    (htargets : ∀ c, Routes.targets routes' c = Routes.targets routes c) : routes' = routes := by
  refine Table.ext fun c => ?_
  have hc := htargets c
  unfold Routes.targets at hc
  cases hget : routes.get? c with
  | none =>
    cases hget' : routes'.get? c with
    | none => rfl
    | some ids' =>
      rw [hget, hget', Option.getD_some, Option.getD_none] at hc
      exact absurd (hc ▸ hget') (h' c)
  | some ids =>
    cases hget' : routes'.get? c with
    | none =>
      rw [hget, hget', Option.getD_some, Option.getD_none] at hc
      exact absurd (hc ▸ hget) (h c)
    | some ids' =>
      rw [hget, hget', Option.getD_some, Option.getD_some] at hc
      rw [hc]

/-- Tidy handlers of a namespace that list the same ids are the same, if both
    are readers or both are there or not. -/
theorem handler_ext {s s' : Dispatcher} (h : s.Tidy) (h' : s'.Tidy) {ns : Namespace}
    (hcustom : s'.isCustom ns = s.isCustom ns)
    (hsome : (s'.handlers.get? ns).isSome = (s.handlers.get? ns).isSome)
    (htargets : ∀ c, s'.targets ns c = s.targets ns c) :
    s'.handlers.get? ns = s.handlers.get? ns := by
  unfold isCustom at hcustom
  unfold targets at htargets
  rcases hget : s.handlers.get? ns with _ | ⟨routes⟩ | _ <;>
    rcases hget' : s'.handlers.get? ns with _ | ⟨routes'⟩ | _ <;>
    simp only [hget, hget'] at hcustom hsome htargets
  · rfl
  · cases hsome
  · cases hsome
  · cases hsome
  · have hfull : Routes.Full routes := (h ns _ hget).2
    have hfull' : Routes.Full routes' := (h' ns _ hget').2
    rw [hfull.ext hfull' htargets]
  · cases hcustom
  · cases hsome
  · cases hcustom
  · rfl

end Dispatcher

namespace Device

/-- In the second device there is a handler where there was one in the first,
    and where somebody is listed by now; and nobody has been taken out. -/
structure Grown (d d' : Device) : Prop where
  kept : ∀ ns c, d.dispatcher.targets ns c ≠ [] → d'.dispatcher.targets ns c ≠ []
  handled : ∀ ns, (d'.dispatcher.handlers.get? ns).isSome = true ↔
    (d.dispatcher.handlers.get? ns).isSome = true ∨ ∃ c, d'.dispatcher.targets ns c ≠ []

namespace Grown

variable {d d' d'' : Device}

theorem of_dispatcher (h : d'.dispatcher = d.dispatcher) : Grown d d' := by
  refine ⟨fun ns c hc => h ▸ hc, fun ns => ?_⟩
  rw [h]
  exact ⟨.inl, fun hor => hor.elim id fun ⟨c, hc⟩ => Dispatcher.isSome_of_targets hc⟩

theorem trans (h : Grown d d') (h' : Grown d' d'') : Grown d d'' where
  kept ns c hc := h'.kept ns c (h.kept ns c hc)
  handled ns := by
    rw [h'.handled, h.handled]
    constructor
    · rintro ((hget | ⟨c, hc⟩) | hlater)
      · exact .inl hget
      · exact .inr ⟨c, h'.kept ns c hc⟩
      · exact .inr hlater
    · rintro (hget | hlater)
      · exact .inl (.inl hget)
      · exact .inr hlater

/-- A registration makes the handler that it needs. -/
theorem register (d : Device) (ns : Namespace) (id : EntityId) :
    Grown d (d.register ns id).2 := by
  rcases register_spec d ns id with ⟨-, hsame⟩ | ⟨-, -, ⟨c, hc⟩, hok, -, hdispatcher⟩
  · rw [hsame]
    exact of_dispatcher rfl
  · have hmem : ∀ {ns' c' i}, i ∈ (d.register ns id).2.dispatcher.targets ns' c' ↔
        i ∈ d.dispatcher.targets ns' c' ∨ ns' = ns ∧ id.channel? = some c' ∧ i = id := by
      intro ns' c' i
      rw [hdispatcher]
      exact Dispatcher.mem_targets_register hok
    have hlisted : (d.register ns id).2.dispatcher.targets ns c ≠ [] :=
      List.ne_nil_of_mem (hmem.2 (.inr ⟨rfl, hc, rfl⟩))
    refine ⟨fun ns' c' hkept => ?_, fun ns' => ⟨fun hsome => ?_, ?_⟩⟩
    · obtain ⟨i, hi⟩ := List.exists_mem_of_ne_nil _ hkept
      exact List.ne_nil_of_mem (hmem.2 (.inl hi))
    · by_cases hns : ns' = ns
      · exact .inr ⟨c, hns ▸ hlisted⟩
      · rw [hdispatcher, Dispatcher.get?_register_of_ne hns] at hsome
        exact .inl hsome
    · rintro (hsome | ⟨c', hc'⟩)
      · by_cases hns : ns' = ns
        · rw [hns]
          exact Dispatcher.isSome_of_targets hlisted
        · rw [hdispatcher, Dispatcher.get?_register_of_ne hns]
          exact hsome
      · exact Dispatcher.isSome_of_targets hc'

theorem of_move {m : DeviceMove} (hm : Scope.calm.Allows d m) : Grown d (m.run d).device := by
  cases m with
  | edit id op => exact of_dispatcher (keeps_change op.run id d).dispatcher
  | insert e => exact of_dispatcher (dispatcher_insert d e)
  | register ns id => exact register d ns id
  | remove id => exact False.elim hm
  | keepDigest _ | warn _ | send _ => exact of_dispatcher rfl

theorem of_trace {es : List Event} (h : Trace .calm d es d') : Grown d d' :=
  h.invariant (I := Grown d) (fun _ _ hd hm => hd.trans (of_move hm)) (of_dispatcher rfl)

end Grown

/-- Devices that agree everywhere, and have handlers for the same namespaces,
    are the same. -/
theorem eq_of_agree {d d' : Device} (hd : d.Orderly) (hd' : d'.Orderly)
    (hdescriptor : d'.descriptor = d.descriptor) (h : Agree (fun _ => True) d d')
    (hsome : ∀ ns, (d'.dispatcher.handlers.get? ns).isSome =
      (d.dispatcher.handlers.get? ns).isSome) : d' = d := by
  have hability : d'.dispatcher.ability = d.dispatcher.ability := by
    rw [hd'.wired.ability, hd.wired.ability, hdescriptor]
  have hhandlers : d'.dispatcher.handlers = d.dispatcher.handlers := by
    refine Table.ext fun ns => ?_
    exact Dispatcher.handler_ext hd.wired.tidy hd'.wired.tidy (h.isCustom ns) (hsome ns)
      fun c => h.targets ns c trivial
  have hentities : d'.entities = d.entities := Table.ext fun id => h.entity id trivial
  have hmask := h.climateSensors
  obtain ⟨descriptor, entities, ⟨ability, handlers⟩, mask⟩ := d
  obtain ⟨descriptor', entities', ⟨ability', handlers'⟩, mask'⟩ := d'
  simp_all

/-! ## Commuting -/

end Device

/-- What can be told apart neither by the device that is left nor by the
    listeners of any one entity. -/
structure Outcome.Matches (o o' : Outcome Unit) : Prop where
  device : o'.device = o.device
  handed : ∀ id, handed id o'.events = handed id o.events

namespace Outcome.Matches

theorem refl (o : Outcome Unit) : Matches o o := ⟨rfl, fun _ => rfl⟩

theorem trans {o o' o'' : Outcome Unit} (h : Matches o o') (h' : Matches o' o'') :
    Matches o o'' :=
  ⟨h'.device.trans h.device, fun id => (h'.handed id).trans (h.handed id)⟩

/-- Work that matches after some work matches with that work before it. -/
theorem after {f g g' : Action Unit} {d : Device} (h : Matches (g (f d).device) (g' (f d).device)) :
    Matches (Action.bind f (fun _ => g) d) (Action.bind f (fun _ => g') d) := by
  unfold Action.bind
  refine ⟨h.device, fun id => ?_⟩
  rw [handed_append, handed_append, h.handed]

/-- After work that matches, the same work goes on to match. -/
theorem bind {f f' g : Action Unit} {d : Device} (h : Matches (f d) (f' d)) :
    Matches (Action.bind f (fun _ => g) d) (Action.bind f' (fun _ => g) d) := by
  unfold Action.bind
  refine ⟨congrArg (fun d => (g d).device) h.device, fun id => ?_⟩
  rw [handed_append, handed_append, h.handed, h.device]

end Outcome.Matches

namespace Device

theorem handed_eq_nil {C : Place → Prop} {es : List Event}
    (h : ∀ e, .flushed e ∈ es → C e.id.channel?) {id : EntityId} (hid : ¬C id.channel?) :
    handed id es = [] := by
  refine List.filterMap_eq_nil_iff.2 fun x hx => ?_
  cases x with
  | flushed e =>
    refine if_neg ?_
    rintro rfl
    exact hid (h e hx)
  | warned w => rfl
  | sent r => rfl

section Commute

variable {C C' : Place → Prop} {f g : Action Unit} {d : Device} (hf : Local C f) (hg : Local C' g)
  (hd : d.Orderly) (hapart : ∀ p, C p → ¬C' p)
include hf hg hd hapart

/-- Work in some places leaves other places as they are, and work in those
    does there what it would do without. So in each place the device is left
    as the work there leaves it, whichever comes first. -/
theorem agree_of_local :
    Agree (fun _ => True) (f (g d).device).device (g (f d).device).device := by
  have hdf := hd.traced ((hf d hd).calm hd)
  have hdg := hd.traced ((hg d hd).calm hd)
  have hf₁ := (hf d hd).elsewhere
  have hg₁ := (hg d hd).elsewhere
  have hf₂ := (hf _ hdg).elsewhere
  have hg₂ := (hg _ hdf).elsewhere
  obtain ⟨-, -, -, hfs⟩ := (hf d hd).determined _ hdg (hg₁.mono hapart)
  obtain ⟨-, -, -, hgs⟩ := (hg d hd).determined _ hdf (hf₁.mono fun p hp hC => hapart p hC hp)
  have hhere : Agree C (f (g d).device).device (g (f d).device).device :=
    hfs.symm.trans (hg₂.mono hapart)
  have hthere : Agree C' (f (g d).device).device (g (f d).device).device :=
    (hf₂.mono fun p hp hC => hapart p hC hp).symm.trans hgs
  have hneither :
      Agree (fun p => ¬C p ∧ ¬C' p) (f (g d).device).device (g (f d).device).device := by
    have hgf := (hg₁.mono fun p hp => hp.2).trans (hf₂.mono fun p (hp : ¬C p ∧ ¬C' p) => hp.1)
    have hfg := (hf₁.mono fun p hp => hp.1).trans (hg₂.mono fun p (hp : ¬C p ∧ ¬C' p) => hp.2)
    exact hgf.symm.trans hfg
  have hnot : Agree (fun p => ¬C p) (f (g d).device).device (g (f d).device).device :=
    hthere.union hneither fun p hp => (Classical.em (C' p)).imp id fun hp' => ⟨hp, hp'⟩
  exact hhere.union hnot fun p _ => Classical.em (C p)

theorem device_commute : (g (f d).device).device = (f (g d).device).device := by
  have hdf := hd.traced ((hf d hd).calm hd)
  have hdg := hd.traced ((hg d hd).calm hd)
  have hcalmf := (hf _ hdg).calm hdg
  have hcalmg := (hg _ hdf).calm hdf
  have hagree := agree_of_local hf hg hd hapart
  refine eq_of_agree (hdg.traced hcalmf) (hdf.traced hcalmg) ?_ hagree fun ns => ?_
  · rw [(hg _ hdf).descriptor, (hf d hd).descriptor, (hf _ hdg).descriptor, (hg d hd).descriptor]
  · have hfg := (Grown.of_trace ((hf d hd).calm hd)).trans (Grown.of_trace hcalmg)
    have hgf := (Grown.of_trace ((hg d hd).calm hd)).trans (Grown.of_trace hcalmf)
    rw [Bool.eq_iff_iff, hfg.handled, hgf.handled]
    simp only [hagree.targets ns _ trivial]

theorem handed_commute (id : EntityId) :
    handed id ((f d).events ++ (g (f d).device).events) =
      handed id ((g d).events ++ (f (g d).device).events) := by
  have hdf := hd.traced ((hf d hd).calm hd)
  have hdg := hd.traced ((hg d hd).calm hd)
  obtain ⟨-, -, hfs, -⟩ := (hf d hd).determined _ hdg ((hg d hd).elsewhere.mono hapart)
  obtain ⟨-, -, hgs, -⟩ :=
    (hg d hd).determined _ hdf ((hf d hd).elsewhere.mono fun p hp hC => hapart p hC hp)
  rw [hfs, hgs, handed_append, handed_append]
  by_cases hid : C id.channel?
  · rw [handed_eq_nil (hg d hd).within (hapart _ hid), List.append_nil, List.nil_append]
  · rw [handed_eq_nil (hf d hd).within hid, List.append_nil, List.nil_append]

/-- Work in different places comes to the same in either order. -/
theorem commute :
    Outcome.Matches (Action.bind g (fun _ => f) d) (Action.bind f (fun _ => g) d) :=
  ⟨device_commute hf hg hd hapart, handed_commute hf hg hd hapart⟩

end Commute

/-- Work that is in different places for different elements may be done in any
    order of the elements. -/
theorem forEach_perm {α : Type} {C : α → Place → Prop} {f : α → Action Unit} {xs ys : List α}
    (hperm : xs.Perm ys) (hlocal : ∀ x ∈ xs, Local (C x) (f x))
    (hapart : xs.Pairwise fun x y => ∀ p, C x p → ¬C y p) {d : Device} (hd : d.Orderly) :
    Outcome.Matches (Action.forEach xs f d) (Action.forEach ys f d) := by
  induction hperm generalizing d with
  | nil => exact .refl _
  | @cons x xs ys _ ih =>
    have hx := hlocal x (List.mem_cons_self ..)
    refine .after (ih (fun y hy => hlocal y (List.mem_cons_of_mem _ hy)) hapart.tail ?_)
    exact hd.traced ((hx d hd).calm hd)
  | swap x y xs =>
    have hx := hlocal x (List.mem_cons_of_mem _ (List.mem_cons_self ..))
    have hy := hlocal y (List.mem_cons_self ..)
    have hyx := (List.pairwise_cons.1 hapart).1 x (List.mem_cons_self ..)
    have hswap := commute hx hy hd fun p hC hC' => hyx p hC' hC
    rw [Action.forEach_cons, Action.forEach_cons, Action.forEach_cons, Action.forEach_cons,
      ← Action.bind_bind, ← Action.bind_bind]
    exact hswap.bind
  | @trans xs ys zs hperm _ ih ih' =>
    have hsymm : ∀ {x y}, (∀ p, C x p → ¬C y p) → ∀ p, C y p → ¬C x p :=
      fun h p hy hx => h p hx hy
    have hys : ∀ y ∈ ys, Local (C y) (f y) := fun y hy => hlocal y (hperm.mem_iff.2 hy)
    exact (ih hlocal hapart hd).trans (ih' hys (hperm.pairwise hapart hsymm) hd)

end Device

end Appliance
