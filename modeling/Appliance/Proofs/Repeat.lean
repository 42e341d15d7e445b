-- SUMMARY: Work as rows of operations on entities, and work that changes nothing when it is done again.

import Appliance.Proofs.Overwrite
import Appliance.Proofs.Routing

namespace Appliance

/-- What a device does by itself, whatever it is told: nothing goes, and what
    comes in is new. -/
def Scope.calm : Scope := ⟨fun e => e.Made ∧ e.Scaled, False, False⟩

theorem Scope.opens_calm : Scope.calm.Opens := fun _ h => ⟨h.made, h.scaled⟩

theorem Scope.any_of_calm {d : Device} {m : DeviceMove} (h : Scope.calm.Allows d m) :
    Scope.any.Allows d m := by
  cases m with
  | insert e => exact Entity.Made.loose (And.left h)
  | remove id => exact False.elim h
  | edit _ _ | register _ _ | keepDigest _ | warn _ | send _ => exact h

namespace Device

open Entity (TookOps Replays)

/-! ## Fit devices -/

/-- Handlers and registrations agree, entities are as they were made, and what
    they measure they measure by a scale that can be divided by. -/
structure Fit (d : Device) : Prop where
  wired : d.Wired
  sound : d.Sound
  scaled : ∀ id e, d.entity? id = some e → e.Scaled

theorem Fit.move {d : Device} (h : d.Fit) {m : DeviceMove} (hm : Scope.calm.Allows d m) :
    (m.run d).device.Fit where
  wired := h.wired.move h.sound (Scope.any_of_calm hm)
  sound := h.sound.move (fun e (he : e.Made ∧ e.Scaled) => he.1.sound) hm
  scaled := by
    intro id e' he'
    rcases DeviceMove.entity?_cases he' with
      he | ⟨op, e, -, he, rfl⟩ | ⟨rfl, -, -⟩ | ⟨ns, e, -, he, rfl⟩
    · exact h.scaled id e' he
    · exact EntityOp.scaled_run op (h.sound id e he) (h.scaled id e he)
    · exact And.right hm
    · exact h.scaled id e he

theorem Fit.trace {d d' : Device} {es : List Event} (h : d.Fit) (ht : Trace .calm d es d') :
    d'.Fit := ht.invariant (fun _ _ hd hm => hd.move hm) h

/-! ## Work on an entity -/

/-- From one device to the next, what has an id takes a row of operations. If
    nothing has the id, something new may be made for it first. -/
structure TookOpsAt (d d' : Device) (id : EntityId) (ops : List EntityOp) : Prop where
  present : ∀ e, d.entity? id = some e → ∃ e', d'.entity? id = some e' ∧ TookOps ops e e'
  absent : d.entity? id = none →
    d'.entity? id = none ∧ ops = [] ∨
      ∃ e e', e.Made ∧ d'.entity? id = some e' ∧ TookOps ops e e'

namespace TookOpsAt

variable {d d' d'' : Device} {id : EntityId} {ops ops' : List EntityOp}

theorem of_eq (h : d'.entity? id = d.entity? id) : TookOpsAt d d' id [] where
  present e he := ⟨e, h.trans he, TookOps.nil e e.namespaces⟩
  absent hnone := .inl ⟨h.trans hnone, rfl⟩

theorem trans (h : TookOpsAt d d' id ops) (h' : TookOpsAt d' d'' id ops') :
    TookOpsAt d d'' id (ops ++ ops') where
  present e he := by
    obtain ⟨e', he', hops⟩ := h.present e he
    obtain ⟨e'', he'', hops'⟩ := h'.present e' he'
    exact ⟨e'', he'', hops.append hops'⟩
  absent hnone := by
    rcases h.absent hnone with ⟨hstill, hnil⟩ | ⟨e, e', hmade, he', hops⟩
    · rw [hnil, List.nil_append]
      exact h'.absent hstill
    · obtain ⟨e'', he'', hops'⟩ := h'.present e' he'
      exact .inr ⟨e, e'', hmade, he'', hops.append hops'⟩

theorem isSome (h : TookOpsAt d d' id ops) (hsome : (d.entity? id).isSome = true) :
    (d'.entity? id).isSome = true := by
  obtain ⟨e, he⟩ := Option.isSome_iff_exists.1 hsome
  obtain ⟨e', he', -⟩ := h.present e he
  rw [he']
  rfl

/-- What is there after the work was there before, or is new. -/
theorem source (h : TookOpsAt d d' id ops) {e' : Entity} (he' : d'.entity? id = some e') :
    ∃ e, (d.entity? id = some e ∨ e.Made) ∧ TookOps ops e e' := by
  cases he : d.entity? id with
  | none =>
    rcases h.absent he with ⟨hnone, -⟩ | ⟨e, e'', hmade, he'', hops⟩
    · rw [he'] at hnone
      cases hnone
    · rw [he'] at he''
      obtain rfl := Option.some.inj he''
      exact ⟨e, .inr hmade, hops⟩
  | some e =>
    obtain ⟨e'', he'', hops⟩ := h.present e he
    rw [he'] at he''
    obtain rfl := Option.some.inj he''
    exact ⟨e, .inl rfl, hops⟩

theorem origin (h : TookOpsAt d d' id ops) (hs : d.Sound) {e' : Entity}
    (he' : d'.entity? id = some e') : ∃ e, e.Sound ∧ TookOps ops e e' := by
  obtain ⟨e, he | hmade, hops⟩ := h.source he'
  · exact ⟨e, hs id e he, hops⟩
  · exact ⟨e, hmade.sound, hops⟩

end TookOpsAt

/-! ### Rows of steps -/

/-- The operations that a row of steps comes to, step by step. -/
def history {α : Type} (run : α → Action Unit) (ops : α → Device → EntityId → List EntityOp) :
    List α → Device → EntityId → List EntityOp
  | [], _, _ => []
  | x :: xs, d, id => ops x d id ++ history run ops xs (run x d).device id

/-- Work that adds, registers and forgets nothing. -/
structure Leaves (d d' : Device) : Prop extends Keeps d d' where
  namespaces : ∀ id, (d'.entity? id).map (·.namespaces) = (d.entity? id).map (·.namespaces)

theorem Leaves.refl (d : Device) : Leaves d d := ⟨Keeps.refl d, fun _ => rfl⟩

theorem Leaves.trans {d d' d'' : Device} (h : Leaves d d') (h' : Leaves d' d'') : Leaves d d'' :=
  ⟨h.toKeeps.trans h'.toKeeps, fun id => (h'.namespaces id).trans (h.namespaces id)⟩

/-- The steps of a row come to operations. Each, once it was done, is ready:
    doing it again would add and register nothing. -/
structure Repeatable {α : Type} (run : α → Action Unit)
    (ops : α → Device → EntityId → List EntityOp) (Ready : α → Device → Prop) (xs : List α) :
    Prop where
  fit : ∀ x ∈ xs, ∀ d, d.Fit → (run x d).device.Fit
  tookOpsAt : ∀ x ∈ xs, ∀ d, d.Fit → ∀ id, TookOpsAt d (run x d).device id (ops x d id)
  ready : ∀ x ∈ xs, ∀ d, d.Fit → Ready x (run x d).device
  stays : ∀ x ∈ xs, ∀ y d, d.Fit → Ready y d → Ready y (run x d).device
  leaves : ∀ x ∈ xs, ∀ d, d.Fit → Ready x d → Leaves d (run x d).device

namespace Repeatable

variable {α : Type} {run : α → Action Unit} {ops : α → Device → EntityId → List EntityOp}
  {Ready : α → Device → Prop} {xs : List α} {d : Device}

theorem tail {x : α} (h : Repeatable run ops Ready (x :: xs)) : Repeatable run ops Ready xs where
  fit y hy := h.fit y (List.mem_cons_of_mem _ hy)
  tookOpsAt y hy := h.tookOpsAt y (List.mem_cons_of_mem _ hy)
  ready y hy := h.ready y (List.mem_cons_of_mem _ hy)
  stays y hy := h.stays y (List.mem_cons_of_mem _ hy)
  leaves y hy := h.leaves y (List.mem_cons_of_mem _ hy)

theorem fit_forEach (h : Repeatable run ops Ready xs) (hd : d.Fit) :
    (Action.forEach xs run d).device.Fit := by
  induction xs generalizing d with
  | nil => exact hd
  | cons x xs ih => exact ih h.tail (h.fit x (List.mem_cons_self ..) d hd)

theorem tookOpsAt_forEach (h : Repeatable run ops Ready xs) (hd : d.Fit) (id : EntityId) :
    TookOpsAt d (Action.forEach xs run d).device id (history run ops xs d id) := by
  induction xs generalizing d with
  | nil => exact .of_eq rfl
  | cons x xs ih =>
    have hx := h.tookOpsAt x (List.mem_cons_self ..) d hd id
    exact hx.trans (ih h.tail (h.fit x (List.mem_cons_self ..) d hd))

theorem stays_forEach (h : Repeatable run ops Ready xs) (hd : d.Fit) {y : α} (hy : Ready y d) :
    Ready y (Action.forEach xs run d).device := by
  induction xs generalizing d with
  | nil => exact hy
  | cons x xs ih =>
    exact ih h.tail (h.fit x (List.mem_cons_self ..) d hd)
      (h.stays x (List.mem_cons_self ..) y d hd hy)

theorem ready_forEach (h : Repeatable run ops Ready xs) (hd : d.Fit) :
    ∀ x ∈ xs, Ready x (Action.forEach xs run d).device := by
  induction xs generalizing d with
  | nil => exact fun x hx => by cases hx
  | cons x xs ih =>
    have hfit := h.fit x (List.mem_cons_self ..) d hd
    intro y hy
    rcases List.mem_cons.1 hy with rfl | hy
    · exact h.tail.stays_forEach hfit (h.ready y (List.mem_cons_self ..) d hd)
    · exact ih h.tail hfit y hy

theorem leaves_forEach (h : Repeatable run ops Ready xs) (hd : d.Fit)
    (hready : ∀ x ∈ xs, Ready x d) : Leaves d (Action.forEach xs run d).device := by
  induction xs generalizing d with
  | nil => exact .refl d
  | cons x xs ih =>
    have hx := h.leaves x (List.mem_cons_self ..) d hd (hready x (List.mem_cons_self ..))
    refine hx.trans (ih h.tail (h.fit x (List.mem_cons_self ..) d hd) fun y hy => ?_)
    exact h.stays x (List.mem_cons_self ..) y d hd (hready y (List.mem_cons_of_mem _ hy))

/-- A row of steps leaves an entity as it is, where it is ready and its
    operations change nothing after those that the entity took. -/
theorem entity?_forEach (h : Repeatable run ops Ready xs) (hd : d.Fit)
    (hready : ∀ x ∈ xs, Ready x d) {id : EntityId}
    (htook : ∀ e, d.entity? id = some e → ∃ before e₀, TookOps before e₀ e ∧
      Replays e.kind before (history run ops xs d id)) :
    (Action.forEach xs run d).device.entity? id = d.entity? id := by
  have hnamespaces := (h.leaves_forEach hd hready).namespaces id
  cases he : d.entity? id with
  | none =>
    rw [he, Option.map_none, Option.map_eq_none_iff] at hnamespaces
    exact hnamespaces
  | some e =>
    have hafter := h.fit_forEach hd
    obtain ⟨before, e₀, hbefore, hreplays⟩ := htook e he
    obtain ⟨e', he', hagain⟩ := (h.tookOpsAt_forEach hd id).present e he
    have hstatus := hbefore.replay hagain hreplays (hd.sound id e he) (hafter.sound id e' he')
    rw [he, he', Option.map_some, Option.map_some] at hnamespaces
    have hsame : e' = e := by
      rw [hagain.frame, hstatus, Option.some.inj hnamespaces]
    rw [he', hsame]

end Repeatable

theorem history_append {α : Type} (run : α → Action Unit)
    (ops : α → Device → EntityId → List EntityOp) (xs ys : List α) (d : Device) (id : EntityId) :
    history run ops (xs ++ ys) d id =
      history run ops xs d id ++ history run ops ys (Action.forEach xs run d).device id := by
  induction xs generalizing d with
  | nil => rfl
  | cons x xs ih =>
    change ops x d id ++ history run ops (xs ++ ys) (run x d).device id = _
    rw [ih, ← List.append_assoc]
    rfl

end Device

end Appliance
