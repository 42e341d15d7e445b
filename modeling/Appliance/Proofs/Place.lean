-- SUMMARY: Where things stand in a JSON value, in which order, and the value without them.

import Appliance.Proofs.Sameness

namespace Appliance

namespace Json

/-! ## Paths -/

/-- A slot of a value: a field of an object, or an element of a list. -/
inductive Slot where
  | field (key : String)
  | index (i : Nat)
deriving DecidableEq

/-- The way from a value to something in it. -/
abbrev Path := List Slot

/-- What stands at the end of a path. -/
def at? : Path → Json → Option Json
  | [], j => some j
  | .field key :: p, j => (j.get? key).bind (at? p)
  | .index i :: p, j => (j.asItems?.bind (·[i]?)).bind (at? p)

/-- The elements of the list in a field, if there is one. -/
def listAt (key : String) (j : Json) : List Json := ((j.get? key).bind asItems?).getD []

/-- The fields of an object. -/
def fields (j : Json) : List (String × Json) := j.asFields?.getD []

theorem at?_append (p q : Path) (j : Json) : j.at? (p ++ q) = (j.at? p).bind (at? q) := by
  induction p generalizing j with
  | nil => rfl
  | cons s p ih =>
    cases s with
    | field key => simp only [List.cons_append, at?, Option.bind_assoc, ih]
    | index i => simp only [List.cons_append, at?, Option.bind_assoc, ih]

theorem at?_of_at? {j v : Json} {p : Path} (h : j.at? p = some v) (q : Path) :
    j.at? (p ++ q) = v.at? q := by
  rw [at?_append, h, Option.bind_some]

theorem exists_of_at? (p q : Path) {j v : Json} (h : j.at? (p ++ q) = some v) :
    ∃ w, j.at? p = some w ∧ w.at? q = some v :=
  Option.bind_eq_some_iff.1 ((at?_append p q j).symm.trans h)

theorem at?_singleton (key : String) (j : Json) : j.at? [.field key] = j.get? key := by
  simp [at?]

theorem at?_listed (key : String) (i : Nat) (j : Json) :
    j.at? [.field key, .index i] = (j.listAt key)[i]? := by
  unfold listAt
  cases h : (j.get? key).bind asItems? with
  | none => simp [at?, ← Option.bind_assoc, h]
  | some items => simp [at?, ← Option.bind_assoc, h]

theorem get?_eq_lookup (key : String) (j : Json) : j.get? key = j.fields.lookup key := by
  cases j <;> rfl

/-- The value with what stands at the end of a path revised. -/
def revise (f : Json → Json) : Path → Json → Json
  | [], j => f j
  | .field key :: p, .obj fields =>
    .obj (fields.map fun (k, v) => (k, if k = key then revise f p v else v))
  | .index i :: p, .arr items => .arr (items.modify i (revise f p))
  | _ :: _, j => j

/-- The value without what is in a slot of it. -/
def leaveOut : Slot → Json → Json
  | .field key, .obj fields => .obj (Keyed.drop key fields)
  | .index i, .arr items => .arr (items.eraseIdx i)
  | _, j => j

/-- The value without what is in a slot at the end of a path. -/
def without (j : Json) (p : Path) (s : Slot) : Json := j.revise (leaveOut s) p

/-! ### Looking into a revised value -/

section Revise

variable (f : Json → Json) (p : Path)

theorem get?_revise (key key' : String) (j : Json) :
    (revise f (.field key :: p) j).get? key' =
      if key' = key then (j.get? key).map (revise f p) else j.get? key' := by
  cases j with
  | obj fields =>
    have hlookup := Keyed.lookup_map (fun k v => if k = key then revise f p v else v) key' fields
    rw [revise, get?, hlookup]
    split
    · rename_i hkey
      subst hkey
      rfl
    · simp [get?]
  | _ => simp [revise, get?]

theorem listAt_revise (key : String) (i : Nat) (j : Json) :
    (revise f (.field key :: .index i :: p) j).listAt key =
      (j.listAt key).modify i (revise f p) := by
  have hitems : ∀ j : Json, (revise f (.index i :: p) j).asItems? =
      j.asItems?.map (·.modify i (revise f p)) := fun j => by cases j <;> rfl
  rw [listAt, listAt, get?_revise, if_pos rfl]
  cases j.get? key with
  | none => simp
  | some list =>
    simp only [Option.map_some, Option.bind_some, hitems]
    cases list.asItems? <;> simp

end Revise

section LeaveOut

variable (key : String) (j : Json)

theorem listAt_without (i : Nat) :
    (j.without [.field key] (.index i)).listAt key = (j.listAt key).eraseIdx i := by
  have hitems : ∀ j : Json, (leaveOut (.index i) j).asItems? = j.asItems?.map (·.eraseIdx i) :=
    fun j => by cases j <;> rfl
  rw [listAt, listAt, without, get?_revise, if_pos rfl]
  cases j.get? key with
  | none => simp
  | some list =>
    simp only [Option.map_some, Option.bind_some, revise, hitems]
    cases list.asItems? <;> simp

theorem fields_leaveOut : (leaveOut (.field key) j).fields = Keyed.drop key j.fields := by
  cases j <;> rfl

theorem get?_leaveOut (key' : String) :
    (leaveOut (.field key) j).get? key' = if key' = key then none else j.get? key' := by
  rw [get?_eq_lookup, get?_eq_lookup, fields_leaveOut, Keyed.lookup_drop]
  simp

end LeaveOut

theorem WellFormed.fields {j : Json} (h : j.WellFormed) : Keyed.Ascending j.fields := by
  cases j with
  | obj fields => exact (WellFormed.obj.1 h).1
  | _ => exact .nil

theorem WellFormed.at? {j v : Json} (h : j.WellFormed) {p : Path} (hv : j.at? p = some v) :
    v.WellFormed := by
  induction p generalizing j with
  | nil =>
    cases hv
    exact h
  | cons s p ih =>
    cases s with
    | field key =>
      obtain ⟨w, hw, hv⟩ := Option.bind_eq_some_iff.1 hv
      exact ih (h.get? hw) hv
    | index i =>
      obtain ⟨w, hw, hv⟩ := Option.bind_eq_some_iff.1 hv
      obtain ⟨items, hitems, hw⟩ := Option.bind_eq_some_iff.1 hw
      exact ih (h.asItems? hitems w (List.mem_of_getElem? hw)) hv

theorem WellFormed.of_mem_listAt {key : String} {j : Json} (h : j.WellFormed) :
    ∀ item ∈ j.listAt key, item.WellFormed := by
  intro item hitem
  cases hitems : (j.get? key).bind Json.asItems? with
  | none => simp [listAt, hitems] at hitem
  | some items =>
    obtain ⟨list, hlist, hlisted⟩ := Option.bind_eq_some_iff.1 hitems
    rw [listAt, hitems] at hitem
    exact (h.get? hlist).asItems? hlisted item hitem

/-! ### Lists with one element revised or left out -/

section Lists

variable {α β : Type} {l : List α} {i : Nat} {g : α → List β}

theorem flatMap_modify {f : α → α} (h : ∀ a, l[i]? = some a → g (f a) = g a) :
    (l.modify i f).flatMap g = l.flatMap g := by
  induction l generalizing i with
  | nil => simp
  | cons a l ih =>
    cases i with
    | zero => simp [h a rfl]
    | succ i => simp [ih fun b hb => h b (by simpa using hb)]

/-- What adds nothing can be left out. -/
theorem flatMap_eraseIdx (h : ∀ a, l[i]? = some a → g a = []) :
    (l.eraseIdx i).flatMap g = l.flatMap g := by
  induction l generalizing i with
  | nil => simp
  | cons a l ih =>
    cases i with
    | zero => simp [h a rfl]
    | succ i => simp [ih fun b hb => h b (by simpa using hb)]

theorem filterMap_drop {γ : Type} {pick : String × Json → Option γ} {key : String}
    {fields : List (String × Json)} (h : ∀ f ∈ fields, f.1 = key → pick f = none) :
    (Keyed.drop key fields).filterMap pick = fields.filterMap pick := by
  rw [Keyed.drop, List.filterMap_filter]
  refine List.filterMap_congr fun f hf => ?_
  by_cases hkey : f.1 = key
  · simp [hkey, h f hf hkey]
  · simp [hkey]

end Lists

/-! ## Order

Paths into one value stand in the order in which it is written down: elements
by their number, fields by their names. -/

def Slot.Before : Slot → Slot → Prop
  | .index i, .index j => i < j
  | .field key, .field key' => compare key key' = .lt
  | _, _ => False

/-- The list has, in the order of their paths, just those that stand somewhere. -/
def Enumerates {α : Type} (stands : Path → α → Prop) (xs : List α) : Prop :=
  ∃ row : List (Path × α), (row.Pairwise fun x y => List.Lex Slot.Before x.1 y.1) ∧
    (∀ p a, (p, a) ∈ row ↔ stands p a) ∧ row.map (·.2) = xs

namespace Enumerates

variable {α β : Type} {stands stands' : Path → α → Prop} {xs : List α}

theorem congr (h : Enumerates stands xs) (hsame : ∀ p a, stands p a ↔ stands' p a) :
    Enumerates stands' xs := by
  obtain ⟨row, hlt, hmem, hxs⟩ := h
  exact ⟨row, hlt, fun p a => (hmem p a).trans (hsame p a), hxs⟩

theorem nil (h : ∀ p a, ¬stands p a) : Enumerates stands [] :=
  ⟨[], .nil, fun p a => ⟨fun hrow => (List.not_mem_nil hrow).elim, fun hs => (h p a hs).elim⟩, rfl⟩

theorem root (o : Option α) : Enumerates (fun p a => p = [] ∧ o = some a) o.toList := by
  refine ⟨o.toList.map fun a => ([], a), ?_, fun p a => ?_, by simp [Function.comp_def]⟩
  · cases o with
    | none => exact .nil
    | some a => exact List.pairwise_singleton ..
  · cases o <;> simp [and_comm, eq_comm]

/-- What stands in parts that are in slots of their own, in order. -/
theorem parts (inside : β → Path → α → Prop) (f : β → List α) {ys : List (Slot × β)}
    (hys : ys.Pairwise fun y z => Slot.Before y.1 z.1)
    (h : ∀ y ∈ ys, Enumerates (inside y.2) (f y.2)) :
    Enumerates (fun p a => ∃ y ∈ ys, ∃ q, p = y.1 :: q ∧ inside y.2 q a)
      (ys.flatMap fun y => f y.2) := by
  induction ys with
  | nil => exact .nil (by simp)
  | cons y ys ih =>
    obtain ⟨hhead, htail⟩ := List.pairwise_cons.1 hys
    obtain ⟨hy, hrest⟩ := List.forall_mem_cons.1 h
    obtain ⟨row, hlt, hmem, hrow⟩ := hy
    obtain ⟨rest, hlt', hmem', hrest⟩ := ih htail hrest
    refine ⟨row.map (fun x => (y.1 :: x.1, x.2)) ++ rest, ?_, fun p a => ?_, ?_⟩
    · refine List.pairwise_append.2 ⟨?_, hlt', fun x hx z hz => ?_⟩
      · exact List.pairwise_map.2 (hlt.imp .cons)
      · obtain ⟨x, -, rfl⟩ := List.mem_map.1 hx
        obtain ⟨y', hy', q, hq, -⟩ := (hmem' z.1 z.2).1 hz
        rw [hq]
        exact .rel (hhead y' hy')
    · rw [List.mem_append, hmem']
      simp only [List.mem_map, Prod.exists, Prod.mk.injEq, List.mem_cons, exists_eq_or_imp]
      refine or_congr ?_ Iff.rfl
      constructor
      · rintro ⟨q, a', hqa, rfl, rfl⟩
        exact ⟨q, rfl, (hmem q a').1 hqa⟩
      · rintro ⟨q, rfl, hqa⟩
        exact ⟨q, a, (hmem q a).2 hqa, rfl, rfl⟩
    · simp [hrow, hrest, Function.comp_def]

/-- What stands in a slot. -/
theorem under (s : Slot) (h : Enumerates stands xs) :
    Enumerates (fun p a => ∃ q, p = s :: q ∧ stands q a) xs := by
  have hone := parts (fun _ => stands) (fun _ => xs) (List.pairwise_singleton _ (s, ()))
    fun _ _ => h
  rw [List.flatMap_singleton] at hone
  exact hone.congr (by simp)

/-- What stands in the elements of the list in a field. -/
theorem listed (key : String) {j : Json} {inside : Json → Path → α → Prop} {f : Json → List α}
    (h : ∀ item ∈ j.listAt key, Enumerates (inside item) (f item)) :
    Enumerates (fun p a => ∃ (i : Nat) (item : Json) (q : Path),
        j.at? [.field key, .index i] = some item ∧ p = .field key :: .index i :: q ∧
          inside item q a)
      ((j.listAt key).flatMap f) := by
  have hlt : (j.listAt key).zipIdx.Pairwise fun x y => x.2 < y.2 := by
    refine List.pairwise_map.1 ?_
    rw [List.zipIdx_map_snd]
    exact List.pairwise_lt_range'
  have hparts := parts inside f
    (List.pairwise_map.2 hlt : ((j.listAt key).zipIdx.map fun x => (Slot.index x.2, x.1)).Pairwise
      fun y z => Slot.Before y.1 z.1) fun y hy => by
    obtain ⟨x, hx, rfl⟩ := List.mem_map.1 hy
    exact h _ (List.mem_of_getElem? (List.mem_zipIdx_iff_getElem?.1 hx))
  have hflat : ((j.listAt key).zipIdx.map fun x => (Slot.index x.2, x.1)).flatMap
      (fun y => f y.2) = (j.listAt key).flatMap f := by
    rw [List.flatMap_map]
    conv_rhs => rw [← List.zipIdx_map_fst 0 (j.listAt key), List.flatMap_map]
  rw [hflat] at hparts
  refine (hparts.under (.field key)).congr fun p a => ?_
  simp only [at?_listed, List.mem_map, Prod.exists, List.mem_zipIdx_iff_getElem?]
  constructor
  · rintro ⟨_, rfl, _, _, ⟨item, i, hitem, heq⟩, q, rfl, hq⟩
    obtain ⟨rfl, rfl⟩ := Prod.mk.inj heq
    exact ⟨i, item, q, hitem, rfl, hq⟩
  · rintro ⟨i, item, q, hitem, rfl, hq⟩
    exact ⟨_, rfl, _, _, ⟨item, i, hitem, rfl⟩, q, rfl, hq⟩

/-- What stands in the fields of an object. -/
theorem fields {j : Json} (hj : j.WellFormed) {inside : String × Json → Path → α → Prop}
    {f : String × Json → List α} (h : ∀ x, Enumerates (inside x) (f x)) :
    Enumerates (fun p a => ∃ key v q, j.get? key = some v ∧ p = .field key :: q ∧
        inside (key, v) q a)
      (j.fields.flatMap f) := by
  have hascending := hj.fields
  have hparts := parts inside f
    (List.pairwise_map.2 hascending : (j.fields.map fun x => (Slot.field x.1, x)).Pairwise
      fun y z => Slot.Before y.1 z.1) fun y _ => h y.2
  rw [List.flatMap_map] at hparts
  refine hparts.congr fun p a => ?_
  simp only [get?_eq_lookup, List.mem_map]
  constructor
  · rintro ⟨_, ⟨x, hx, rfl⟩, q, rfl, hq⟩
    exact ⟨x.1, x.2, q, Keyed.lookup_of_mem hascending hx, rfl, hq⟩
  · rintro ⟨key, v, q, hlookup, rfl, hq⟩
    exact ⟨_, ⟨_, Keyed.mem_of_lookup hlookup, rfl⟩, q, rfl, hq⟩

end Enumerates

end Json

end Appliance
