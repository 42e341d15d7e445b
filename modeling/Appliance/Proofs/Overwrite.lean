-- SUMMARY: What a row of reports leaves, and the rows that change nothing when they come after another.

import Appliance.Proofs.EntityOp

namespace Appliance

/-! ## Rows of values

A value that is reported replaces the one before unless the two are equal.
Equal values need not be the same, so what a row of values leaves can hang on
what was there before, and on each value of the row. -/

namespace Part

variable {α β : Type} [BEq α] [BEq β]

/-- The value of a part after a row of values was reported for it. -/
def overwrite (vs : List α) (a : α) : α := vs.foldl (fun a v => (assign a (some v)).value) a

@[simp] theorem overwrite_nil (a : α) : overwrite [] a = a := rfl

@[simp] theorem overwrite_cons (v : α) (vs : List α) (a : α) :
    overwrite (v :: vs) a = overwrite vs (assign a (some v)).value := rfl

theorem overwrite_append (vs ws : List α) (a : α) :
    overwrite (vs ++ ws) a = overwrite ws (overwrite vs a) := List.foldl_append

theorem value_assign_of_beq {a v : α} (h : (a == v) = true) : (assign a (some v)).value = a := by
  rw [assign_some, if_pos h]

theorem value_assign_of_not_beq {a v : α} (h : (a == v) = false) :
    (assign a (some v)).value = v := by
  rw [assign_some, h]
  rfl

/-- A row that says the same all along changes nothing. -/
theorem overwrite_of_beq {vs : List α} {a : α} (h : ∀ v ∈ vs, (a == v) = true) :
    overwrite vs a = a := by
  induction vs with
  | nil => rfl
  | cons v vs ih =>
    rw [overwrite_cons, value_assign_of_beq (h v (List.mem_cons_self ..))]
    exact ih fun w hw => h w (List.mem_cons_of_mem _ hw)

/-- What a row leaves was there before or is of the row. -/
theorem overwrite_induction {P : α → Prop} {vs : List α} {a : α} (ha : P a)
    (h : ∀ v ∈ vs, P v) : P (overwrite vs a) := by
  induction vs generalizing a with
  | nil => exact ha
  | cons v vs ih =>
    have hv : P (assign a (some v)).value := by
      rw [assign_some]
      split
      · exact ha
      · exact h v (List.mem_cons_self ..)
    exact ih hv fun w hw => h w (List.mem_cons_of_mem _ hw)

theorem overwrite_lawful {α : Type} [BEq α] [LawfulBEq α] (vs : List α) (a : α) :
    overwrite vs a = vs.getLast?.getD a := by
  induction vs generalizing a with
  | nil => rfl
  | cons v vs ih =>
    have hv : (assign a (some v)).value = v := by
      cases h : a == v with
      | true =>
        rw [value_assign_of_beq h]
        exact eq_of_beq h
      | false => exact value_assign_of_not_beq h
    rw [overwrite_cons, hv, ih, List.getLast?_cons, Option.getD_some]

theorem value_assign_beq {a v : α} (hv : Proper v) : ((assign a (some v)).value == v) = true := by
  cases h : a == v with
  | true =>
    rw [value_assign_of_beq h]
    exact h
  | false =>
    rw [value_assign_of_not_beq h]
    exact hv

section PartialEquiv

variable [PartialEquivBEq α]

/-- Over equal values a row leaves the same, or it leaves both as they are. -/
theorem overwrite_beq {a b : α} (h : (a == b) = true) (vs : List α) :
    overwrite vs a = overwrite vs b ∨ overwrite vs a = a ∧ overwrite vs b = b := by
  induction vs with
  | nil => exact .inr ⟨rfl, rfl⟩
  | cons v vs ih =>
    rw [overwrite_cons, overwrite_cons]
    cases hv : a == v with
    | true =>
      rw [value_assign_of_beq hv, value_assign_of_beq (BEq.trans (BEq.symm h) hv)]
      exact ih
    | false =>
      have hbv : (b == v) = false := by
        rw [← Bool.not_eq_true] at hv ⊢
        intro hbv
        exact hv (BEq.trans h hbv)
      rw [value_assign_of_not_beq hv, value_assign_of_not_beq hbv]
      exact .inl rfl

/-- A row that comes again changes nothing. What counts is that its first value
    makes the two times equal; from there they go the same way. -/
theorem overwrite_overwrite {vs : List α} (h : ∀ v ∈ vs, Proper v) (a : α) :
    overwrite vs (overwrite vs a) = overwrite vs a := by
  cases vs with
  | nil => rfl
  | cons v vs =>
    have hv : Proper v := h v (List.mem_cons_self ..)
    generalize hb : overwrite (v :: vs) a = b
    rw [overwrite_cons] at hb ⊢
    have hfirst : ((assign a (some v)).value == (assign b (some v)).value) = true :=
      BEq.trans (value_assign_beq hv) (BEq.symm (value_assign_beq hv))
    rcases overwrite_beq hfirst vs with hsame | ⟨hkeep, hkeep'⟩
    · rw [← hsame, hb]
    · rw [hkeep] at hb
      rw [hkeep']
      refine value_assign_of_beq ?_
      rw [← hb]
      exact value_assign_beq hv

end PartialEquiv

/-! ### Steady rows

In a steady row, equal neighbours are the same. It leaves its last value, where
it changes anything. -/

def Steady (vs : List α) : Prop := vs.IsChain fun v w => (v == w) = true → v = w

theorem Steady.getLast?_of_beq {v : α} {vs : List α} (h : Steady (v :: vs))
    (hv : ∀ w ∈ vs, (v == w) = true) : (v :: vs).getLast? = some v := by
  induction vs with
  | nil => rfl
  | cons w vs ih =>
    obtain ⟨hvw, hrest⟩ := List.isChain_cons_cons.1 h
    obtain rfl : v = w := hvw (hv w (List.mem_cons_self ..))
    rw [List.getLast?_cons_cons]
    exact ih hrest fun w hw => hv w (List.mem_cons_of_mem _ hw)

theorem Steady.overwrite {vs : List α} (h : Steady vs) (a : α) :
    (∀ v ∈ vs, (a == v) = true) ∨ vs.getLast? = some (overwrite vs a) := by
  induction vs generalizing a with
  | nil => exact .inl fun v hv => by cases hv
  | cons v vs ih =>
    have hrest : Steady vs := h.tail
    have hlast : ∀ b, vs.getLast? = some (Part.overwrite vs b) →
        (v :: vs).getLast? = some (Part.overwrite vs b) := by
      intro b hb
      rw [List.getLast?_cons, hb, Option.getD_some]
    rw [overwrite_cons]
    cases hv : a == v with
    | true =>
      rw [value_assign_of_beq hv]
      rcases ih hrest a with hall | hb
      · exact .inl fun w hw => (List.mem_cons.1 hw).elim (fun h => h ▸ hv) (hall w)
      · exact .inr (hlast a hb)
    | false =>
      rw [value_assign_of_not_beq hv]
      rcases ih hrest v with hall | hb
      · rw [overwrite_of_beq hall]
        exact .inr (h.getLast?_of_beq hall)
      · exact .inr (hlast v hb)

/-- Two steady rows that end in the same leave the same one after the other, if
    what the first says all along the second says, too. -/
theorem Steady.overwrite_overwrite {vs ws : List α} (hvs : Steady vs) (hws : Steady ws)
    (hlast : ws.getLast? = vs.getLast?) {a : α}
    (hall : (∀ v ∈ vs, (a == v) = true) → ∀ w ∈ ws, (a == w) = true) :
    Part.overwrite ws (Part.overwrite vs a) = Part.overwrite vs a := by
  rcases hvs.overwrite a with hv | hv
  · rw [overwrite_of_beq hv, overwrite_of_beq (hall hv)]
  · rcases hws.overwrite (Part.overwrite vs a) with hw | hw
    · exact overwrite_of_beq hw
    · rw [hlast, hv] at hw
      exact (Option.some.inj hw).symm

/-- Where equal is the same, every row leaves its last value. -/
theorem overwrite_lawful_again {α : Type} [BEq α] [LawfulBEq α] {vs ws : List α}
    (hlast : ws.getLast? = vs.getLast?) (a : α) :
    overwrite ws (overwrite vs a) = overwrite vs a := by
  rw [overwrite_lawful, overwrite_lawful, hlast]
  cases vs.getLast? <;> rfl

/-! ### Trails

A row of values for one part may be copied, with a function on top, into
another part. What is copied is what each value left. -/

/-- What is copied while a row of values comes in. -/
def trail (f : α → β) : List α → α → List β
  | [], _ => []
  | v :: vs, a => f (assign a (some v)).value :: trail f vs (assign a (some v)).value

theorem isEmpty_trail {γ : Type} (f : α → γ) (vs : List α) (a : α) :
    (trail f vs a).isEmpty = vs.isEmpty := by
  cases vs <;> rfl

section Trail

variable [PartialEquivBEq α] [PartialEquivBEq β] {f : α → β}
  (hf : ∀ {a b}, (a == b) = true → (f a == f b) = true)
include hf

/-- Where the copy agrees with the part, equal parts and equal copies go the
    same way: as long as the part stays, the copy does. -/
theorem overwrite_trail {a b : α} {x y : β} (hab : (a == b) = true) (hxy : (x == y) = true)
    (hxa : (x == f a) = true) (vs : List α) :
    overwrite (trail f vs a) x = overwrite (trail f vs b) y ∨
      overwrite (trail f vs a) x = x ∧ overwrite (trail f vs b) y = y := by
  induction vs with
  | nil => exact .inr ⟨rfl, rfl⟩
  | cons v vs ih =>
    simp only [trail, overwrite_cons]
    cases hv : a == v with
    | true =>
      have hyb : (y == f b) = true := BEq.trans (BEq.symm hxy) (BEq.trans hxa (hf hab))
      rw [value_assign_of_beq hv, value_assign_of_beq (BEq.trans (BEq.symm hab) hv),
        value_assign_of_beq hxa, value_assign_of_beq hyb]
      exact ih
    | false =>
      have hbv : (b == v) = false := by
        rw [← Bool.not_eq_true] at hv ⊢
        intro hbv
        exact hv (BEq.trans hab hbv)
      rw [value_assign_of_not_beq hv, value_assign_of_not_beq hbv]
      exact overwrite_beq hxy (f v :: trail f vs v)

/-- When the row comes again, nothing of what is copied then changes the copy. -/
theorem overwrite_trail_trail {vs : List α} (h : ∀ v ∈ vs, Proper v) (a : α) (x : β) :
    overwrite (trail f vs (overwrite vs a)) (overwrite (trail f vs a) x) =
      overwrite (trail f vs a) x := by
  cases vs with
  | nil => rfl
  | cons v vs =>
    have hv : Proper v := h v (List.mem_cons_self ..)
    generalize hb : overwrite (v :: vs) a = b
    generalize hy : overwrite (trail f (v :: vs) a) x = y
    simp only [trail, overwrite_cons] at hy ⊢
    generalize hv₁ : (assign a (some v)).value = a₁ at hy
    generalize hv₂ : (assign b (some v)).value = b₁
    have hab : (a₁ == b₁) = true := by
      rw [← hv₁, ← hv₂]
      exact BEq.trans (value_assign_beq hv) (BEq.symm (value_assign_beq hv))
    have hfab : (f a₁ == f b₁) = true := hf hab
    have hfa : Proper (f a₁) := .of_beq (BEq.symm hfab)
    have hfb : Proper (f b₁) := .of_beq hfab
    have hx : ((assign x (some (f a₁))).value == f a₁) = true := value_assign_beq hfa
    have hxy : ((assign x (some (f a₁))).value == (assign y (some (f b₁))).value) = true :=
      BEq.trans hx (BEq.trans hfab (BEq.symm (value_assign_beq hfb)))
    rcases overwrite_trail hf hab hxy hx vs with hsame | ⟨hkeep, hkeep'⟩
    · rw [← hsame, hy]
    · rw [hkeep] at hy
      rw [hkeep']
      refine value_assign_of_beq ?_
      rw [← hy]
      exact BEq.trans hx hfab

end Trail

end Part

/-! ## Rows of operations -/

namespace EntityOp

/-- Entities of the kind hear something. -/
def heard (kind : Kind) (op : EntityOp) : Bool := (op.report? kind).isSome

/-- What an operation reports for a part. -/
def says? (kind : Kind) (p : Part) (op : EntityOp) : Option p.Value :=
  (op.report? kind).bind fun ρ => ρ p

theorem says?_of_not_heard {kind : Kind} {op : EntityOp} (h : op.heard kind = false) (p : Part) :
    says? kind p op = none := by
  rw [heard, Option.isSome_eq_false_iff, Option.isNone_iff_eq_none] at h
  rw [says?, h, Option.bind_none]

/-- What a row of operations reports for a part. -/
def writes (kind : Kind) (p : Part) (ops : List EntityOp) : List p.Value :=
  ops.filterMap (says? kind p)

@[simp] theorem writes_nil (kind : Kind) (p : Part) : writes kind p [] = [] := rfl

@[simp] theorem writes_append (kind : Kind) (p : Part) (ops ops' : List EntityOp) :
    writes kind p (ops ++ ops') = writes kind p ops ++ writes kind p ops' :=
  List.filterMap_append

theorem writes_singleton (kind : Kind) (p : Part) (op : EntityOp) :
    writes kind p [op] = (says? kind p op).toList := by
  unfold writes
  cases h : says? kind p op <;> simp [h]

theorem getLast?_writes_concat {kind : Kind} {p : Part} {op : EntityOp} {v : p.Value}
    (h : says? kind p op = some v) (ops : List EntityOp) :
    (writes kind p (ops ++ [op])).getLast? = some v := by
  rw [writes_append, writes_singleton, h]
  exact List.getLast?_concat ..

theorem any_heard_concat {kind : Kind} {op : EntityOp} (h : op.heard kind = true)
    (ops : List EntityOp) :
    (ops ++ [op]).any (·.heard kind) = true := by
  rw [List.any_append, List.any_cons, h, Bool.true_or, Bool.or_true]

theorem proper_writes {kind : Kind} {p : Part} {ops : List EntityOp} (h : ∀ op ∈ ops, op.Proper) :
    ∀ v ∈ writes kind p ops, Appliance.Proper v := by
  intro v hv
  obtain ⟨op, hop, hsays⟩ := List.mem_filterMap.1 hv
  obtain ⟨ρ, hρ, hp⟩ := Option.bind_eq_some_iff.1 hsays
  exact h op hop kind ρ hρ p v hp

end EntityOp

namespace Entity

/-- The second entity is the first after a row of operations, but for where it
    is registered. -/
structure TookOps (ops : List EntityOp) (e e' : Entity) : Prop where
  frame : e' = { e with status := e'.status, namespaces := e'.namespaces }
  clear : e'.status.clear = e.status.clear
  available : e'.status.available = (e.status.available || ops.any (·.heard e.kind))
  datum : ∀ p, e'.status.datum? p =
    (e.status.datum? p).map (Part.overwrite (EntityOp.writes e.kind p ops))

namespace TookOps

variable {ops ops' : List EntityOp} {e e' e'' : Entity}

theorem kind (h : TookOps ops e e') : e'.kind = e.kind := by rw [h.frame]

/-- A part that no operation reports stays. -/
theorem datum_of_unsaid (h : TookOps ops e e') {p : Part} (hp : EntityOp.writes e.kind p ops = []) :
    e'.status.datum? p = e.status.datum? p := by
  rw [h.datum, hp]
  exact Option.map_id'

/-- Registering takes no operation. -/
theorem nil (e : Entity) (nss : Table Namespace Unit) : TookOps [] e
    { e with namespaces := nss } where
  frame := rfl
  clear := rfl
  available := by rw [List.any_nil, Bool.or_false]
  datum p := Option.map_id'.symm

theorem append (h : TookOps ops e e') (h' : TookOps ops' e' e'') : TookOps (ops ++ ops') e e'' where
  frame := by rw [h'.frame, h.frame]
  clear := h'.clear.trans h.clear
  available := by
    rw [h'.available, h.available, h.kind, List.any_append, Bool.or_assoc]
  datum p := by
    rw [h'.datum, h.datum, h.kind, Option.map_map, EntityOp.writes_append]
    congr 1
    funext a
    exact (Part.overwrite_append ..).symm

theorem run {op : EntityOp} (h : e.Sound) (hop : op ≠ .unavailable) : TookOps [op] e
    (op.run e).entity := by
  have hears := EntityOp.hears_run h hop
  have hframe := EntityOp.run_frame op h
  refine ⟨?_, EntityOp.clear_run op h, ?_, fun p => ?_⟩
  · rw [hframe]
  · rw [List.any_cons, List.any_nil, Bool.or_false, EntityOp.heard]
    cases hr : op.report? e.kind with
    | none =>
      rw [hr] at hears
      rw [hears.1, Option.isSome_none, Bool.or_false]
    | some ρ =>
      rw [hr] at hears
      rw [hears.available, Option.isSome_some, Bool.or_true]
  · rw [EntityOp.writes_singleton, EntityOp.says?]
    cases hr : op.report? e.kind with
    | none =>
      rw [hr] at hears
      rw [hears.1]
      exact Option.map_id'.symm
    | some ρ =>
      rw [hr] at hears
      rw [hears.settles.datum, Option.bind_some]
      cases ρ p with
      | none => cases e.status.datum? p <;> rfl
      | some v => cases e.status.datum? p <;> rfl

end TookOps

/-! ### Rows that change nothing -/

/-- After the first row the second changes nothing. -/
structure Replays (kind : Kind) (ops ops' : List EntityOp) : Prop where
  heard : ops'.any (·.heard kind) = true → ops.any (·.heard kind) = true
  overwrite : ∀ p a, Part.overwrite (EntityOp.writes kind p ops')
    (Part.overwrite (EntityOp.writes kind p ops) a) = Part.overwrite (EntityOp.writes kind p ops) a

theorem replays_self {kind : Kind} {ops : List EntityOp} (h : ∀ op ∈ ops, op.Proper) :
    Replays kind ops ops :=
  ⟨fun hheard => hheard, fun _ => Part.overwrite_overwrite (EntityOp.proper_writes h)⟩

theorem TookOps.replay {ops ops' : List EntityOp} {e₀ e e' : Entity} (h : TookOps ops e₀ e)
    (h' : TookOps ops' e e') (hreplays : Replays e.kind ops ops') (hs : e.Sound) (hs' : e'.Sound) :
    e'.status = e.status := by
  refine Status.ext_datum hs'.consistent hs.consistent h'.clear ?_ fun p => ?_
  · rw [h'.available]
    cases hheard : ops'.any (·.heard e.kind) with
    | false => exact Bool.or_false _
    | true =>
      have hfirst := hreplays.heard hheard
      rw [h.kind] at hfirst
      rw [h.available, hfirst, Bool.or_true, Bool.or_true]
  · rw [h'.datum, h.datum, h.kind, Option.map_map]
    congr 1
    funext a
    rw [← h.kind]
    exact hreplays.overwrite p a

end Entity

end Appliance
