-- SUMMARY: Equality of values that hold doubles, and the values that equal themselves.

import Appliance.Proofs.Double

namespace Appliance

/-! ## Proper values

Equality of values that hold doubles is symmetric and transitive, but a value
that holds something that is not a number differs from itself. A value is
proper when it does not. -/

def Proper {α : Type} [BEq α] (a : α) : Prop := (a == a) = true

section Proper

variable {α β : Type} [BEq α] [BEq β]

theorem Proper.of_beq [PartialEquivBEq α] {a b : α} (h : (a == b) = true) : Proper b :=
  BEq.trans (BEq.symm h) h

@[simp] theorem proper_of_reflBEq [ReflBEq α] (a : α) : Proper a := BEq.refl a

@[simp] theorem proper_float {x : Float} : Proper x ↔ x ≠ Float.nan := Float.beq_self_iff

@[simp] theorem proper_none : Proper (none : Option α) := rfl

@[simp] theorem proper_some {a : α} : Proper (some a) ↔ Proper a := Iff.rfl

@[simp] theorem proper_nil : Proper ([] : List α) := rfl

@[simp] theorem proper_cons {a : α} {as : List α} :
    Proper (a :: as) ↔ Proper a ∧ Proper as := by
  simp [Proper]

@[simp] theorem proper_append {as bs : List α} :
    Proper (as ++ bs) ↔ Proper as ∧ Proper bs := by
  induction as with
  | nil => simp
  | cons a as ih => simp [ih, and_assoc]

theorem pair_beq (p q : α × β) : (p == q) = (p.1 == q.1 && p.2 == q.2) := rfl

@[simp] theorem proper_pair {a : α} {b : β} : Proper (a, b) ↔ Proper a ∧ Proper b := by
  simp [Proper, pair_beq]

theorem proper_filter {as : List α} (p : α → Bool) (h : Proper as) : Proper (as.filter p) := by
  induction as with
  | nil => exact h
  | cons a as ih =>
    obtain ⟨ha, has⟩ := proper_cons.1 h
    rw [List.filter_cons]
    split
    · exact proper_cons.2 ⟨ha, ih has⟩
    · exact ih has

end Proper

/-! ## Containers -/

section Containers

variable {α β : Type} [BEq α] [BEq β] [PartialEquivBEq α] [PartialEquivBEq β]

instance partialEquivBEq_option : PartialEquivBEq (Option α) where
  symm {a b} h := by
    cases a <;> cases b <;> simp_all [BEq.symm]
  trans {a b c} h h' := by
    cases a <;> cases b <;> cases c <;> simp_all
    exact BEq.trans h h'

instance partialEquivBEq_prod : PartialEquivBEq (α × β) where
  symm {p q} h := by
    simp only [pair_beq, Bool.and_eq_true] at h ⊢
    exact ⟨BEq.symm h.1, BEq.symm h.2⟩
  trans {p q r} h h' := by
    simp only [pair_beq, Bool.and_eq_true] at h h' ⊢
    exact ⟨BEq.trans h.1 h'.1, BEq.trans h.2 h'.2⟩

instance partialEquivBEq_list : PartialEquivBEq (List α) where
  symm {as bs} h := by
    induction as generalizing bs with
    | nil => cases bs <;> simp_all
    | cons a as ih =>
      cases bs with
      | nil => simp_all
      | cons b bs =>
        simp only [List.cons_beq_cons, Bool.and_eq_true] at h ⊢
        exact ⟨BEq.symm h.1, ih h.2⟩
  trans {as bs cs} h h' := by
    induction as generalizing bs cs with
    | nil => cases bs <;> simp_all
    | cons a as ih =>
      cases bs with
      | nil => simp_all
      | cons b bs =>
        cases cs with
        | nil => simp_all
        | cons c cs =>
          simp only [List.cons_beq_cons, Bool.and_eq_true] at h h' ⊢
          exact ⟨BEq.trans h.1 h'.1, ih h.2 h'.2⟩

end Containers

/-! ## JSON values -/

namespace Json

mutual

private theorem beq_symm : ∀ {j j' : Json}, beq j j' = true → beq j' j = true
  | .null, .null, _ => rfl
  | .bool _, .bool _, h => BEq.symm (α := Bool) h
  | .int _, .int _, h => BEq.symm (α := Int) h
  | .float _, .float _, h => BEq.symm (α := Float) h
  | .str _, .str _, h => BEq.symm (α := String) h
  | .arr _, .arr _, h => beqItems_symm h
  | .obj _, .obj _, h => beqFields_symm h

private theorem beqItems_symm :
    ∀ {js js' : List Json}, beqItems js js' = true → beqItems js' js = true
  | [], [], _ => rfl
  | j :: js, j' :: js', h => by
    simp only [beqItems, Bool.and_eq_true] at h ⊢
    exact ⟨beq_symm h.1, beqItems_symm h.2⟩

private theorem beqFields_symm :
    ∀ {fs fs' : List (String × Json)}, beqFields fs fs' = true → beqFields fs' fs = true
  | [], [], _ => rfl
  | (k, j) :: fs, (k', j') :: fs', h => by
    simp only [beqFields, Bool.and_eq_true] at h ⊢
    exact ⟨⟨BEq.symm h.1.1, beq_symm h.1.2⟩, beqFields_symm h.2⟩

private theorem beq_trans :
    ∀ {j j' j'' : Json}, beq j j' = true → beq j' j'' = true → beq j j'' = true
  | .null, .null, .null, _, _ => rfl
  | .bool _, .bool _, .bool _, h, h' => BEq.trans (α := Bool) h h'
  | .int _, .int _, .int _, h, h' => BEq.trans (α := Int) h h'
  | .float _, .float _, .float _, h, h' => BEq.trans (α := Float) h h'
  | .str _, .str _, .str _, h, h' => BEq.trans (α := String) h h'
  | .arr _, .arr _, .arr _, h, h' => beqItems_trans h h'
  | .obj _, .obj _, .obj _, h, h' => beqFields_trans h h'

private theorem beqItems_trans :
    ∀ {js js' js'' : List Json}, beqItems js js' = true → beqItems js' js'' = true →
      beqItems js js'' = true
  | [], [], [], _, _ => rfl
  | j :: js, j' :: js', j'' :: js'', h, h' => by
    simp only [beqItems, Bool.and_eq_true] at h h' ⊢
    exact ⟨beq_trans h.1 h'.1, beqItems_trans h.2 h'.2⟩

private theorem beqFields_trans :
    ∀ {fs fs' fs'' : List (String × Json)}, beqFields fs fs' = true →
      beqFields fs' fs'' = true → beqFields fs fs'' = true
  | [], [], [], _, _ => rfl
  | (k, j) :: fs, (k', j') :: fs', (k'', j'') :: fs'', h, h' => by
    simp only [beqFields, Bool.and_eq_true] at h h' ⊢
    exact ⟨⟨BEq.trans h.1.1 h'.1.1, beq_trans h.1.2 h'.1.2⟩, beqFields_trans h.2 h'.2⟩

end

instance : PartialEquivBEq Json where
  symm := beq_symm
  trans := beq_trans

/-! ### Well-formed values

The values that are read have finite numbers, and the names in their objects
ascend, so that no object has two fields of one name. -/

mutual

def WellFormed : Json → Prop
  | .float x => x.isFinite = true
  | .arr items => WellFormedItems items
  | .obj fields => Keyed.Ascending fields ∧ WellFormedFields fields
  | _ => True

def WellFormedItems : List Json → Prop
  | [] => True
  | j :: js => j.WellFormed ∧ WellFormedItems js

def WellFormedFields : List (String × Json) → Prop
  | [] => True
  | (_, j) :: fs => j.WellFormed ∧ WellFormedFields fs

end

theorem wellFormedItems_iff {js : List Json} : WellFormedItems js ↔ ∀ j ∈ js, j.WellFormed := by
  induction js with
  | nil => simp [WellFormedItems]
  | cons j js ih => simp [WellFormedItems, ih]

theorem wellFormedFields_iff {fs : List (String × Json)} :
    WellFormedFields fs ↔ ∀ f ∈ fs, f.2.WellFormed := by
  induction fs with
  | nil => simp [WellFormedFields]
  | cons f fs ih => simp [WellFormedFields, ih]

theorem WellFormed.arr {js : List Json} : (Json.arr js).WellFormed ↔ ∀ j ∈ js, j.WellFormed :=
  wellFormedItems_iff

theorem WellFormed.obj {fs : List (String × Json)} :
    (Json.obj fs).WellFormed ↔ Keyed.Ascending fs ∧ ∀ f ∈ fs, f.2.WellFormed :=
  and_congr_right fun _ => wellFormedFields_iff

mutual

private theorem beq_self : ∀ {j : Json}, j.WellFormed → beq j j = true
  | .null, _ => rfl
  | .bool b, _ => BEq.refl b
  | .int i, _ => BEq.refl i
  | .float _, h => Float.beq_self_iff.2 (Double.ne_nan_of_isFinite h)
  | .str s, _ => BEq.refl s
  | .arr _, h => beqItems_self h
  | .obj _, h => beqFields_self h.2

private theorem beqItems_self : ∀ {js : List Json}, WellFormedItems js → beqItems js js = true
  | [], _ => rfl
  | j :: js, h => by
    rw [beqItems, beq_self h.1, beqItems_self h.2]
    rfl

private theorem beqFields_self :
    ∀ {fs : List (String × Json)}, WellFormedFields fs → beqFields fs fs = true
  | [], _ => rfl
  | (k, j) :: fs, h => by
    rw [beqFields, beq_self h.1, beqFields_self h.2]
    simp

end

theorem WellFormed.proper {j : Json} (h : j.WellFormed) : Proper j := beq_self h

theorem WellFormed.ofFloat (x : Float) : (Json.ofFloat x).WellFormed := by
  unfold Json.ofFloat
  split
  · assumption
  · trivial

/-! ### Parts of well-formed values -/

namespace WellFormed

variable {j : Json}

theorem get? (h : j.WellFormed) {key : String} {v : Json} (hv : j.get? key = some v) :
    v.WellFormed := by
  cases j with
  | obj fs =>
    obtain ⟨-, hfs⟩ := WellFormed.obj.1 h
    exact hfs _ (Keyed.mem_of_lookup hv)
  | _ => cases hv

theorem descend? (h : j.WellFormed) {path : List String} {v : Json}
    (hv : j.descend? path = some v) : v.WellFormed := by
  induction path generalizing j with
  | nil =>
    cases hv
    exact h
  | cons key path ih =>
    rw [descend?_cons, Option.bind_eq_some_iff] at hv
    obtain ⟨w, hw, hv⟩ := hv
    exact ih (h.get? hw) hv

theorem asItems? (h : j.WellFormed) {items : List Json} (hi : j.asItems? = some items) :
    ∀ i ∈ items, i.WellFormed := by
  cases j with
  | arr items' =>
    cases hi
    exact WellFormed.arr.1 h
  | _ => cases hi

theorem asFields? (h : j.WellFormed) {fields : List (String × Json)}
    (hf : j.asFields? = some fields) :
    Keyed.Ascending fields ∧ ∀ f ∈ fields, f.2.WellFormed := by
  cases j with
  | obj fields' =>
    cases hf
    exact WellFormed.obj.1 h
  | _ => cases hf

theorem asFloat? (h : j.WellFormed) {x : Float} (hx : j.asFloat? = some x) : x ≠ Float.nan := by
  cases j with
  | int i =>
    cases hx
    exact Double.ofInt_ne_nan i
  | float y =>
    cases hx
    exact Double.ne_nan_of_isFinite h
  | _ => cases hx

theorem floatAt? (h : j.WellFormed) {key : String} {x : Float}
    (hx : j.floatAt? key = some x) : x ≠ Float.nan := by
  obtain ⟨v, hv, hx⟩ := Option.bind_eq_some_iff.1 hx
  exact (h.get? hv).asFloat? hx

theorem ofFields {fields : List (String × Json)} (h : ∀ f ∈ fields, f.2.WellFormed) :
    (Json.ofFields fields).WellFormed := by
  have hfold : ∀ (l made : List (String × Json)), (∀ f ∈ l, f.2.WellFormed) →
      (Json.obj made).WellFormed →
      (Json.obj (l.foldl (fun fs f => Keyed.put f.1 f.2 fs) made)).WellFormed := by
    intro l
    induction l with
    | nil => exact fun made _ hmade => hmade
    | cons f l ih =>
      intro made hl hmade
      obtain ⟨hascending, hfields⟩ := WellFormed.obj.1 hmade
      refine ih _ (fun g hg => hl g (List.mem_cons_of_mem _ hg)) (WellFormed.obj.2 ⟨?_, ?_⟩)
      · exact Keyed.ascending_put hascending
      · intro g hg
        rcases Keyed.mem_put hg with rfl | hg
        · exact hl f (List.mem_cons_self ..)
        · exact hfields g hg
  exact hfold fields [] h (WellFormed.obj.2 ⟨.nil, by simp⟩)

end WellFormed

end Json

end Appliance
