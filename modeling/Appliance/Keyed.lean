-- SUMMARY: Association lists with strictly ascending keys, and the finite tables built on them.

namespace Appliance

/-! ## Keyed lists

A list of pairs is ascending when each key is smaller than every later one.
Such a list has at most one value per key and only one way of being written
down, so two of them that answer every look-up alike are equal. The fields of
a JSON object and the rows of a `Table` are both kept in this form.

Look-up is `List.lookup`, which does not need the order. `Keyed.put` and
`Keyed.drop` keep it. -/

namespace Keyed

variable {κ α β : Type}

/-- Each key is smaller than all keys after it. -/
def Ascending [Ord κ] (l : List (κ × α)) : Prop :=
  l.Pairwise fun p q => compare p.1 q.1 = .lt

/-- Sets the value of a key, in the key's place. -/
def put [Ord κ] (k : κ) (a : α) : List (κ × α) → List (κ × α)
  | [] => [(k, a)]
  | (k', a') :: r =>
    match compare k k' with
    | .lt => (k, a) :: (k', a') :: r
    | .eq => (k, a) :: r
    | .gt => (k', a') :: put k a r

/-- Leaves out a key. -/
def drop [BEq κ] (k : κ) (l : List (κ × α)) : List (κ × α) :=
  l.filter fun p => !(p.1 == k)

@[simp] theorem put_nil [Ord κ] (k : κ) (a : α) : put k a [] = [(k, a)] := rfl

@[simp] theorem drop_nil [BEq κ] (k : κ) : drop k ([] : List (κ × α)) = [] := rfl

section Lookup

variable [BEq κ]

theorem lookup_cons (k k' : κ) (a : α) (l : List (κ × α)) :
    ((k, a) :: l).lookup k' = if k' == k then some a else l.lookup k' := by
  rw [List.lookup_cons]
  cases k' == k <;> rfl

variable [LawfulBEq κ]

theorem lookup_put [Ord κ] [Std.TransOrd κ] [Std.LawfulEqOrd κ] (k k' : κ) (a : α)
    (l : List (κ × α)) :
    (put k a l).lookup k' = if k' == k then some a else l.lookup k' := by
  induction l with
  | nil => simp [lookup_cons]
  | cons p r ih =>
    obtain ⟨k₁, a₁⟩ := p
    simp only [put]
    split <;> rename_i hc
    · simp [lookup_cons]
    · obtain rfl := Std.LawfulEqOrd.eq_of_compare hc
      by_cases h : k' = k <;> simp [lookup_cons, h]
    · have hne : k₁ ≠ k := by
        rintro rfl
        simp [Std.ReflOrd.compare_self] at hc
      by_cases h : k' = k₁ <;> simp [lookup_cons, ih, h, hne]

theorem lookup_drop (k k' : κ) (l : List (κ × α)) :
    (drop k l).lookup k' = if k' == k then none else l.lookup k' := by
  induction l with
  | nil => simp
  | cons p r ih =>
    obtain ⟨k₁, a₁⟩ := p
    simp only [drop, List.filter_cons] at ih ⊢
    by_cases h₁ : k₁ = k
    · subst h₁
      by_cases h : k' = k₁
      · simpa [h] using ih
      · simpa [lookup_cons, h] using ih
    · by_cases h : k' = k₁ <;> simp [lookup_cons, h₁, h, ih]

theorem lookup_map (f : κ → α → β) (k : κ) (l : List (κ × α)) :
    (l.map fun p => (p.1, f p.1 p.2)).lookup k = (l.lookup k).map (f k) := by
  induction l with
  | nil => rfl
  | cons p r ih =>
    obtain ⟨k₁, a₁⟩ := p
    by_cases h : k = k₁
    · simp [h]
    · simp [lookup_cons, h, ih]

theorem mem_of_lookup {k : κ} {a : α} {l : List (κ × α)} (h : l.lookup k = some a) :
    (k, a) ∈ l := by
  induction l with
  | nil => simp at h
  | cons p r ih =>
    obtain ⟨k₁, a₁⟩ := p
    rw [lookup_cons] at h
    by_cases hk : k = k₁ <;> simp_all

end Lookup

section Order

variable [Ord κ]

theorem mem_put {k : κ} {a : α} {p : κ × α} {l : List (κ × α)} (h : p ∈ put k a l) :
    p = (k, a) ∨ p ∈ l := by
  induction l with
  | nil => simpa using h
  | cons q r ih =>
    simp only [put] at h
    split at h <;> simp only [List.mem_cons] at h ⊢ <;> grind

theorem ascending_put [Std.TransOrd κ] [Std.LawfulEqOrd κ] {k : κ} {a : α} {l : List (κ × α)}
    (h : Ascending l) : Ascending (put k a l) := by
  induction l with
  | nil => simp [Ascending]
  | cons p r ih =>
    obtain ⟨k₁, a₁⟩ := p
    obtain ⟨hhead, htail⟩ := List.pairwise_cons.1 h
    simp only [put]
    split
    · rename_i hc
      refine List.pairwise_cons.2 ⟨fun q hq => ?_, h⟩
      rcases List.mem_cons.1 hq with rfl | hq
      · exact hc
      · exact Std.TransCmp.lt_trans hc (hhead q hq)
    · rename_i hc
      obtain rfl := Std.LawfulEqOrd.eq_of_compare hc
      exact List.pairwise_cons.2 ⟨hhead, htail⟩
    · rename_i hc
      refine List.pairwise_cons.2 ⟨fun q hq => ?_, ih htail⟩
      rcases mem_put hq with rfl | hq
      · exact Std.OrientedCmp.lt_of_gt hc
      · exact hhead q hq

theorem ascending_drop [BEq κ] {k : κ} {l : List (κ × α)} (h : Ascending l) :
    Ascending (drop k l) :=
  h.filter _

theorem ascending_map {f : κ → α → β} {l : List (κ × α)} (h : Ascending l) :
    Ascending (l.map fun p => (p.1, f p.1 p.2)) :=
  List.pairwise_map.2 h

/-- A key above all others goes to the end. -/
theorem put_of_lt [Std.OrientedOrd κ] {k : κ} {a : α} {l : List (κ × α)}
    (h : ∀ p ∈ l, compare p.1 k = .lt) : put k a l = l ++ [(k, a)] := by
  induction l with
  | nil => rfl
  | cons p r ih =>
    obtain ⟨hp, hr⟩ := List.forall_mem_cons.1 h
    simp [put, Std.OrientedCmp.gt_of_lt hp, ih hr]

/-- Setting the keys of an ascending list in their order appends them. -/
theorem foldl_put [Std.OrientedOrd κ] {l l' : List (κ × α)} (h : Ascending (l ++ l')) :
    l'.foldl (fun t p => put p.1 p.2 t) l = l ++ l' := by
  induction l' generalizing l with
  | nil => simp
  | cons p r ih =>
    have hlt : ∀ q ∈ l, compare q.1 p.1 = .lt := fun q hq =>
      (List.pairwise_append.1 h).2.2 q hq p List.mem_cons_self
    rw [List.foldl_cons, put_of_lt hlt, ih (by simpa using h)]
    simp

variable [Std.TransOrd κ]

/-- No key of the tail is the key of the head. -/
theorem ne_of_ascending_cons {p q : κ × α} {l : List (κ × α)} (h : Ascending (p :: l))
    (hq : q ∈ l) : q.1 ≠ p.1 := by
  have hlt := (List.pairwise_cons.1 h).1 q hq
  intro heq
  simp [heq, Std.ReflOrd.compare_self] at hlt

theorem lookup_of_mem [BEq κ] [LawfulBEq κ] {p : κ × α} {l : List (κ × α)} (h : Ascending l)
    (hp : p ∈ l) : l.lookup p.1 = some p.2 := by
  induction l with
  | nil => cases hp
  | cons q r ih =>
    obtain ⟨k₁, a₁⟩ := q
    rcases List.mem_cons.1 hp with rfl | hr
    · simp
    · have hne := ne_of_ascending_cons h hr
      have htail : Ascending r := (List.pairwise_cons.1 h).2
      simp [lookup_cons, hne, ih htail hr]

theorem Ascending.nodup {l : List (κ × α)} (h : Ascending l) : l.Nodup := by
  refine List.Pairwise.imp (fun {p q} hlt heq => ?_) h
  rw [heq, Std.ReflOrd.compare_self] at hlt
  cases hlt

theorem mem_iff_lookup [BEq κ] [LawfulBEq κ] {l : List (κ × α)} (h : Ascending l) (p : κ × α) :
    p ∈ l ↔ l.lookup p.1 = some p.2 :=
  ⟨lookup_of_mem h, mem_of_lookup⟩

/-- Ascending lists that answer every look-up alike are equal. -/
theorem ext [BEq κ] [LawfulBEq κ] {l l' : List (κ × α)} (h : Ascending l) (h' : Ascending l')
    (hl : ∀ k, l.lookup k = l'.lookup k) : l = l' := by
  have hmem : ∀ p, p ∈ l ↔ p ∈ l' := fun p => by
    rw [mem_iff_lookup h, mem_iff_lookup h', hl]
  have hperm : l.Perm l' := (List.perm_ext_iff_of_nodup h.nodup h'.nodup).2 hmem
  refine hperm.eq_of_pairwise (fun p q _ _ hpq hqp => ?_) h h'
  rw [Std.OrientedCmp.gt_of_lt hqp] at hpq
  cases hpq

end Order

end Keyed

/-! ## Tables

A table is an ascending list carried with the proof that it is one. Its rows
come out in key order, and `Table.ext` proves two tables equal from their
look-ups. A table of units is a set of keys. -/

/-- A finite map that lists its rows in the order of their keys. -/
structure Table (κ α : Type) [Ord κ] where
  entries : List (κ × α)
  ascending : Keyed.Ascending entries

namespace Table

variable {κ α β : Type} [Ord κ]

def empty : Table κ α := ⟨[], .nil⟩

instance : EmptyCollection (Table κ α) := ⟨empty⟩

instance : Inhabited (Table κ α) := ⟨empty⟩

def get? [BEq κ] (t : Table κ α) (k : κ) : Option α := t.entries.lookup k

def contains [BEq κ] (t : Table κ α) (k : κ) : Bool := (t.get? k).isSome

def keys (t : Table κ α) : List κ := t.entries.map (·.1)

def values (t : Table κ α) : List α := t.entries.map (·.2)

/-- Forgets a key. -/
def erase [BEq κ] (t : Table κ α) (k : κ) : Table κ α :=
  ⟨Keyed.drop k t.entries, Keyed.ascending_drop t.ascending⟩

/-- Changes each value in its place. -/
def map (f : κ → α → β) (t : Table κ α) : Table κ β :=
  ⟨t.entries.map fun p => (p.1, f p.1 p.2), Keyed.ascending_map t.ascending⟩

section Insert

variable [Std.TransOrd κ] [Std.LawfulEqOrd κ]

/-- Sets the value of a key. -/
def insert (t : Table κ α) (k : κ) (a : α) : Table κ α :=
  ⟨Keyed.put k a t.entries, Keyed.ascending_put t.ascending⟩

/-- The table that maps each key of a list to the unit. -/
def ofKeys (ks : List κ) : Table κ Unit :=
  ks.foldl (fun t k => t.insert k ()) empty

end Insert

section Lookup

variable [BEq κ]

@[simp] theorem get?_empty (k : κ) : (empty : Table κ α).get? k = none := rfl

variable [LawfulBEq κ]

theorem get?_erase (t : Table κ α) (k k' : κ) :
    (t.erase k).get? k' = if k' == k then none else t.get? k' :=
  Keyed.lookup_drop k k' t.entries

@[simp] theorem get?_map (f : κ → α → β) (t : Table κ α) (k : κ) :
    (t.map f).get? k = (t.get? k).map (f k) :=
  Keyed.lookup_map f k t.entries

variable [Std.TransOrd κ]

theorem get?_insert [Std.LawfulEqOrd κ] (t : Table κ α) (k k' : κ) (a : α) :
    (t.insert k a).get? k' = if k' == k then some a else t.get? k' :=
  Keyed.lookup_put k k' a t.entries

@[simp] theorem get?_insert_self [Std.LawfulEqOrd κ] (t : Table κ α) (k : κ) (a : α) :
    (t.insert k a).get? k = some a := by
  simp [get?_insert]

theorem mem_entries_iff {t : Table κ α} {k : κ} {a : α} :
    (k, a) ∈ t.entries ↔ t.get? k = some a :=
  ⟨fun h => Keyed.lookup_of_mem t.ascending h, Keyed.mem_of_lookup⟩

@[ext] theorem ext {t t' : Table κ α} (h : ∀ k, t.get? k = t'.get? k) : t = t' := by
  obtain ⟨l, hl⟩ := t
  obtain ⟨l', hl'⟩ := t'
  obtain rfl : l = l' := Keyed.ext hl hl' h
  rfl

end Lookup

end Table

end Appliance
