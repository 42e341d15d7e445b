-- SUMMARY: Values that remember whether making them changed anything.

namespace Appliance

/-! ## Tracked values

A tracked value is a value with a note of whether it differs from what was
there before. Steps in sequence change something when one of them does. -/

/-- A value, and whether making it changed anything. -/
structure Tracked (α : Type) where
  value : α
  changed : Bool
deriving DecidableEq, Repr

namespace Tracked

variable {α β : Type}

/-- Nothing changed. -/
protected def pure (a : α) : Tracked α := ⟨a, false⟩

/-- One step after another. -/
protected def bind (x : Tracked α) (f : α → Tracked β) : Tracked β :=
  let y := f x.value
  ⟨y.value, x.changed || y.changed⟩

instance : Monad Tracked where
  pure := Tracked.pure
  bind := Tracked.bind

@[simp] theorem value_pure (a : α) : (pure a : Tracked α).value = a := rfl

@[simp] theorem changed_pure (a : α) : (pure a : Tracked α).changed = false := rfl

@[simp] theorem value_bind (x : Tracked α) (f : α → Tracked β) :
    (x >>= f).value = (f x.value).value := rfl

@[simp] theorem changed_bind (x : Tracked α) (f : α → Tracked β) :
    (x >>= f).changed = (x.changed || (f x.value).changed) := rfl

end Tracked

/-- Edits a part that may be missing. -/
def Tracked.within {α : Type} (f : α → Tracked α) : Option α → Tracked (Option α)
  | none => pure none
  | some a => do return some (← f a)

/-- The value of a field after a report on it. A field that is not reported,
    or is reported as it is, keeps its value. -/
def assign {α : Type} [BEq α] (old : α) : Option α → Tracked α
  | none => ⟨old, false⟩
  | some new => if old == new then ⟨old, false⟩ else ⟨new, true⟩

@[simp] theorem assign_none {α : Type} [BEq α] (old : α) : assign old none = ⟨old, false⟩ := rfl

theorem assign_some {α : Type} [BEq α] (old new : α) :
    assign old (some new) = if old == new then ⟨old, false⟩ else ⟨new, true⟩ := rfl

end Appliance
