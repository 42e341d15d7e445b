-- SUMMARY: Letting a repeated warning through at most once in a while.

import Appliance.Keyed

namespace Appliance

/-! ## Throttles

A throttle is asked about a key at a time. It refuses a key that it let
through less than a window ago. A refusal does not prolong the window. Times
and windows are in milliseconds. -/

/-- A throttle: its window, and when each key was last let through. -/
structure Throttle where
  window : Nat
  passed : Table String Nat
deriving Inhabited

namespace Throttle

/-- Four hours. -/
def defaultWindow : Nat := 14400000

/-- A throttle that has not been asked yet. -/
def ofWindow (window : Nat) : Throttle := ⟨window, .empty⟩

/-- The key was let through less than a window ago. -/
def isRecent (t : Throttle) (now : Nat) (key : String) : Bool :=
  match t.passed.get? key with
  | some last => now - last < t.window
  | none => false

/-- Whether a key is let through now, and the throttle after that. -/
def ask (t : Throttle) (now : Nat) (key : String) : Bool × Throttle :=
  if t.isRecent now key then (false, t)
  else (true, { t with passed := t.passed.insert key now })

/-- A throttle without a window lets everything through. -/
@[simp] theorem isRecent_of_window_zero (passed : Table String Nat) (now : Nat) (key : String) :
    (Throttle.mk 0 passed).isRecent now key = false := by
  simp only [isRecent]
  split <;> simp

end Throttle

end Appliance
