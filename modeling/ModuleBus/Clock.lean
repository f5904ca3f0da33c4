set_option autoImplicit false

/-! # Time

Time is counted in microseconds from the start of a run and stands still while anybody can act.
Everybody acts in turns; a timer that is set is over at the earliest in a later turn, even if its
time has come already, so that the others get their turn in between. -/

namespace ModuleBus

/-- Microseconds of a number of milliseconds. -/
def ofMillis (ms : Nat) : Nat := ms * 1000

/-- Whole milliseconds of a number of microseconds. -/
def toMillis (time : Nat) : Nat := time / 1000

/-- The present: a time, and the number of the turn. -/
structure Clock where
  now : Nat
  turn : Nat
deriving DecidableEq, Inhabited

/-- A wait for a point in time. -/
structure Timer where
  due : Nat
  /-- The turn in which the timer was set. -/
  set : Nat
deriving DecidableEq, Inhabited

/-- A timer for a point in time. -/
def Clock.at (c : Clock) (due : Nat) : Timer := ⟨due, c.turn⟩

/-- A timer for a number of milliseconds from now. -/
def Clock.after (c : Clock) (ms : Nat) : Timer := c.at (c.now + ofMillis ms)

/-- The time has come, and it is a later turn. -/
def Timer.isOver (t : Timer) (c : Clock) : Bool := t.due ≤ c.now && t.set < c.turn

/-- A timer is never over early. -/
theorem Timer.due_le_of_isOver {t : Timer} {c : Clock} (h : t.isOver c = true) : t.due ≤ c.now := by
  simp only [isOver, Bool.and_eq_true, decide_eq_true_eq] at h
  exact h.1

end ModuleBus
