import FlowWatch.Time.Duration

/-!
# A clock that is moved by hand

The clock holds an unsigned word of nanoseconds. It can be advanced by a
length, which wraps around at the end of the word, and set to a position, which
never takes it back.
-/

namespace FlowWatch

/-- A clock that moves only when told to. -/
structure ManualClock where
  /-- The position in nanoseconds. -/
  position : UInt64
  deriving DecidableEq

namespace ManualClock

/-- The clock at its origin. -/
def origin : ManualClock := ⟨0⟩

/-- The time since the origin. -/
def elapsed (c : ManualClock) : Duration := Duration.ofWord c.position

/-- The clock moved forward, around the end of the word if need be. -/
def advance (c : ManualClock) (step : Duration) : ManualClock := ⟨c.position + step.toWord⟩

/-- The clock at a later position, or where it was. -/
def set (c : ManualClock) (target : Duration) : ManualClock :=
  ⟨max c.position target.toWord⟩

/-- Setting the clock never takes it back. -/
theorem elapsed_le_set (c : ManualClock) (target : Duration) :
    c.elapsed ≤ (c.set target).elapsed := by
  show c.position.toNat ≤ (max c.position target.toWord).toNat
  simp only [Max.max]
  split
  · rename_i h; exact UInt64.le_iff_toNat_le.1 h
  · exact Nat.le_refl _

/-- An advance that stays within the word moves the clock by exactly its length. -/
theorem advance_nanos (c : ManualClock) (step : Duration)
    (h : c.elapsed.nanos + step.nanos < 18446744073709551616) :
    (c.advance step).elapsed.nanos = c.elapsed.nanos + step.nanos := by
  simp only [elapsed, Duration.ofWord] at h
  simp only [elapsed, Duration.ofWord, advance, UInt64.toNat_add]
  rw [Duration.toWord_toNat (by omega)]
  exact Nat.mod_eq_of_lt h

end ManualClock

end FlowWatch
