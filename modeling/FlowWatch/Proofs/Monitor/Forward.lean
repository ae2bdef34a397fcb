import FlowWatch.Proofs.Monitor.Moves

/-!
# Runs in which the clock goes forward

An advance takes the clock back exactly if it goes past the end of its word; no
other operation ever does. As long as no advance wraps, the readings of a run are
in order, however far apart they are.
-/

namespace FlowWatch

namespace ManualClock

/-- Whether an advance goes past the end of the word. -/
def wraps (c : ManualClock) (step : Duration) : Bool :=
  18446744073709551616 ≤ c.position.toNat + step.toWord.toNat

/-- The reading after an advance, which comes back to zero after every 2^64
nanoseconds. -/
theorem elapsed_advance_nanos (c : ManualClock) (step : Duration) :
    (c.advance step).elapsed.nanos =
      (c.position.toNat + step.toWord.toNat) % 18446744073709551616 :=
  UInt64.toNat_add _ _

/-- An advance takes the clock back exactly if it wraps. -/
theorem elapsed_le_advance_iff (c : ManualClock) (step : Duration) :
    c.elapsed ≤ (c.advance step).elapsed ↔ c.wraps step = false := by
  have hposition := c.position.toNat_lt
  have hstep := step.toWord.toNat_lt
  have hafter := c.elapsed_advance_nanos step
  show c.position.toNat ≤ (c.advance step).elapsed.nanos ↔ decide _ = false
  rw [hafter, decide_eq_false_iff_not]
  omega

end ManualClock

namespace Monitor

/-- Whether an operation takes the clock past the end of its word. -/
def Operation.wraps (clock : ManualClock) : Operation → Bool
  | .advance step => clock.wraps step
  | _ => false

namespace Session

/-- No advance of a run wraps. -/
def Unwrapped (s : Session) : List Operation → Prop
  | [] => True
  | operation :: rest =>
    operation.wraps s.clock = false ∧ (s.step operation).session.Unwrapped rest

/-- Whether an advance wraps is decided along the run. -/
instance decideUnwrapped (s : Session) : (operations : List Operation) →
    Decidable (s.Unwrapped operations)
  | [] => inferInstanceAs (Decidable True)
  | operation :: rest =>
    have := decideUnwrapped (s.step operation).session rest
    inferInstanceAs (Decidable (_ ∧ _))

/-- Attaching a probe does not move the clock. -/
theorem attach_clock (s : Session) (point : Point) (tracker : Nat) :
    (s.attach point tracker).session.clock = s.clock := by
  unfold attach
  split
  · rfl
  · split <;> rfl

/-- Registering a probe does not move the clock. -/
theorem register_clock (s : Session) (text : String) (tracker : Nat) :
    (s.register text tracker).session.clock = s.clock := by
  unfold register
  split
  · rfl
  · rfl
  · exact s.attach_clock _ tracker

/-- An operation that does not wrap the clock does not take it back. -/
theorem now_le_step {s : Session} {operation : Operation}
    (h : operation.wraps s.clock = false) : s.now ≤ (s.step operation).session.now := by
  cases operation with
  | register text tracker =>
    show s.now ≤ (s.register text tracker).session.clock.elapsed
    rw [register_clock]
    exact Nat.le_refl _
  | attach point tracker =>
    show s.now ≤ (s.attach point tracker).session.clock.elapsed
    rw [attach_clock]
    exact Nat.le_refl _
  | advance step => exact (s.clock.elapsed_le_advance_iff step).2 h
  | set target => exact s.clock.elapsed_le_set target
  | _ => exact Nat.le_refl _

/-- A run that never wraps ends no earlier than it starts. -/
theorem Unwrapped.now_le_run {s : Session} {operations : List Operation}
    (h : s.Unwrapped operations) : s.now ≤ (s.run operations).1.now := by
  induction operations generalizing s with
  | nil => exact Nat.le_refl _
  | cons operation rest ih => exact Nat.le_trans (now_le_step h.1) (ih h.2)

end Session

end Monitor

end FlowWatch
