/-!
# Signed nanosecond counts of 64 bits

Timestamps are held in one signed word. The bounds are part of the type, and
an operation whose exact result may leave them says what happens then: it has
no result, or it stops at the nearest bound.
-/

namespace FlowWatch

/-- A signed nanosecond count that fits in 64 bits. -/
structure Nanos where
  /-- The count. -/
  val : Int
  /-- It is not below the least signed word. -/
  atLeast : -9223372036854775808 ≤ val
  /-- It is below the bound of the signed words. -/
  below : val < 9223372036854775808
  deriving DecidableEq

namespace Nanos

/-- Nanoseconds in a second. -/
def perSecond : Nat := 1000000000

/-- The count itself, if it fits. -/
def ofInt? (i : Int) : Option Nanos :=
  if h : -9223372036854775808 ≤ i ∧ i < 9223372036854775808 then some ⟨i, h.1, h.2⟩ else none

/-- The count itself if it fits, otherwise the bound it passes. -/
def clamp (i : Int) : Nanos :=
  ⟨max (-9223372036854775808) (min i 9223372036854775807), by omega, by omega⟩

/-- No time at all. -/
def zero : Nanos := ⟨0, by decide, by decide⟩

/-- The greatest count. -/
def greatest : Nanos := ⟨9223372036854775807, by decide, by decide⟩

/-- The difference, stopped at the bounds. -/
def subClamped (a b : Nanos) : Nanos := clamp (a.val - b.val)

/-- Counts with the same value are the same. -/
@[ext]
theorem ext {a b : Nanos} (h : a.val = b.val) : a = b := by
  cases a; cases b; simp_all

/-- A count that fits is kept by `ofInt?`. -/
theorem ofInt?_val (a : Nanos) : ofInt? a.val = some a := by
  simp only [ofInt?, a.atLeast, a.below, and_self, dite_true]

/-- `ofInt?` gives exactly the count asked for. -/
theorem val_of_ofInt? {i : Int} {a : Nanos} (h : ofInt? i = some a) : a.val = i := by
  unfold ofInt? at h
  split at h
  · simp only [Option.some.injEq] at h; rw [← h]
  · simp at h

/-- `ofInt?` fails exactly outside the signed words. -/
theorem ofInt?_eq_none_iff {i : Int} :
    ofInt? i = none ↔ i < -9223372036854775808 ∨ 9223372036854775808 ≤ i := by
  unfold ofInt?
  split <;> simp <;> omega

/-- A clamped count is the count itself within the bounds. -/
theorem clamp_val {i : Int} (low : -9223372036854775808 ≤ i) (high : i < 9223372036854775808) :
    (clamp i).val = i := by
  simp only [clamp]; omega

/-- Clamping keeps the order. -/
theorem clamp_mono {i j : Int} (h : i ≤ j) : (clamp i).val ≤ (clamp j).val := by
  simp only [clamp]
  omega

/-- Clamping makes nothing negative. -/
theorem clamp_nonneg {i : Int} (h : 0 ≤ i) : 0 ≤ (clamp i).val := by
  simp only [clamp]
  omega

end Nanos

end FlowWatch
