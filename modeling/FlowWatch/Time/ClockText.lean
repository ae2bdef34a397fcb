import FlowWatch.Text.Numeral
import FlowWatch.Time.Nanos

/-!
# The text of an elapsed time

A count of nanoseconds is written like a clock: hours as they are, minutes and
seconds with two digits, and nine digits of nanoseconds. The parts and their
value are kept apart from the text.
-/

namespace FlowWatch.ClockText

open FlowWatch.Text

/-- An elapsed time in its parts. -/
structure Parts where
  /-- Whole hours. -/
  hours : Nat
  /-- Minutes of the last hour. -/
  minutes : Nat
  /-- Seconds of the last minute. -/
  seconds : Nat
  /-- Nanoseconds of the last second. -/
  nanos : Nat
  deriving DecidableEq, Repr

/-- The parts of a nanosecond count. -/
def Parts.ofNanos (n : Nat) : Parts :=
  let seconds := n / Nanos.perSecond
  ⟨seconds / 60 / 60, seconds / 60 % 60, seconds % 60, n % Nanos.perSecond⟩

/-- The nanosecond count of the parts. -/
def Parts.toNanos (p : Parts) : Nat :=
  ((p.hours * 60 + p.minutes) * 60 + p.seconds) * Nanos.perSecond + p.nanos

/-- The parts as text. -/
def Parts.text (p : Parts) : String :=
  String.ofList (numeral p.hours ++ ':' :: padded 2 p.minutes ++ ':' :: padded 2 p.seconds ++
    '.' :: padded 9 p.nanos)

/-- A nanosecond count of 64 bits written like a clock. -/
def write (n : UInt64) : String := (Parts.ofNanos n.toNat).text

/-- No time is lost between a count and its parts. -/
theorem toNanos_ofNanos (n : Nat) : (Parts.ofNanos n).toNanos = n := by
  simp only [Parts.ofNanos, Parts.toNanos, Nanos.perSecond]
  omega

end FlowWatch.ClockText
