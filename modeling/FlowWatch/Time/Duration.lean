import FlowWatch.Binary64.Basic
import FlowWatch.Text.Numeral
import FlowWatch.Time.Nanos

/-!
# Lengths of time

A length of time is a count of nanoseconds whose whole seconds fit in an
unsigned 64-bit word. Clocks and thresholds are compared on it. This module
also holds its short text for logs: one unit, with a fraction where needed.
The text of configuration files is another one and stands elsewhere.
-/

namespace FlowWatch

/-- A length of time. -/
structure Duration where
  /-- The whole length in nanoseconds. -/
  nanos : Nat
  /-- The whole seconds fit in an unsigned 64-bit word. -/
  bounded : nanos < 18446744073709551616000000000
  deriving DecidableEq

namespace Duration

/-- Lengths are ordered by their nanoseconds. -/
instance : LT Duration := ⟨fun a b => a.nanos < b.nanos⟩

/-- Lengths are ordered by their nanoseconds. -/
instance : LE Duration := ⟨fun a b => a.nanos ≤ b.nanos⟩

/-- The strict order is decided on nanoseconds. -/
instance (a b : Duration) : Decidable (a < b) := inferInstanceAs (Decidable (a.nanos < b.nanos))

/-- The order is decided on nanoseconds. -/
instance (a b : Duration) : Decidable (a ≤ b) := inferInstanceAs (Decidable (a.nanos ≤ b.nanos))

/-- The longer of two lengths. -/
instance : Max Duration := ⟨fun a b => if a ≤ b then b else a⟩

/-- Equal nanoseconds make equal lengths. -/
@[ext]
theorem ext {a b : Duration} (h : a.nanos = b.nanos) : a = b := by
  cases a; cases b; simp_all

/-- The longer of two lengths has the greater count. -/
theorem nanos_max (a b : Duration) : (max a b).nanos = max a.nanos b.nanos := by
  show (if a.nanos ≤ b.nanos then b else a).nanos = max a.nanos b.nanos
  split <;> omega

/-- No time at all. -/
def zero : Duration := ⟨0, by decide⟩

/-- The length of so many nanoseconds, if the seconds fit. -/
def ofNanos? (n : Nat) : Option Duration :=
  if h : n < 18446744073709551616000000000 then some ⟨n, h⟩ else none

/-- An unsigned word of nanoseconds. -/
def ofWord (n : UInt64) : Duration :=
  ⟨n.toNat, by have := n.toNat_lt; omega⟩

/-- The greatest length that a signed word of nanoseconds can hold. -/
def greatestSigned : Duration := ⟨9223372036854775807, by decide⟩

/-- The whole seconds. -/
def seconds (d : Duration) : Nat := d.nanos / Nanos.perSecond

/-- The nanoseconds beyond the whole seconds. -/
def subNanos (d : Duration) : Nat := d.nanos % Nanos.perSecond

/-- The length as a signed word, at most the greatest one. -/
def toSigned (d : Duration) : Nanos := Nanos.clamp d.nanos

/-- The length as an unsigned word, at most the greatest one. -/
def toWord (d : Duration) : UInt64 := UInt64.ofNat (min d.nanos 18446744073709551615)

/-- A signed word as a length, with nothing for a negative one. -/
def ofSigned? (n : Nanos) : Option Duration :=
  if h : 0 ≤ n.val then
    some ⟨n.val.toNat, by have := n.below; omega⟩
  else none

/-- The nearest length in nanoseconds to a finite number of seconds that is not
negative, if its whole seconds fit before rounding and after it. -/
def ofSeconds? (x : Binary64) : Option Duration :=
  (x.scaledRound? Nanos.perSecond).bind ofNanos?

/-- A fraction of a unit without zeros at its end, after its point, and nothing
for no fraction. -/
def fractionText (width n : Nat) : List Char :=
  if n = 0 then []
  else '.' :: ((Text.padded width n).reverse.dropWhile (· == '0')).reverse

/-- The length in its largest unit of seconds, milliseconds, microseconds and
nanoseconds that it fills at least once. -/
def text (d : Duration) : String :=
  let sub := d.subNanos
  let (whole, fraction, unit) : Nat × List Char × String :=
    if 0 < d.seconds then (d.seconds, fractionText 9 sub, "s")
    else if 1000000 ≤ sub then (sub / 1000000, fractionText 6 (sub % 1000000), "ms")
    else if 1000 ≤ sub then (sub / 1000, fractionText 3 (sub % 1000), "µs")
    else (sub, [], "ns")
  String.ofList (Text.numeral whole ++ fraction) ++ unit

/-- An unsigned word that fits is kept. -/
theorem toWord_toNat {d : Duration} (h : d.nanos < 18446744073709551616) :
    d.toWord.toNat = d.nanos := by
  simp only [toWord, UInt64.toNat_ofNat']
  omega

/-- A length up to the signed bound is kept. -/
theorem toSigned_val {d : Duration} (h : d.nanos < 9223372036854775808) :
    d.toSigned.val = d.nanos := by
  simp only [toSigned]
  exact Nanos.clamp_val (by omega) (by omega)

example : text ⟨1500000000, by decide⟩ = "1.5s" := by decide +kernel
example : text ⟨999999999, by decide⟩ = "999.999999ms" := by decide +kernel
example : text zero = "0ns" := by decide +kernel

end Duration

end FlowWatch
