import FlowWatch.Binary64.Basic
import FlowWatch.Text.Quoted
import FlowWatch.Time.Calendar
import FlowWatch.Time.Nanos
import FlowWatch.Time.Rfc3339
import FlowWatch.Time.Timescale

/-!
# Canonical timestamps

A canonical timestamp is a signed count of nanoseconds of atomic time since
1970. Positive counts are valid. Conversions never fail: where the exact
result is not a positive count of 64 bits, they give the sentinel zero. The
views of a timestamp as Unix time, calendar text and system time subtract the
leap seconds again.
-/

namespace FlowWatch

/-- Nanoseconds of atomic time since 1970. -/
structure Timestamp where
  /-- The count. -/
  ns : Nanos
  deriving DecidableEq

/-- Why a text does not name a timestamp. -/
inductive Timestamp.Fault
  /-- The text is not a date-time. -/
  | notDateTime (text : String) (reason : Rfc3339.Fault)
  /-- The Unix time of the date-time leaves 64 bits. -/
  | outOfRange (text : String)
  /-- No timescale has this name. -/
  | unknownScale (name : String)
  /-- The raw count of a stream stayed without a valid timestamp for too long. -/
  | unconvertible (raw : Nanos) (mode : String)
  deriving DecidableEq

namespace Timestamp

open FlowWatch.Text

/-- The wording of the fault. -/
def Fault.message : Fault → String
  | .notDateTime text reason =>
    "invalid RFC 3339 timestamp " ++ quote text ++ ": " ++ reason.message
  | .outOfRange text => "timestamp " ++ quote text ++ " is out of range"
  | .unknownScale name =>
    "unknown time domain " ++ quote name ++ ": expected tai, ntp or unix_utc"
  | .unconvertible raw mode =>
    s!"input timestamp {raw.val} ns cannot be converted from {mode}; " ++
      "use timestamp_mode start_at_current_time if the source never sends real time"

/-- The sentinel for no valid time. -/
def invalid : Timestamp := ⟨Nanos.zero⟩

/-- The least valid timestamp. -/
def least : Timestamp := ⟨⟨1, by decide, by decide⟩⟩

/-- The greatest timestamp. -/
def greatest : Timestamp := ⟨Nanos.greatest⟩

/-- Whether the count is positive. -/
def isValid (t : Timestamp) : Bool := 0 < t.ns.val

/-- A positive count of 64 bits as it is, and anything else as the sentinel. -/
def collapse (count : Int) : Timestamp :=
  match Nanos.ofInt? count with
  | some ns => if 0 < ns.val then ⟨ns⟩ else invalid
  | none => invalid

/-- The timestamp of a raw count in a timescale. -/
def ofRaw (raw : Nanos) (scale : Timescale) : Timestamp := collapse (raw.val + scale.toTai)

/-- The timestamp of nanoseconds since the Unix epoch. -/
def ofUnix (raw : Nanos) : Timestamp := ofRaw raw .unixUtc

/-- The timestamp of a reading of the system clock, in nanoseconds since the
Unix epoch. Readings before the epoch and beyond 64 bits give the sentinel. -/
def ofSystemTime (unix : Int) : Timestamp :=
  if unix < 0 then invalid
  else match Nanos.ofInt? unix with
    | some raw => ofUnix raw
    | none => invalid

/-- The timestamp of a date-time text. -/
def ofRfc3339 (text : String) : Except Fault Timestamp :=
  match Rfc3339.read text with
  | .error reason => .error (.notDateTime text reason)
  | .ok written => match Nanos.ofInt? written.unixNanos with
    | some raw => .ok (ofUnix raw)
    | none => .error (.outOfRange text)

/-- The first timestamp if it is valid, and otherwise the second. -/
def orElse (t other : Timestamp) : Timestamp := if t.isValid then t else other

/-- The timestamp moved by so many nanoseconds, or the sentinel. -/
def shift (t : Timestamp) (amount : Nanos) : Timestamp := collapse (t.ns.val + amount.val)

/-- Nanoseconds since the Unix epoch, stopped at the bounds of 64 bits. -/
def unixNanos (t : Timestamp) : Nanos := Nanos.clamp (t.ns.val - Timescale.unixUtc.toTai)

/-- Whole seconds since the Unix epoch, and the nanoseconds beyond them. -/
def unixParts (t : Timestamp) : Int × Nat :=
  let unix := t.unixNanos.val
  (unix / Nanos.perSecond, (unix % Nanos.perSecond).toNat)

/-- Seconds since the Unix epoch as a floating-point number: the whole seconds
plus the rounded fraction, rounded again. -/
def unixSeconds (t : Timestamp) : Binary64 :=
  (Binary64.ofInt t.unixParts.1).add (Binary64.ofRatio false t.unixParts.2 Nanos.perSecond)

/-- The date-time in UTC with microseconds. A time outside the calendar would
be written as a plain count. -/
def isoText (t : Timestamp) : String :=
  match Calendar.DateTime.ofUnix? t.unixParts.1 t.unixParts.2 with
  | some dateTime => String.ofList dateTime.isoText
  | none => s!"{t.unixNanos.val} ns since 1970-01-01T00:00:00+00:00"

/-- The reading of the system clock in nanoseconds since the Unix epoch that a
valid timestamp stands for. -/
def systemTime? (t : Timestamp) : Option Int :=
  if t.isValid then some t.unixNanos.val else none

/-- The text of a timestamp in logs. -/
def text (t : Timestamp) : String :=
  if t.isValid then s!"{t.isoText} ({t.ns.val} ns)" else "invalid"

/-- How two timestamps compare, by their counts. -/
def order (a b : Timestamp) : Ordering := compare a.ns.val b.ns.val

/-- A valid timestamp is its positive count. -/
theorem isValid_iff {t : Timestamp} : t.isValid = true ↔ 0 < t.ns.val := by
  simp [isValid]

/-- Collapsing keeps exactly the positive counts of 64 bits. -/
theorem collapse_val (count : Int) :
    (collapse count).ns.val = if 0 < count ∧ count < 9223372036854775808 then count else 0 := by
  unfold collapse
  split
  · rename_i ns h
    have hval := Nanos.val_of_ofInt? h
    have hbelow := ns.below
    split
    · rw [if_pos (by omega)]; exact hval
    · rw [if_neg (by omega)]; rfl
  · rename_i h
    have := Nanos.ofInt?_eq_none_iff.1 h
    rw [if_neg (by omega)]; rfl

/-- A conversion is valid or gives the sentinel. -/
theorem collapse_eq_invalid_or (count : Int) :
    collapse count = invalid ∨ (collapse count).isValid = true := by
  unfold collapse
  split
  · split
    · right; simpa [isValid]
    · left; rfl
  · left; rfl

end Timestamp

end FlowWatch
