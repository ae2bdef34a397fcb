import FlowWatch.Log.Event
import FlowWatch.Time.Timestamp

/-!
# From raw timestamps to an increasing stream

The normalizer stands behind a capture source. Each raw timestamp is converted
to a canonical one. A unit without a valid timestamp is dropped, and once its
raw timestamp is past the first seconds of a stream this is a failure. Outputs
never decrease: where one would, the previous output plus a small step takes
its place, and a repeated input repeats its output. The clock is an input here.
Every unit is counted once at most, so words of 64 bits hold the counters for as
long as fewer than 2^64 units arrive.
-/

namespace FlowWatch

open Log

/-- The state of a normalizer. -/
structure Normalizer where
  /-- How raw timestamps are meant. -/
  mode : InputMode
  /-- The time of the first unit in the fixed mode. -/
  start : Timestamp
  /-- The offset that the first unit decided. -/
  offset : Option Nanos
  /-- The last valid input. -/
  previousInput : Option Timestamp
  /-- The last output, or the sentinel. -/
  previousOutput : Timestamp
  /-- Units without a valid timestamp. -/
  dropped : Nat
  /-- Outputs that were moved forward. -/
  corrected : Nat
  deriving DecidableEq

namespace Normalizer

/-- How far an output that would decrease is put behind the previous one. -/
def correctionStep : Nanos := ⟨15000000, by decide, by decide⟩

/-- Raw timestamps up to this one may stay without a valid timestamp. -/
def grace : Nanos := ⟨15000000000, by decide, by decide⟩

/-- A normalizer before its first unit. -/
def fresh (mode : InputMode) (start : Timestamp) : Normalizer where
  mode := mode
  start := start
  offset := none
  previousInput := none
  previousOutput := Timestamp.invalid
  dropped := 0
  corrected := 0

/-- One raw timestamp, and what the clock says when it arrives. -/
structure Arrival where
  /-- The reading of the clock. -/
  now : Timestamp
  /-- The raw timestamp. -/
  raw : Nanos

/-- What becomes of a unit. -/
inductive Outcome
  /-- It goes on with this timestamp. -/
  | delivered (timestamp : Timestamp)
  /-- It is dropped. -/
  | dropped
  /-- It is dropped, and the stream fails with its raw timestamp. -/
  | failed (raw : Nanos)
  deriving DecidableEq

/-- The time that the first unit is put at in a shifting mode. -/
def anchor (n : Normalizer) (now : Timestamp) : Timestamp :=
  match n.mode with
  | .startAtCurrentTime => now
  | _ => n.start

/-- The offset in force for an arrival: the one decided before, or the one that
puts this unit at the anchor. -/
def offsetFor (n : Normalizer) (a : Arrival) : Nanos :=
  n.offset.getD ((n.anchor a.now).ns.subClamped a.raw)

/-- The canonical timestamp of an arrival, not yet in order. -/
def convert (n : Normalizer) (a : Arrival) : Timestamp :=
  match n.mode.scale? with
  | some scale => Timestamp.ofRaw a.raw scale
  | none => (Timestamp.mk a.raw).shift (n.offsetFor a)

/-- The normalizer with the offset of an arrival decided, in a shifting mode. -/
def latch (n : Normalizer) (a : Arrival) : Normalizer :=
  match n.mode.scale? with
  | some _ => n
  | none => { n with offset := some (n.offsetFor a) }

/-- The events of deciding the offset. -/
def latchEvents (n : Normalizer) (a : Arrival) : List Event :=
  if n.mode.scale?.isNone && n.offset.isNone then [.offsetLatched (n.offsetFor a) n.mode] else []

/-- How the output of a valid input comes about. -/
inductive Placement
  /-- The input is the output. -/
  | kept
  /-- The input repeats the last one, and so does the output. -/
  | repeated
  /-- The output would not increase and is moved forward. -/
  | corrected
  deriving DecidableEq

/-- The placement of a valid input after the inputs before it. -/
def placement (n : Normalizer) (input : Timestamp) : Placement :=
  match n.previousInput with
  | none => .kept
  | some previous =>
    if previous = input then .repeated
    else if n.previousOutput.ns.val < input.ns.val then .kept
    else .corrected

/-- The output of a valid input. -/
def output (n : Normalizer) (input : Timestamp) : Timestamp :=
  match n.placement input with
  | .kept => input
  | .repeated => n.previousOutput
  | .corrected => n.previousOutput.shift correctionStep

/-- What an arrival leads to: the next state, the outcome and the events. -/
structure Step where
  /-- The normalizer afterwards. -/
  next : Normalizer
  /-- What becomes of the unit. -/
  outcome : Outcome
  /-- What is logged. -/
  events : List Event

/-- The step of a unit without a valid timestamp. -/
def discard (n : Normalizer) (raw : Nanos) : Step :=
  let next := { n with dropped := n.dropped + 1 }
  if grace.val < raw.val then
    ⟨next, .failed raw, [.unitUnconvertible raw n.mode, .streamUnconvertible raw n.mode]⟩
  else ⟨next, .dropped, [.unitUnconvertible raw n.mode]⟩

/-- The step of a unit with a valid input. -/
def accept (n : Normalizer) (raw : Nanos) (input : Timestamp) : Step :=
  let placed := n.placement input
  let output := n.output input
  let next := { n with
    previousInput := some input
    previousOutput := output
    corrected := if placed = .corrected then n.corrected + 1 else n.corrected }
  let moved :=
    if placed = .corrected then [Event.outputCorrected n.previousOutput input output] else []
  ⟨next, .delivered output, moved ++ [.unitNormalized raw output]⟩

/-- Normalizes one arrival. -/
def step (n : Normalizer) (a : Arrival) : Step :=
  let input := n.convert a
  let latched := n.latch a
  let taken := if input.isValid then latched.accept a.raw input else latched.discard a.raw
  { taken with events := n.latchEvents a ++ taken.events }

/-- Normalizes arrivals one after the other, going on after every outcome. -/
def run (n : Normalizer) : List Arrival → Normalizer × List Outcome
  | [] => (n, [])
  | a :: rest =>
    let taken := n.step a
    let (last, outcomes) := taken.next.run rest
    (last, taken.outcome :: outcomes)

/-- Deciding the offset keeps the mode. -/
theorem latch_mode (n : Normalizer) (a : Arrival) : (n.latch a).mode = n.mode := by
  unfold latch
  split <;> rfl

/-- Dropping a unit keeps the mode. -/
theorem discard_mode (n : Normalizer) (raw : Nanos) : (n.discard raw).next.mode = n.mode := by
  unfold discard
  dsimp only
  split <;> rfl

/-- Passing a unit on keeps the mode. -/
theorem accept_mode (n : Normalizer) (raw : Nanos) (input : Timestamp) :
    (n.accept raw input).next.mode = n.mode := rfl

/-- A step keeps the mode. -/
theorem step_mode (n : Normalizer) (a : Arrival) : (n.step a).next.mode = n.mode := by
  simp only [step]
  split
  · rw [accept_mode, latch_mode]
  · rw [discard_mode, latch_mode]

/-- A run of two parts is the run of the second after the first. -/
theorem run_append (n : Normalizer) (xs ys : List Arrival) :
    n.run (xs ++ ys) =
      (((n.run xs).1.run ys).1, (n.run xs).2 ++ ((n.run xs).1.run ys).2) := by
  induction xs generalizing n with
  | nil => rfl
  | cons a rest ih => simp only [List.cons_append, run, ih]

end Normalizer

end FlowWatch
