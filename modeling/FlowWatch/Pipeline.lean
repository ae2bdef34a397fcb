import FlowWatch.Monitor.Basic
import FlowWatch.Normalizer

/-!
# The simulated pipeline

Three elements stand in for a real pipeline: a source, a converter and a sink.
The source stamps units in the configured mode, the converter normalizes the
stamps, and what has a valid timestamp goes on to the sink. Probes on the pads
see the units pass. What the clocks say at a step is an input of that step.
A step counts one unit at most, so words of 64 bits hold the counters for as
long as there are fewer than 2^64 steps.
-/

namespace FlowWatch

open Log

namespace Pipeline

/-- The name of the source. -/
def sourceName : String := "src"

/-- The name of the converter. -/
def converterName : String := "timestampcvt"

/-- The name of the sink. -/
def sinkName : String := "sink"

/-- The topology of the three elements. -/
def topology : Topology :=
  ((Topology.empty.addElement sourceName ["src"]).addElement converterName
    ["sink", "src"]).addElement sinkName ["sink"]

/-- What the clocks say at a step. -/
structure Moment where
  /-- The time since the pipeline was started. -/
  elapsed : Duration
  /-- The time of day. -/
  wall : Timestamp
  /-- The reading of the clock of the trackers. -/
  reading : Duration

/-- What becomes of a step. -/
inductive Outcome
  /-- The unit reached the sink with this timestamp. -/
  | delivered (timestamp : Timestamp)
  /-- The converter dropped the unit. -/
  | dropped
  /-- The source produces nothing any more. -/
  | stalled
  /-- The stream failed. -/
  | failed (fault : Timestamp.Fault)
  deriving DecidableEq

end Pipeline

/-- The state of the pipeline. -/
structure Pipeline where
  /-- The elements, their probes and the trackers. -/
  monitor : Monitor
  /-- The state of the converter. -/
  normalizer : Normalizer
  /-- The time between two units. -/
  unitInterval : Duration
  /-- The time after which the source stalls. -/
  stallAfter : Option Duration
  /-- How many units come with times of the stream instead of the clock. -/
  warmupUnits : Nat
  /-- Units produced. -/
  emitted : Nat
  /-- Units that reached the sink. -/
  delivered : Nat
  deriving DecidableEq

namespace Pipeline

/-- The pipeline of a section of settings, without probes. -/
def make (settings : PipelineSettings) : Except Timestamp.Fault Pipeline := do
  let start ← settings.startTimestamp
  pure {
    monitor := ⟨topology, []⟩
    normalizer := Normalizer.fresh settings.timestampMode start
    unitInterval := settings.unitInterval
    stallAfter := settings.stallAfter
    warmupUnits := settings.invalidWarmupUnits.toNat
    emitted := 0
    delivered := 0 }

/-- A probe with a tracker of its own is attached to a point. -/
def addProbe (p : Pipeline) (threshold reading : Duration) (text : String) :
    Except Failure Pipeline :=
  match Point.ofText text with
  | .error failure => .error failure
  | .ok point =>
    let tracker := p.monitor.trackers.length
    match (p.monitor.addTracker threshold reading).register point tracker with
    | .ok (monitor, _) => .ok { p with monitor := monitor }
    | .error failure => .error failure

/-- Whether the source has stalled at a time since the start. -/
def isStalled (p : Pipeline) (elapsed : Duration) : Bool :=
  match p.stallAfter with
  | some after => after ≤ elapsed
  | none => false

/-- The time of the next unit since the start of the stream, stopped at the
bound of a signed word. -/
def streamTime (p : Pipeline) : Nanos :=
  Nanos.clamp (p.unitInterval.toSigned.val * (Nanos.clamp p.emitted).val)

/-- The stamp that the source puts on the next unit. -/
def stamp (p : Pipeline) (wall : Timestamp) : Nanos :=
  if p.emitted < p.warmupUnits then p.streamTime
  else match p.normalizer.mode with
    | .ntp => Nanos.clamp (wall.unixNanos.val + (ntpEpochSeconds * Nanos.perSecond : Nat))
    | .tai => wall.ns
    | .unixUtc => wall.unixNanos
    | .startAtCurrentTime | .startAtFixedTime => p.streamTime

/-- How far the pipeline has come. -/
def counts (p : Pipeline) : Counts :=
  ⟨p.emitted, p.delivered, p.normalizer.dropped, p.normalizer.corrected⟩

/-- What a step leads to. -/
structure Stepped where
  /-- The pipeline afterwards. -/
  next : Pipeline
  /-- What became of the step. -/
  outcome : Outcome
  /-- What is logged. -/
  events : List Event

/-- The pads that every unit passes. -/
def sourcePads : List (String × String) := [(sourceName, "src"), (converterName, "sink")]

/-- The pads that a unit with a valid timestamp passes after them. -/
def sinkPads : List (String × String) := [(converterName, "src"), (sinkName, "sink")]

/-- A unit passes several pads in order. -/
def pushAll (m : Monitor) (reading : Duration) : List (String × String) → Monitor × List Event
  | [] => (m, [])
  | (element, pad) :: rest =>
    let pushed := m.push reading element pad
    let (last, more) := pushAll pushed.monitor reading rest
    (last, pushed.events ++ more)

/-- Produces one unit and lets it pass as far as it goes. -/
def step (p : Pipeline) (moment : Moment) : Stepped :=
  if p.isStalled moment.elapsed then ⟨p, .stalled, []⟩
  else
    let raw := p.stamp moment.wall
    let (monitor, before) := pushAll p.monitor moment.reading sourcePads
    let normalized := p.normalizer.step ⟨moment.wall, raw⟩
    let next := { p with
      monitor := monitor
      normalizer := normalized.next
      emitted := p.emitted + 1 }
    match normalized.outcome with
    | .delivered timestamp =>
      let (monitor, after) := pushAll monitor moment.reading sinkPads
      ⟨{ next with monitor := monitor, delivered := p.delivered + 1 }, .delivered timestamp,
        before ++ normalized.events ++ after⟩
    | .dropped => ⟨next, .dropped, before ++ normalized.events⟩
    | .failed raw =>
      ⟨next, .failed (.unconvertible raw p.normalizer.mode.name), before ++ normalized.events⟩

/-- Steps at several moments, going on after every outcome. -/
def run (p : Pipeline) : List Moment → Pipeline × List Outcome
  | [] => (p, [])
  | moment :: rest =>
    let stepped := p.step moment
    let (last, outcomes) := stepped.next.run rest
    (last, stepped.outcome :: outcomes)

/-- A stalled step changes nothing. -/
theorem step_of_isStalled {p : Pipeline} {moment : Moment}
    (h : p.isStalled moment.elapsed = true) : p.step moment = ⟨p, .stalled, []⟩ := by
  simp only [step, h, if_true]

/-- Every step that is not stalled produces one unit. -/
theorem step_emitted {p : Pipeline} {moment : Moment}
    (h : p.isStalled moment.elapsed = false) : (p.step moment).next.emitted = p.emitted + 1 := by
  simp only [step, h, Bool.false_eq_true, if_false]
  split <;> rfl

end Pipeline

end FlowWatch
