import FlowWatch.Pipeline
import FlowWatch.Shutdown

/-!
# The loop over units

The loop produces one unit per turn. It ends when shutdown has been requested,
which it looks at before each turn, when enough units were produced, and when
the stream fails. What the clocks and the signals say before a turn is an input
of it. A run over a list of such inputs may end before the list does, or find
the loop still going at the end of it.
-/

namespace FlowWatch.Daemon

open Log

/-- What is the case before a turn. -/
structure Tick where
  /-- A signal that has arrived since the turn before. -/
  signal : Option Signal
  /-- What the clocks say. -/
  moment : Pipeline.Moment

/-- The state of the loop. -/
structure Loop where
  /-- The pipeline. -/
  pipeline : Pipeline
  /-- The requests for shutdown. -/
  shutdown : Shutdown.State
  /-- Whether it was logged that the source has stalled. -/
  stallLogged : Bool
  deriving DecidableEq

/-- How a loop ends. -/
inductive Ending
  /-- Shutdown was requested. -/
  | shutdown
  /-- As many units as asked for were produced. -/
  | limit
  /-- The stream failed. -/
  | failed (fault : Timestamp.Fault)
  deriving DecidableEq

/-- What a turn leads to. -/
structure Turn where
  /-- The loop afterwards. -/
  loop : Loop
  /-- How it ended, if it did. -/
  ending : Option Ending
  /-- What is logged. -/
  events : List Event

namespace Loop

/-- The loop before its first turn. -/
def start (pipeline : Pipeline) : Loop := ⟨pipeline, Shutdown.State.quiet, false⟩

/-- The loop after a signal, if there is one. -/
def receive (l : Loop) (signal : Option Signal) : Loop :=
  if signal.isSome then { l with shutdown := l.shutdown.receive } else l

/-- The event of a signal, if there is one. -/
def signalEvents (signal : Option Signal) : List Event :=
  match signal with
  | some s => [.signalReceived s]
  | none => []

/-- The events of a step that did not fail. The stall is logged once. -/
def outcomeEvents (l : Loop) : Pipeline.Outcome → List Event
  | .delivered timestamp => [.unitDelivered timestamp]
  | .stalled => if l.stallLogged then [] else [.sourceStalled]
  | .dropped | .failed _ => []

/-- How often the loop says how far it has come, in units. -/
def statusInterval : Nat := 1000

/-- Whether the loop says how far it has come. -/
def reportsStatus (l : Loop) : Bool :=
  !l.stallLogged && 0 < l.pipeline.emitted && l.pipeline.emitted % statusInterval == 0

/-- Whether enough units were produced. -/
def isFull (l : Loop) (limit : Nat) : Bool := 0 < limit && limit ≤ l.pipeline.emitted

/-- The loop after a step with an outcome. -/
def afterStep (l : Loop) (pipeline : Pipeline) (outcome : Pipeline.Outcome) : Loop :=
  { l with pipeline := pipeline, stallLogged := l.stallLogged || outcome = .stalled }

/-- What a loop that has ended gives back: how far the pipeline has come, or why the
stream failed. -/
def result (l : Loop) : Ending → Except Timestamp.Fault Counts
  | .failed fault => .error fault
  | .shutdown | .limit => .ok l.pipeline.counts

/-- One turn. -/
def turn (l : Loop) (limit : Nat) (tick : Tick) : Turn :=
  let head := l.receive tick.signal
  let arrived := signalEvents tick.signal
  if head.shutdown.requested then ⟨head, some .shutdown, arrived⟩
  else
    let stepped := head.pipeline.step tick.moment
    let next := head.afterStep stepped.next stepped.outcome
    let before := arrived ++ stepped.events
    match stepped.outcome with
    | .failed fault => ⟨next, some (.failed fault), before⟩
    | outcome =>
      let seen := before ++ head.outcomeEvents outcome
      if next.isFull limit then
        ⟨next, some .limit, seen ++ [.limitReached next.pipeline.emitted]⟩
      else if next.reportsStatus then
        ⟨next, none, seen ++ [.periodicStatus next.pipeline.counts]⟩
      else ⟨next, none, seen⟩

/-- The turns over a list of ticks, up to the end of the loop or of the list. -/
def run (l : Loop) (limit : Nat) : List Tick → Turn
  | [] => ⟨l, none, []⟩
  | tick :: rest =>
    let first := l.turn limit tick
    match first.ending with
    | some _ => first
    | none =>
      let further := first.loop.run limit rest
      ⟨further.loop, further.ending, first.events ++ further.events⟩

end Loop

/-- What the loop gives back, if it has ended. -/
def Turn.result? (t : Turn) : Option (Except Timestamp.Fault Counts) :=
  t.ending.map t.loop.result

end FlowWatch.Daemon
