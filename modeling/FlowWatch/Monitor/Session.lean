import FlowWatch.Endpoint.Router
import FlowWatch.Monitor.Clock

/-!
# Sessions with a monitor

A session is a monitor on a clock that is moved by hand. Its operations build
the topology, make trackers and probes, let data pass, move the clock, and read
what is known. A run is the list of answers to a list of operations. Reading
operations are told apart from the others, since all they may change is the
idle time that the trackers recorded.
-/

namespace FlowWatch.Monitor

open Log

/-- An operation on a session. Trackers are named by their numbers. -/
inductive Operation
  /-- Adds an element with pads. -/
  | addElement (name : String) (pads : List String)
  /-- Makes a tracker. -/
  | addTracker (threshold : Duration)
  /-- Attaches a probe, named by a text, that feeds a tracker. -/
  | register (point : String) (tracker : Nat)
  /-- Attaches a probe at a point that feeds a tracker. -/
  | attach (point : Point) (tracker : Nat)
  /-- Counts the probes at a point. -/
  | observers (element pad : String)
  /-- Lets data pass a pad. -/
  | push (element pad : String)
  /-- Updates a tracker directly. -/
  | update (tracker : Nat)
  /-- Reads the idle time of a tracker. -/
  | idle (tracker : Nat)
  /-- Compares the idle time of a tracker with a limit. -/
  | isHealthy (tracker : Nat) (limit : Duration)
  /-- Compares the idle time of a tracker with its threshold. -/
  | check (tracker : Nat)
  /-- Reads the threshold of a tracker. -/
  | threshold (tracker : Nat)
  /-- Describes the last update of a tracker. -/
  | describe (tracker : Nat)
  /-- Shows a tracker for debugging. -/
  | debug (tracker : Nat)
  /-- The verdict over some trackers. -/
  | evaluate (watched : List Nat)
  /-- A request to an endpoint over some trackers. -/
  | request (request : Endpoint.Request) (watched : List Nat)
  /-- Moves the clock forward. -/
  | advance (step : Duration)
  /-- Sets the clock. -/
  | set (target : Duration)
  deriving DecidableEq

/-- Whether the operation only reads. -/
def Operation.isRead : Operation → Bool
  | .observers .. | .idle _ | .isHealthy .. | .check _ | .threshold _ | .describe _ | .debug _
  | .evaluate _ | .request .. => true
  | _ => false

/-- The answer to an operation. -/
inductive Answer
  /-- It is done. -/
  | done
  /-- The number of the new tracker. -/
  | number (tracker : Nat)
  /-- The probe is attached; the updates of its tracker so far. -/
  | registered (point : Point) (updates : UInt64)
  /-- It failed. -/
  | failed (failure : Failure)
  /-- A count of probes. -/
  | count (probes : Nat)
  /-- Yes or no. -/
  | truth (holds : Bool)
  /-- A length of time. -/
  | length (duration : Duration)
  /-- A comparison with a threshold. -/
  | report (report : Tracker.Report)
  /-- A text. -/
  | text (text : String)
  /-- A verdict, and over how many trackers. -/
  | verdict (verdict : Verdict) (trackers : Nat)
  /-- An answer of the endpoint. -/
  | response (response : Endpoint.Response)
  /-- There is no tracker of this number. -/
  | unknownTracker
  deriving DecidableEq

/-- A monitor on a clock. -/
structure Session where
  /-- The clock. -/
  clock : ManualClock
  /-- The monitor. -/
  monitor : Monitor
  deriving DecidableEq

/-- What an operation leads to. -/
structure Stepped where
  /-- The session afterwards. -/
  session : Session
  /-- The answer. -/
  answer : Answer
  /-- What is logged. -/
  events : List Event

namespace Session

/-- A session with nothing in it, at the origin of its clock. -/
def empty : Session := ⟨ManualClock.origin, Monitor.empty⟩

/-- The reading of the clock. -/
def now (s : Session) : Duration := s.clock.elapsed

/-- An answer that leaves the session as it is. -/
def unchanged (s : Session) (answer : Answer) : Stepped := ⟨s, answer, []⟩

/-- An answer that depends on one tracker. -/
def ofTracker (s : Session) (number : Nat) (answer : Tracker → Answer) : Answer :=
  match s.monitor.trackers[number]? with
  | some tracker => answer tracker
  | none => .unknownTracker

/-- An evaluation of one tracker, which records its idle time. -/
def reading (s : Session) (number : Nat) (answer : Tracker → Answer) : Stepped :=
  ⟨{ s with monitor := s.monitor.changeTracker number (·.recordIdle s.now) },
    s.ofTracker number answer, []⟩

/-- Attaches a probe at a point, if both the point and the tracker exist. -/
def attach (s : Session) (point : Point) (tracker : Nat) : Stepped :=
  match s.monitor.trackers[tracker]? with
  | none => s.unchanged .unknownTracker
  | some fed => match s.monitor.register point tracker with
    | .error failure => s.unchanged (.failed failure)
    | .ok (monitor, event) =>
      ⟨{ s with monitor := monitor }, .registered point fed.updates, [event]⟩

/-- Attaches a probe, if its text names a point and the tracker exists. -/
def register (s : Session) (text : String) (tracker : Nat) : Stepped :=
  match s.monitor.trackers[tracker]?, Point.ofText text with
  | none, _ => s.unchanged .unknownTracker
  | _, .error failure => s.unchanged (.failed failure)
  | some _, .ok point => s.attach point tracker

/-- Performs one operation. -/
def step (s : Session) : Operation → Stepped
  | .addElement name pads =>
    let topology := s.monitor.topology.addElement name pads
    ⟨{ s with monitor := { s.monitor with topology := topology } }, .done, []⟩
  | .addTracker threshold =>
    ⟨{ s with monitor := s.monitor.addTracker threshold s.now },
      .number s.monitor.trackers.length, []⟩
  | .register text tracker => s.register text tracker
  | .attach point tracker => s.attach point tracker
  | .observers element pad =>
    s.unchanged (.count (s.monitor.topology.probesAt element pad).length)
  | .push element pad =>
    let pushed := s.monitor.push s.now element pad
    ⟨{ s with monitor := pushed.monitor }, .truth pushed.found, pushed.events⟩
  | .update number =>
    ⟨{ s with monitor := s.monitor.changeTracker number (·.update s.now) },
      s.ofTracker number fun _ => .done, []⟩
  | .idle number => s.reading number fun t => .length (t.idle s.now)
  | .isHealthy number limit => s.reading number fun t => .truth (t.isHealthy s.now limit)
  | .check number => s.reading number fun t => .report (t.report s.now)
  | .threshold number => s.unchanged (s.ofTracker number fun t => .length t.threshold)
  | .describe number => s.unchanged (s.ofTracker number fun t => .text t.describe)
  | .debug number => s.unchanged (s.ofTracker number fun t => .text t.debugText)
  | .evaluate watched =>
    let (verdict, monitor) := s.monitor.evaluate s.now watched
    ⟨{ s with monitor := monitor }, .verdict verdict watched.length, []⟩
  | .request request watched =>
    let answered := Endpoint.answer s.monitor s.now watched request
    ⟨{ s with monitor := answered.monitor }, .response answered.response, answered.events⟩
  | .advance step =>
    let clock := s.clock.advance step
    ⟨{ s with clock := clock }, .length clock.elapsed, []⟩
  | .set target =>
    let clock := s.clock.set target
    ⟨{ s with clock := clock }, .length clock.elapsed, []⟩

/-- Performs operations one after the other. -/
def run (s : Session) : List Operation → Session × List Answer
  | [] => (s, [])
  | operation :: rest =>
    let stepped := s.step operation
    let (last, answers) := stepped.session.run rest
    (last, stepped.answer :: answers)

/-- A run of two parts is the run of the second after the first. -/
theorem run_append (s : Session) (xs ys : List Operation) :
    s.run (xs ++ ys) =
      (((s.run xs).1.run ys).1, (s.run xs).2 ++ ((s.run xs).1.run ys).2) := by
  induction xs generalizing s with
  | nil => rfl
  | cons operation rest ih => simp only [List.cons_append, run, ih]

end Session

end FlowWatch.Monitor
