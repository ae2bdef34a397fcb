import FlowWatch.Log.Event
import FlowWatch.Monitor.Topology
import FlowWatch.Monitor.Tracker

/-!
# Probes, trackers and the data between them

A monitor is a topology together with the trackers that its probes feed. When
a data unit passes a pad, every probe on it updates its tracker, in the order
the probes were attached. A pad that does not exist changes nothing.
-/

namespace FlowWatch

open Log

/-- A topology and numbered trackers. -/
structure Monitor where
  /-- Where probes can be attached. -/
  topology : Topology
  /-- The trackers; their numbers are their places in the list. -/
  trackers : List Tracker
  deriving DecidableEq

namespace Monitor

/-- No elements and no trackers. -/
def empty : Monitor := ⟨Topology.empty, []⟩

/-- The monitor with one more tracker, made at a reading of the clock. -/
def addTracker (m : Monitor) (threshold now : Duration) : Monitor :=
  { m with trackers := m.trackers ++ [Tracker.fresh threshold now] }

/-- The monitor with one tracker changed. -/
def changeTracker (m : Monitor) (number : Nat) (change : Tracker → Tracker) : Monitor :=
  { m with trackers := m.trackers.modify number change }

/-- A new probe is attached to a point, and the event of it. -/
def register (m : Monitor) (point : Point) (tracker : Nat) : Except Failure (Monitor × Event) :=
  match m.topology.attach ⟨point, tracker⟩ with
  | .ok topology => .ok ({ m with topology := topology }, .probeRegistered point)
  | .error failure => .error failure

/-- A data unit passes one probe. -/
def notify (m : Monitor) (now : Duration) (probe : Probe) : Monitor × List Event :=
  let after := m.changeTracker probe.tracker (·.update now)
  let events := match after.trackers[probe.tracker]? with
    | some tracker => [Event.unitObserved probe.point tracker.describe]
    | none => []
  (after, events)

/-- A data unit passes several probes in order. -/
def notifyAll (m : Monitor) (now : Duration) : List Probe → Monitor × List Event
  | [] => (m, [])
  | probe :: rest =>
    let (after, events) := m.notify now probe
    let (last, more) := after.notifyAll now rest
    (last, events ++ more)

/-- What a push leads to. -/
structure Pushed where
  /-- The monitor afterwards. -/
  monitor : Monitor
  /-- Whether the pad exists. -/
  found : Bool
  /-- What is logged. -/
  events : List Event

/-- A data unit passes a pad. -/
def push (m : Monitor) (now : Duration) (element pad : String) : Pushed :=
  match m.topology.pad? element pad with
  | some p =>
    let (after, events) := m.notifyAll now p.probes
    ⟨after, true, events⟩
  | none => ⟨m, false, []⟩

/-- Data does not move the topology. -/
theorem notifyAll_topology (m : Monitor) (now : Duration) (probes : List Probe) :
    (m.notifyAll now probes).1.topology = m.topology := by
  induction probes generalizing m with
  | nil => rfl
  | cons probe rest ih =>
    simp only [notifyAll]
    rw [ih]
    rfl

/-- A push keeps the topology. -/
theorem push_topology (m : Monitor) (now : Duration) (element pad : String) :
    (m.push now element pad).monitor.topology = m.topology := by
  unfold push
  split
  · exact notifyAll_topology m now _
  · rfl

end Monitor

end FlowWatch
