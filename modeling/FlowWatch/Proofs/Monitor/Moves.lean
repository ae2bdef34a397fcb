import FlowWatch.Monitor.Session
import FlowWatch.Proofs.Monitor.Feeding

/-!
# What an operation can do to a monitor

Every operation of a session has one of eight effects: nothing at all, another
position of the clock, one more element, one more tracker, one more probe, data
that passed a point, a direct update of a tracker, or a look at some trackers.
Three of them bear on how often trackers are updated, and an observer who sees
operations and answers writes down just these. Each effect is then said of one
tracker at a time: it is fed as often as the occurrence reaches it, and apart
from the idle time on record nothing else happens to it.
-/

namespace FlowWatch

/-- The tracker as if it had never been evaluated. -/
def Tracker.unread (t : Tracker) : Tracker := { t with lastIdle := 0 }

/-- Feeding does not touch the idle time on record. -/
theorem Tracker.unread_feed (t : Tracker) (readings : List Duration) :
    (t.feed readings).unread = t.unread.feed readings := by
  induction readings generalizing t with
  | nil => rfl
  | cons now rest ih => exact ih (t.update now)

/-- An evaluation touches nothing else. -/
theorem Tracker.unread_recordIdle (t : Tracker) (now : Duration) :
    (t.recordIdle now).unread = t.unread := rfl

namespace Topology

/-- A new element has no probes, and it hides no element before it. -/
theorem probesAt_addElement (t : Topology) (name : String) (pads : List String)
    (element pad : String) :
    (t.addElement name pads).probesAt element pad = t.probesAt element pad := by
  have hnew : ∀ p ∈ pads.map fun pad => (⟨pad, []⟩ : Pad), p.probes = [] := by
    intro p hp
    obtain ⟨_, -, rfl⟩ := List.mem_map.1 hp
    rfl
  unfold probesAt pad? element? addElement
  rw [List.find?_append]
  cases t.elements.find? (·.name == element) with
  | some e => rfl
  | none =>
    by_cases hname : (name == element) = true
    · simp only [List.find?_singleton, hname, if_true, Option.or_some, Option.getD_none,
        Option.bind_some, Option.bind_none]
      cases hfound : (pads.map fun pad => (⟨pad, []⟩ : Pad)).find? (·.name == pad) with
      | none => rfl
      | some p => exact hnew p (List.mem_of_find?_eq_some hfound)
    · simp only [List.find?_singleton, hname, Bool.false_eq_true, if_false, Option.or_none]

end Topology

namespace Monitor

/-- A push that finds no pad changes nothing. -/
theorem push_of_not_found {m : Monitor} {now : Duration} {element pad : String}
    (h : (m.push now element pad).found = false) : m.push now element pad = ⟨m, false, []⟩ := by
  unfold push at h ⊢
  split at h
  · simp at h
  · rfl

/-- A change of a tracker that does not exist changes nothing. -/
theorem changeTracker_of_missing {m : Monitor} {number : Nat} (change : Tracker → Tracker)
    (h : m.trackers[number]? = none) : m.changeTracker number change = m := by
  have hle := List.getElem?_eq_none_iff.1 h
  rw [changeTracker, List.modify_eq_self hle]

/-- What bears on how often trackers are updated. -/
inductive Occurrence
  /-- A probe was attached. -/
  | attached (probe : Probe)
  /-- Data was let pass a point. -/
  | passed (point : Point)
  /-- A tracker was updated directly. -/
  | updated (tracker : Nat)
  deriving DecidableEq

/-- The probe that an answer says was attached, if it was to feed a tracker. -/
def Answer.attached? (tracker : Nat) : Answer → Option Occurrence
  | .registered point _ => some (.attached ⟨point, tracker⟩)
  | _ => none

/-- What an observer writes down of an operation and its answer. -/
def Operation.occurrence? : Operation → Answer → Option Occurrence
  | .register _ tracker, answer => answer.attached? tracker
  | .attach _ tracker, answer => answer.attached? tracker
  | .push element pad, _ => some (.passed ⟨element, pad⟩)
  | .update tracker, .done => some (.updated tracker)
  | _, _ => none

/-- How often an occurrence updates a tracker: data does it once for every probe
at its point that feeds the tracker. -/
def reach (t : Topology) (k : Nat) : Option Occurrence → Nat
  | some (.passed point) => (t.probesAt point.element point.pad).countP (·.tracker = k)
  | some (.updated tracker) => if tracker = k then 1 else 0
  | some (.attached _) | none => 0

namespace Session

/-- The session with another monitor. -/
def withMonitor (s : Session) (monitor : Monitor) : Session := { s with monitor := monitor }

/-- What is written down of an operation on a session. -/
def occurrence? (s : Session) (operation : Operation) : Option Occurrence :=
  operation.occurrence? (s.step operation).answer

/-- The effects of operations, with what is written down of each. -/
inductive Moves (s : Session) : Option Occurrence → Session → Prop
  /-- Nothing changes. -/
  | still : s.Moves none s
  /-- The clock is elsewhere. -/
  | moved (clock : ManualClock) : s.Moves none { s with clock := clock }
  /-- There is one more element. -/
  | extended (name : String) (pads : List String) :
      s.Moves none
        (s.withMonitor { s.monitor with topology := s.monitor.topology.addElement name pads })
  /-- There is one more tracker. -/
  | made (threshold : Duration) :
      s.Moves none (s.withMonitor (s.monitor.addTracker threshold s.now))
  /-- A probe was attached that feeds an existing tracker. -/
  | attached {probe : Probe} (hstored : probe.tracker < s.monitor.trackers.length)
      (hpad : (s.monitor.topology.pad? probe.point.element probe.point.pad).isSome = true) :
      s.Moves (some (.attached probe))
        (s.withMonitor { s.monitor with topology := s.monitor.topology.place probe })
  /-- Data passed a point. -/
  | passed (point : Point) :
      s.Moves (some (.passed point))
        (s.withMonitor (s.monitor.push s.now point.element point.pad).monitor)
  /-- A tracker was updated directly. -/
  | updated {tracker : Nat} (hstored : tracker < s.monitor.trackers.length) :
      s.Moves (some (.updated tracker))
        (s.withMonitor (s.monitor.changeTracker tracker (·.update s.now)))
  /-- Some trackers were looked at. -/
  | looked (watched : List Nat) :
      s.Moves none (s.withMonitor (s.monitor.recordAll s.now watched))

/-- Attaching changes nothing, or the probe is at its point. -/
theorem attach_moves (s : Session) (point : Point) (tracker : Nat) :
    s.Moves ((s.attach point tracker).answer.attached? tracker)
      (s.attach point tracker).session := by
  unfold attach
  cases hfed : s.monitor.trackers[tracker]? with
  | none => exact .still
  | some fed =>
    obtain ⟨hstored, -⟩ := List.getElem?_eq_some_iff.1 hfed
    cases hregister : s.monitor.register point tracker with
    | error failure => exact .still
    | ok registered =>
      obtain ⟨monitor, event⟩ := registered
      obtain ⟨hpad, rfl⟩ := register_eq_ok hregister
      exact .attached hstored hpad

/-- Registering by a text changes nothing, or it attaches to the point that the
text names. -/
theorem register_moves (s : Session) (text : String) (tracker : Nat) :
    s.Moves ((s.register text tracker).answer.attached? tracker)
      (s.register text tracker).session := by
  unfold register
  cases s.monitor.trackers[tracker]? with
  | none => exact .still
  | some fed =>
    cases Point.ofText text with
    | error failure => exact .still
    | ok point => exact s.attach_moves point tracker

/-- A direct update of a tracker that does not exist changes nothing. -/
theorem update_moves (s : Session) (tracker : Nat) :
    s.Moves (s.occurrence? (.update tracker)) (s.step (.update tracker)).session := by
  cases htracker : s.monitor.trackers[tracker]? with
  | none =>
    have hstep : s.step (.update tracker) = s.unchanged .unknownTracker := by
      simp only [step, ofTracker, htracker, changeTracker_of_missing _ htracker]
      rfl
    rw [occurrence?, hstep]
    exact .still
  | some t =>
    have hanswer : (s.step (.update tracker)).answer = .done := by
      simp only [step, ofTracker, htracker]
    rw [occurrence?, hanswer]
    exact .updated (List.getElem?_eq_some_iff.1 htracker).1

/-- The effect of a request. -/
theorem request_moves (s : Session) (request : Endpoint.Request) (watched : List Nat) :
    s.Moves none (s.step (.request request watched)).session := by
  show s.Moves none (s.withMonitor (Endpoint.answer s.monitor s.now watched request).monitor)
  rcases Endpoint.answer_monitor s.monitor s.now watched request with hsame | hlooked
  · rw [hsame]
    exact .still
  · rw [hlooked]
    exact .looked watched

/-- Every operation has one of the effects. -/
theorem step_moves (s : Session) (operation : Operation) :
    s.Moves (s.occurrence? operation) (s.step operation).session := by
  cases operation with
  | addElement name pads => exact .extended name pads
  | addTracker threshold => exact .made threshold
  | register text tracker => exact s.register_moves text tracker
  | attach point tracker => exact s.attach_moves point tracker
  | observers element pad => exact .still
  | push element pad => exact .passed ⟨element, pad⟩
  | update tracker => exact s.update_moves tracker
  | idle tracker => exact .looked [tracker]
  | isHealthy tracker limit => exact .looked [tracker]
  | check tracker => exact .looked [tracker]
  | threshold tracker => exact .still
  | describe tracker => exact .still
  | debug tracker => exact .still
  | evaluate watched => exact .looked watched
  | request request watched => exact s.request_moves request watched
  | advance step => exact .moved _
  | set target => exact .moved _

end Session

end Monitor

end FlowWatch
