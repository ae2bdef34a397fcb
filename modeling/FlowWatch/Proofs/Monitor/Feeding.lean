import FlowWatch.Endpoint.Router
import FlowWatch.Proofs.Monitor.Attachment

/-!
# What data and verdicts do to each tracker

A push feeds every tracker once for each of its probes on the pad, and a verdict
changes nothing but the idle times it records. Both are said of one tracker at a
time, so that no later proof follows the order of probes or of trackers.
-/

namespace FlowWatch

/-- The tracker after data passed at some readings of the clock, in order. -/
def Tracker.feed (t : Tracker) (readings : List Duration) : Tracker :=
  readings.foldl Tracker.update t

/-- Feeding in two parts. -/
theorem Tracker.feed_append (t : Tracker) (xs ys : List Duration) :
    t.feed (xs ++ ys) = (t.feed xs).feed ys := List.foldl_append

/-- Recording an idle time twice at one reading is recording it once. -/
theorem Tracker.recordIdle_recordIdle (t : Tracker) (now : Duration) :
    (t.recordIdle now).recordIdle now = t.recordIdle now := rfl

namespace Monitor

/-- One tracker after a change of a tracker. -/
theorem changeTracker_getElem? (m : Monitor) (number : Nat) (change : Tracker → Tracker)
    (k : Nat) :
    (m.changeTracker number change).trackers[k]? =
      m.trackers[k]?.map fun t => if number = k then change t else t := by
  rw [changeTracker, List.getElem?_modify]
  by_cases h : number = k
  · simp only [h, if_true]
    rfl
  · simp only [h, if_false]
    rfl

/-- One tracker after data passed some probes. -/
theorem notifyAll_getElem? (m : Monitor) (now : Duration) (probes : List Probe) (k : Nat) :
    (m.notifyAll now probes).1.trackers[k]? =
      m.trackers[k]?.map (·.feed (List.replicate (probes.countP (·.tracker = k)) now)) := by
  induction probes generalizing m with
  | nil => exact (Option.map_id_apply).symm
  | cons probe rest ih =>
    have hcons : (m.notifyAll now (probe :: rest)).1 =
        ((m.changeTracker probe.tracker (·.update now)).notifyAll now rest).1 := rfl
    rw [hcons, ih, changeTracker_getElem?, Option.map_map, List.countP_cons]
    congr 1
    funext t
    by_cases h : probe.tracker = k
    · simp only [Function.comp_apply, h, if_true, decide_true]
      rw [List.replicate_succ]
      rfl
    · simp only [Function.comp_apply, h, if_false, decide_false, Bool.false_eq_true, Nat.add_zero]

/-- Data makes no trackers. -/
theorem notifyAll_length (m : Monitor) (now : Duration) (probes : List Probe) :
    (m.notifyAll now probes).1.trackers.length = m.trackers.length := by
  induction probes generalizing m with
  | nil => rfl
  | cons probe rest ih =>
    exact (ih _).trans (List.length_modify ..)

/-- A push notifies the probes at its point, of which there are none without a
pad. -/
theorem push_monitor (m : Monitor) (now : Duration) (element pad : String) :
    (m.push now element pad).monitor =
      (m.notifyAll now (m.topology.probesAt element pad)).1 := by
  unfold push Topology.probesAt
  cases m.topology.pad? element pad <;> rfl

/-- One tracker after a push. -/
theorem push_getElem? (m : Monitor) (now : Duration) (element pad : String) (k : Nat) :
    (m.push now element pad).monitor.trackers[k]? =
      m.trackers[k]?.map (·.feed (List.replicate
        ((m.topology.probesAt element pad).countP (·.tracker = k)) now)) := by
  rw [push_monitor, notifyAll_getElem?]

/-- A push feeds the tracker of every probe at its point. -/
theorem push_feeds {m : Monitor} {element pad : String} {probe : Probe}
    (h : probe ∈ m.topology.probesAt element pad) {t : Tracker}
    (ht : m.trackers[probe.tracker]? = some t) (now : Duration) :
    ∃ count, 0 < count ∧ (m.push now element pad).monitor.trackers[probe.tracker]? =
      some (t.feed (List.replicate count now)) := by
  have hcount : 0 < (m.topology.probesAt element pad).countP (·.tracker = probe.tracker) :=
    List.countP_pos_iff.2 ⟨probe, h, decide_eq_true rfl⟩
  refine ⟨_, hcount, ?_⟩
  rw [push_getElem?, ht, Option.map_some]

/-- A push makes no trackers. -/
theorem push_length (m : Monitor) (now : Duration) (element pad : String) :
    (m.push now element pad).monitor.trackers.length = m.trackers.length := by
  rw [push_monitor, notifyAll_length]

/-- One tracker after a look at some trackers. -/
theorem recordAll_getElem? (m : Monitor) (now : Duration) (watched : List Nat) (k : Nat) :
    (m.recordAll now watched).trackers[k]? =
      m.trackers[k]?.map fun t => if k ∈ watched then t.recordIdle now else t := by
  induction watched generalizing m with
  | nil => exact (Option.map_id_apply).symm
  | cons number rest ih =>
    have hcons : m.recordAll now (number :: rest) =
        (m.changeTracker number (·.recordIdle now)).recordAll now rest := rfl
    rw [hcons, ih, changeTracker_getElem?, Option.map_map]
    congr 1
    funext t
    by_cases h : number = k
    · simp only [Function.comp_apply, h, if_true, List.mem_cons_self]
      split
      · exact t.recordIdle_recordIdle now
      · rfl
    · simp only [Function.comp_apply, h, if_false, List.mem_cons, Ne.symm h, false_or]

/-- A look makes no trackers. -/
theorem recordAll_length (m : Monitor) (now : Duration) (watched : List Nat) :
    (m.recordAll now watched).trackers.length = m.trackers.length := by
  induction watched generalizing m with
  | nil => rfl
  | cons number rest ih => exact (ih _).trans (List.length_modify ..)

/-- A look keeps the topology. -/
theorem recordAll_topology (m : Monitor) (now : Duration) (watched : List Nat) :
    (m.recordAll now watched).topology = m.topology := by
  induction watched generalizing m with
  | nil => rfl
  | cons number rest ih => exact ih _

/-- Registering succeeds exactly on an existing pad, and only the topology
changes. -/
theorem register_eq_ok {m after : Monitor} {point : Point} {tracker : Nat} {event : Log.Event}
    (h : m.register point tracker = .ok (after, event)) :
    (m.topology.pad? point.element point.pad).isSome = true ∧
      after = { m with topology := m.topology.place ⟨point, tracker⟩ } := by
  unfold register at h
  split at h
  · rename_i topology hattach
    obtain ⟨hpad, htopology⟩ := Topology.attach_eq_ok_iff.1 hattach
    simp only [Except.ok.injEq, Prod.mk.injEq] at h
    rw [← h.1, htopology]
    exact ⟨hpad, rfl⟩
  · simp at h

/-- The trackers that probes feed exist. -/
def Closed (m : Monitor) : Prop :=
  ∀ e ∈ m.topology.elements, ∀ p ∈ e.pads, ∀ probe ∈ p.probes, probe.tracker < m.trackers.length

/-- Whether all trackers exist is decided on the pads. -/
instance (m : Monitor) : Decidable m.Closed :=
  inferInstanceAs (Decidable (∀ e ∈ m.topology.elements, ∀ p ∈ e.pads, ∀ probe ∈ p.probes,
    probe.tracker < m.trackers.length))

/-- The tracker of a probe at a point exists. -/
theorem Closed.tracker_lt {m : Monitor} (h : m.Closed) {element pad : String} {probe : Probe}
    (hprobe : probe ∈ m.topology.probesAt element pad) : probe.tracker < m.trackers.length := by
  obtain ⟨e, he, p, hp, hmem⟩ := Topology.exists_pad_of_mem_probesAt hprobe
  exact h e he p hp probe hmem

end Monitor

namespace Endpoint

/-- The monitor after a request: as it was, or after a look at the trackers. -/
theorem answer_monitor (m : Monitor) (now : Duration) (watched : List Nat) (r : Request) :
    (answer m now watched r).monitor = m ∨
      (answer m now watched r).monitor = m.recordAll now watched := by
  unfold answer
  split
  · exact .inr rfl
  · exact .inl rfl
  · exact .inl rfl

end Endpoint

end FlowWatch
