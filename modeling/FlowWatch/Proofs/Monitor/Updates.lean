import FlowWatch.Proofs.Monitor.Forward

/-!
# The updates of one tracker in a run

A run feeds a tracker at certain readings of the clock, by data at its probes and
directly. What the tracker is afterwards depends on these readings alone, apart
from the idle time that evaluations put on record: other trackers, other points
and reads leave no trace in it.
-/

namespace FlowWatch

namespace Tracker

/-- The counter counts the readings, and comes back to zero after every 2^64 of
them. -/
theorem feed_updates (t : Tracker) (readings : List Duration) :
    (t.feed readings).updates.toNat =
      (t.updates.toNat + readings.length) % 18446744073709551616 := by
  induction readings generalizing t with
  | nil => exact (Nat.mod_eq_of_lt t.updates.toNat_lt).symm
  | cons now rest ih =>
    have hone : (t.update now).updates.toNat = (t.updates.toNat + 1) % 18446744073709551616 :=
      UInt64.toNat_add _ _
    have hrest := ih (t.update now)
    rw [hone, Nat.mod_add_mod] at hrest
    rw [List.length_cons, Nat.add_comm rest.length 1, ← Nat.add_assoc]
    exact hrest

/-- The last reading is the last activity. -/
theorem feed_lastActivity (t : Tracker) {readings : List Duration} {last : Duration}
    (hlast : readings.getLast? = some last) : (t.feed readings).lastActivity = last.toSigned := by
  obtain ⟨earlier, rfl⟩ := List.getLast?_eq_some_iff.1 hlast
  rw [feed_append]
  rfl

/-- Feeding does not touch the threshold. -/
theorem feed_threshold (t : Tracker) (readings : List Duration) :
    (t.feed readings).threshold = t.threshold := by
  induction readings generalizing t with
  | nil => rfl
  | cons now rest ih => exact ih (t.update now)

end Tracker

namespace Monitor.Session

/-- Every effect feeds a tracker at the reading of the clock, as often as the
occurrence reaches it, and does nothing else to it but record idle times. -/
theorem Moves.tracker {s s' : Session} {occurrence : Option Occurrence}
    (hmoves : s.Moves occurrence s') {k : Nat} {t : Tracker}
    (ht : s.monitor.trackers[k]? = some t) :
    ∃ t', s'.monitor.trackers[k]? = some t' ∧
      t'.unread =
        t.unread.feed (List.replicate (reach s.monitor.topology k occurrence) s.now) := by
  cases hmoves with
  | still => exact ⟨t, ht, rfl⟩
  | moved clock => exact ⟨t, ht, rfl⟩
  | extended name pads => exact ⟨t, ht, rfl⟩
  | made threshold =>
    have hstored := (List.getElem?_eq_some_iff.1 ht).1
    exact ⟨t, (List.getElem?_append_left hstored).trans ht, rfl⟩
  | attached hstored hpad => exact ⟨t, ht, rfl⟩
  | passed point =>
    refine ⟨_, (Monitor.push_getElem? ..).trans (congrArg _ ht), ?_⟩
    exact Tracker.unread_feed t _
  | @updated tracker hstored =>
    refine ⟨_, (Monitor.changeTracker_getElem? ..).trans (congrArg _ ht), ?_⟩
    by_cases hsame : tracker = k
    · simp only [reach, hsame, if_true]
      rfl
    · simp only [reach, hsame, if_false]
      rfl
  | looked watched =>
    refine ⟨_, (Monitor.recordAll_getElem? ..).trans (congrArg _ ht), ?_⟩
    dsimp only
    split
    · exact t.unread_recordIdle s.now
    · rfl

/-- The readings of the clock at which a run feeds a tracker, in order. -/
def feeds (s : Session) (k : Nat) : List Operation → List Duration
  | [] => []
  | operation :: rest =>
    List.replicate (reach s.monitor.topology k (s.occurrence? operation)) s.now ++
      (s.step operation).session.feeds k rest

/-- A tracker after a run is what its feeds make of it. -/
theorem run_tracker {s : Session} {k : Nat} {t : Tracker}
    (ht : s.monitor.trackers[k]? = some t) (operations : List Operation) :
    ∃ t', (s.run operations).1.monitor.trackers[k]? = some t' ∧
      t'.unread = t.unread.feed (s.feeds k operations) := by
  induction operations generalizing s t with
  | nil => exact ⟨t, ht, rfl⟩
  | cons operation rest ih =>
    obtain ⟨next, hnext, hstep⟩ := (s.step_moves operation).tracker ht
    obtain ⟨t', ht', hrest⟩ := ih hnext
    refine ⟨t', ht', ?_⟩
    rw [hrest, hstep, ← Tracker.feed_append]
    rfl

/-- In a run that never wraps no feed is later than its end. -/
theorem Unwrapped.feeds_le {s : Session} {operations : List Operation}
    (h : s.Unwrapped operations) (k : Nat) :
    ∀ r ∈ s.feeds k operations, r ≤ (s.run operations).1.now := by
  induction operations generalizing s with
  | nil => exact fun r hr => absurd hr List.not_mem_nil
  | cons operation rest ih =>
    intro r hr
    rcases List.mem_append.1 hr with hhere | hlater
    · rw [List.eq_of_mem_replicate hhere]
      exact h.now_le_run
    · exact ih h.2 r hlater

end Monitor.Session

end FlowWatch
