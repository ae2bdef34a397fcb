import FlowWatch.Proofs.Monitor.Memory
import FlowWatch.Proofs.Monitor.Updates

/-!
# How long a tracker has been idle

The gap of a tracker goes through signed words and two clamped operations. As
long as the readings fit in a signed word it is exact: the time since the last
update, and before any update the time since one threshold before the tracker was
made. Beyond the signed word it is no longer exact, but it still never shrinks
while the clock goes forward.
-/

namespace FlowWatch

namespace Tracker

/-- The gap never shrinks while the clock goes forward, at any readings. -/
theorem gap_mono (t : Tracker) {now later : Duration} (h : now ≤ later) :
    t.gap now ≤ t.gap later := by
  have hnanos : (now.nanos : Int) ≤ later.nanos := Int.ofNat_le.2 h
  have hsigned : now.toSigned.val ≤ later.toSigned.val := Nanos.clamp_mono hnanos
  have hdifference : (now.toSigned.subClamped t.lastActivity).val ≤
      (later.toSigned.subClamped t.lastActivity).val :=
    Nanos.clamp_mono (Int.sub_le_sub_right hsigned _)
  show (t.gap now).nanos ≤ (t.gap later).nanos
  rw [t.gap_nanos_eq_toNat, t.gap_nanos_eq_toNat]
  omega

/-- The idle time never shrinks while the clock goes forward, at any readings. -/
theorem idle_mono (t : Tracker) {now later : Duration} (h : now ≤ later) :
    t.idle now ≤ t.idle later := by
  have hgap : (t.gap now).nanos ≤ (t.gap later).nanos := t.gap_mono h
  show (t.idle now).nanos ≤ (t.idle later).nanos
  unfold idle
  split
  · rw [Duration.nanos_max, Duration.nanos_max]
    omega
  · exact hgap

/-- A new tracker that was fed fewer than 2^64 times, and at least once, has
updates. -/
theorem updates_feed_fresh_ne_zero (threshold made : Duration) {readings : List Duration}
    {last : Duration} (hlast : readings.getLast? = some last)
    (hfew : readings.length < 18446744073709551616) :
    ((fresh threshold made).feed readings).updates ≠ 0 := by
  intro hzero
  have hpositive := List.length_pos_of_mem (List.mem_of_getLast? hlast)
  have hcount := (fresh threshold made).feed_updates readings
  have hnone : (fresh threshold made).updates.toNat = 0 := rfl
  rw [hzero, hnone, Nat.zero_add, Nat.mod_eq_of_lt hfew] at hcount
  exact absurd hcount (Nat.ne_of_lt hpositive)

section Fed

variable {t : Tracker} {last now : Duration}

/-- Behind an update the idle time is exactly the time since then. -/
theorem idle_nanos_of_fed (hupdates : t.updates ≠ 0) (hactivity : t.lastActivity = last.toSigned)
    (hlast : last ≤ now) (hnow : now ≤ Duration.greatestSigned) :
    (t.idle now).nanos = now.nanos - last.nanos := by
  have hnowWord : now.nanos ≤ 9223372036854775807 := hnow
  have hlastNanos : last.nanos ≤ now.nanos := hlast
  have hgreatest : Duration.greatestSigned.nanos = 9223372036854775807 := rfl
  rw [idle, if_neg hupdates, t.gap_nanos hnow, hactivity, Duration.toSigned_val (by omega)]
  omega

/-- Behind an update its reading is known. -/
theorem lastUpdate?_of_fed (hupdates : t.updates ≠ 0)
    (hactivity : t.lastActivity = last.toSigned) (hlast : last ≤ Duration.greatestSigned) :
    t.lastUpdate? = some last := by
  have hlastWord : last.nanos ≤ 9223372036854775807 := hlast
  have hval : t.lastActivity.val = last.nanos := by
    rw [hactivity, Duration.toSigned_val (by omega)]
  have hpositive : 0 ≤ t.lastActivity.val := by omega
  have hback : t.lastActivity.val.toNat = last.nanos := by omega
  rw [lastUpdate?, if_neg hupdates, Duration.ofSigned?, dif_pos hpositive]
  exact congrArg some (Duration.ext hback)

end Fed

/-- A known update is the last activity behind at least one update. -/
theorem fed_of_lastUpdate? {t : Tracker} {last : Duration} (h : t.lastUpdate? = some last) :
    t.updates ≠ 0 ∧ t.lastActivity = last.toSigned ∧ last ≤ Duration.greatestSigned := by
  have hbelow := t.lastActivity.below
  rw [lastUpdate?] at h
  split at h
  · cases h
  · next hupdates =>
    rw [Duration.ofSigned?] at h
    split at h
    · next hnonneg =>
      obtain rfl := Option.some.inj h
      refine ⟨hupdates, Nanos.ext ?_, ?_⟩
      · rw [Duration.toSigned_val (by dsimp only; omega)]
        exact (Int.toNat_of_nonneg hnonneg).symm
      · show t.lastActivity.val.toNat ≤ 9223372036854775807
        omega
    · cases h

/-- Before any update the idle time runs from one threshold before the tracker was
made, as far as a signed word holds it. -/
theorem idle_nanos_fresh {threshold made now : Duration}
    (hthreshold : threshold ≤ Duration.greatestSigned) (hmade : made ≤ now)
    (hnow : now ≤ Duration.greatestSigned) :
    ((fresh threshold made).idle now).nanos =
      min 9223372036854775807 (threshold.nanos + (now.nanos - made.nanos)) := by
  have hthresholdWord : threshold.nanos ≤ 9223372036854775807 := hthreshold
  have hremembers := remembers_fresh hthreshold (Nat.le_trans hmade hnow)
  have hgreatest : Duration.greatestSigned.nanos = 9223372036854775807 := rfl
  have hlatest : (Account.mk made []).latest? = none := rfl
  have hcounted : (Account.mk made []).counted = 0 := rfl
  rw [hremembers.idle_nanos hnow hmade, Account.idle, if_pos hcounted, Account.gap, hlatest]
  dsimp only
  omega

end Tracker

namespace Monitor.Session

/-- The session with one more tracker, made at the reading of the clock. -/
def equipped (s : Session) (threshold : Duration) : Session :=
  (s.step (.addTracker threshold)).session

/-- The tracker that was made last comes behind the others. -/
theorem equipped_getElem? (s : Session) (threshold : Duration) :
    (s.equipped threshold).monitor.trackers[s.monitor.trackers.length]? =
      some (Tracker.fresh threshold s.now) :=
  List.getElem?_concat_length

/-- A new tracker after a run is what its feeds make of it. -/
theorem run_equipped (s : Session) (threshold : Duration) (operations : List Operation) :
    ∃ t, ((s.equipped threshold).run operations).1.monitor.trackers[s.monitor.trackers.length]? =
        some t ∧
      t.unread = (Tracker.fresh threshold s.now).feed
        ((s.equipped threshold).feeds s.monitor.trackers.length operations) :=
  run_tracker (s.equipped_getElem? threshold) operations

/-- A tracker that a run does not feed keeps its threshold, and its idle time does not
shrink while the clock goes forward. -/
theorem run_spared {s : Session} {k : Nat} {t : Tracker} {operations : List Operation}
    (ht : s.monitor.trackers[k]? = some t) (hforward : s.Unwrapped operations)
    (hunfed : s.feeds k operations = []) :
    ∃ t', (s.run operations).1.monitor.trackers[k]? = some t' ∧ t'.threshold = t.threshold ∧
      t.idle s.now ≤ t'.idle (s.run operations).1.now := by
  obtain ⟨t', ht', hunread⟩ := run_tracker ht operations
  rw [hunfed] at hunread
  have hsame : t'.idle (s.run operations).1.now = t.idle (s.run operations).1.now :=
    congrArg (·.idle (s.run operations).1.now) hunread
  exact ⟨t', ht', congrArg (·.threshold) hunread, hsame ▸ t.idle_mono hforward.now_le_run⟩

/-- An answer that depends on an existing tracker. -/
theorem ofTracker_eq {s : Session} {k : Nat} {t : Tracker}
    (ht : s.monitor.trackers[k]? = some t) (answer : Tracker → Answer) :
    s.ofTracker k answer = answer t := by
  rw [ofTracker, ht]

/-- After any run in which the clock does not wrap and its readings fit in a
signed word, with a threshold that fits as well: if the tracker was updated, its
idle time is exactly the time since the last update, the reading of that update is
known, and a limit is met exactly if that time is strictly below it. Before any
update the idle time is the threshold and the time since the tracker was made, as
far as a signed word holds it, and no update is known. -/
theorem idle_since_last_update (s : Session) {threshold : Duration} {operations : List Operation}
    (hthreshold : threshold ≤ Duration.greatestSigned)
    (hforward : (s.equipped threshold).Unwrapped operations)
    (hnow : ((s.equipped threshold).run operations).1.now ≤ Duration.greatestSigned)
    (hfew : ((s.equipped threshold).feeds s.monitor.trackers.length operations).length <
      18446744073709551616) :
    let k := s.monitor.trackers.length
    let later := ((s.equipped threshold).run operations).1
    let feeds := (s.equipped threshold).feeds k operations
    ∃ t idle, later.monitor.trackers[k]? = some t ∧
      (later.step (.idle k)).answer = .length idle ∧
      (∀ last, feeds.getLast? = some last →
        last ≤ later.now ∧ idle.nanos = later.now.nanos - last.nanos ∧
          t.lastUpdate? = some last ∧
          ∀ limit, ∃ healthy, (later.step (.isHealthy k limit)).answer = .truth healthy ∧
            (healthy = true ↔ later.now.nanos - last.nanos < limit.nanos)) ∧
      (feeds = [] →
        s.now ≤ later.now ∧
          idle.nanos =
            min 9223372036854775807 (threshold.nanos + (later.now.nanos - s.now.nanos)) ∧
          t.lastUpdate? = none) := by
  intro k later feeds
  obtain ⟨t, ht, hunread⟩ := s.run_equipped threshold operations
  refine ⟨t, t.idle later.now, ht, ofTracker_eq ht _, fun last hlast => ?_, fun hnone => ?_⟩
  · have hpast : last ≤ later.now := hforward.feeds_le k last (List.mem_of_getLast? hlast)
    have hupdates : t.updates ≠ 0 := by
      rw [show t.updates = _ from congrArg (·.updates) hunread]
      exact Tracker.updates_feed_fresh_ne_zero threshold s.now hlast hfew
    have hactivity : t.lastActivity = last.toSigned :=
      (congrArg (·.lastActivity) hunread).trans (Tracker.feed_lastActivity _ hlast)
    have hidle := Tracker.idle_nanos_of_fed hupdates hactivity hpast hnow
    have hlastUpdate := Tracker.lastUpdate?_of_fed hupdates hactivity (Nat.le_trans hpast hnow)
    refine ⟨hpast, hidle, hlastUpdate, fun limit => ?_⟩
    refine ⟨t.isHealthy later.now limit, ofTracker_eq ht _, ?_⟩
    rw [← hidle]
    exact decide_eq_true_iff
  · have hmade : s.now ≤ later.now := hforward.now_le_run
    have hsame : t.unread = Tracker.fresh threshold s.now :=
      hunread.trans (congrArg (Tracker.feed _) hnone)
    have hidle : t.idle later.now = (Tracker.fresh threshold s.now).idle later.now :=
      congrArg (·.idle later.now) hsame
    have hunknown : t.lastUpdate? = (Tracker.fresh threshold s.now).lastUpdate? :=
      congrArg (·.lastUpdate?) hsame
    exact ⟨hmade, hidle ▸ Tracker.idle_nanos_fresh hthreshold hmade hnow, hunknown⟩

/-- Two updates, the second one nine seconds after the tracker was made, and four
seconds without any. -/
def interrupted : List Operation :=
  [.update 0, .check 0, .set (.ofWord 9000000000), .update 0, .describe 0,
    .advance (.ofWord 4000000000), .isHealthy 0 (.ofWord 5000000000)]

/-- Four seconds after the last update the idle time is four seconds, which is not
below a limit of four seconds. -/
theorem interrupted_idle :
    ∃ t idle, ((empty.equipped Duration.greatestSigned).run interrupted).1.monitor.trackers[0]? =
        some t ∧
      (((empty.equipped Duration.greatestSigned).run interrupted).1.step (.idle 0)).answer =
        .length idle ∧
      idle.nanos = 4000000000 ∧ t.lastUpdate? = some (.ofWord 9000000000) ∧
      (((empty.equipped Duration.greatestSigned).run interrupted).1.step
        (.isHealthy 0 (.ofWord 4000000000))).answer = .truth false := by
  obtain ⟨t, idle, ht, hidle, hfed, -⟩ :=
    @idle_since_last_update empty Duration.greatestSigned interrupted (by decide)
      (by decide +kernel) (by decide +kernel) (by decide +kernel)
  obtain ⟨-, hgap, hlast, hlimits⟩ := hfed (.ofWord 9000000000) (by decide +kernel)
  obtain ⟨healthy, hanswer, hiff⟩ := hlimits (.ofWord 4000000000)
  have hnow : ((empty.equipped Duration.greatestSigned).run interrupted).1.now.nanos =
      13000000000 := by decide +kernel
  rw [hnow] at hgap hiff
  have hno : healthy = false := Bool.eq_false_iff.2 fun hyes => absurd (hiff.1 hyes) (by decide)
  exact ⟨t, idle, ht, hidle, hgap, hlast, hno ▸ hanswer⟩

end Monitor.Session

end FlowWatch
