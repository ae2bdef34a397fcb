import FlowWatch.Time.Duration

/-!
# Idle trackers

A tracker remembers when data last passed, in one signed word, and how often.
Before any data it counts as idle for at least its threshold, whatever the
clock says. Every evaluation records the idle time that it found. The reading
of the clock is an argument throughout.
-/

namespace FlowWatch

/-- What is known about the data that passes some points. -/
structure Tracker where
  /-- The gap that counts as idle. -/
  threshold : Duration
  /-- The reading of the clock at the last update; before any update, one
  threshold before the tracker was made. -/
  lastActivity : Nanos
  /-- The idle time that the last evaluation found, in nanoseconds. -/
  lastIdle : UInt64
  /-- How often data passed. -/
  updates : UInt64
  deriving DecidableEq

namespace Tracker

/-- A tracker without data, made at a reading of the clock. -/
def fresh (threshold now : Duration) : Tracker where
  threshold := threshold
  lastActivity := now.toSigned.subClamped threshold.toSigned
  lastIdle := 0
  updates := 0

/-- Data passes. -/
def update (t : Tracker) (now : Duration) : Tracker :=
  { t with lastActivity := now.toSigned, updates := t.updates + 1 }

/-- The time between the last activity and a reading of the clock, and nothing
if the reading is the earlier one. -/
def gap (t : Tracker) (now : Duration) : Duration :=
  (Duration.ofSigned? (now.toSigned.subClamped t.lastActivity)).getD Duration.zero

/-- The idle time at a reading of the clock: the gap, and before any data at
least the threshold. -/
def idle (t : Tracker) (now : Duration) : Duration :=
  if t.updates = 0 then max (t.gap now) t.threshold else t.gap now

/-- The tracker after an evaluation, which records the idle time. -/
def recordIdle (t : Tracker) (now : Duration) : Tracker :=
  { t with lastIdle := (t.idle now).toWord }

/-- An idle time and the threshold that it is compared with. -/
structure Report where
  /-- The idle time. -/
  idle : Duration
  /-- The threshold. -/
  threshold : Duration
  deriving DecidableEq

/-- Whether the idle time is strictly below the threshold. -/
def Report.isHealthy (r : Report) : Bool := r.idle < r.threshold

/-- The idle time against the tracker's own threshold. -/
def report (t : Tracker) (now : Duration) : Report := ⟨t.idle now, t.threshold⟩

/-- Whether the idle time is strictly below a limit. -/
def isHealthy (t : Tracker) (now limit : Duration) : Bool := t.idle now < limit

/-- The reading of the clock at the last update, if there was any. -/
def lastUpdate? (t : Tracker) : Option Duration :=
  if t.updates = 0 then none else Duration.ofSigned? t.lastActivity

/-- The last update in words. -/
def describe (t : Tracker) : String :=
  match t.lastUpdate? with
  | some reading => s!"last update at {reading.seconds} seconds of the monotonic clock"
  | none => "no update yet"

/-- The tracker in one line for debugging. -/
def debugText (t : Tracker) : String :=
  let last := match t.lastUpdate? with
    | some reading => "Some(" ++ reading.text ++ ")"
    | none => "None"
  "IdleTracker \x7b threshold: " ++ t.threshold.text ++ ", updates: " ++
    toString t.updates.toNat ++ ", last_update_at: " ++ last ++ ", .. \x7d"

/-- Without data the idle time is at least the threshold. -/
theorem threshold_le_idle {t : Tracker} (h : t.updates = 0) (now : Duration) :
    t.threshold ≤ t.idle now := by
  simp only [idle, h, if_true]
  simp only [Max.max]
  split
  · exact Nat.le_refl _
  · rename_i hlt
    exact Nat.le_of_lt (Nat.lt_of_not_le hlt)

/-- Without data no tracker is healthy. -/
theorem not_healthy_of_no_update {t : Tracker} (h : t.updates = 0) (now : Duration) :
    (t.report now).isHealthy = false := by
  have hle : t.threshold.nanos ≤ (t.idle now).nanos := threshold_le_idle h now
  exact decide_eq_false fun hlt => Nat.lt_irrefl _ (Nat.lt_of_lt_of_le hlt hle)

end Tracker

end FlowWatch
