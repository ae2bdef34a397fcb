import FlowWatch.Monitor.Basic

/-!
# Verdicts over trackers

A verdict looks at every tracker against its own threshold. Some tracker idle
means the whole is idle, for the longest idle time among the idle ones. Looking
records the idle time in every tracker looked at, healthy or not.
-/

namespace FlowWatch

/-- The outcome of looking at some trackers. -/
inductive Verdict
  /-- There are trackers, and all of them are healthy. -/
  | healthy
  /-- Some tracker is not; the longest idle time of those. -/
  | idle (longest : Duration)
  /-- There is no tracker. -/
  | noTrackers
  deriving DecidableEq

namespace Verdict

/-- The verdict over reports. -/
def ofReports (reports : List Tracker.Report) : Verdict :=
  if reports.isEmpty then .noTrackers
  else match reports.filter fun report => !report.isHealthy with
    | [] => .healthy
    | first :: rest => .idle (rest.foldl (fun longest report => max longest report.idle) first.idle)

/-- The status of the answer to a request. -/
def status : Verdict → Nat
  | .healthy => 200
  | .idle _ | .noTrackers => 500

/-- The text of the answer to a request, with whole seconds. -/
def body : Verdict → String
  | .healthy => "OK"
  | .idle longest => s!"Pipeline has been idle for {longest.seconds} seconds"
  | .noTrackers => "No idle tracker is registered"

/-- What is logged when a request gets this verdict. -/
def events : Verdict → List Log.Event
  | .healthy => []
  | .idle longest => [.idleReported longest.seconds]
  | .noTrackers => [.emptyReported]

/-- There are no trackers to speak of exactly without reports. -/
theorem ofReports_eq_noTrackers_iff (reports : List Tracker.Report) :
    ofReports reports = .noTrackers ↔ reports = [] := by
  unfold ofReports
  cases reports with
  | nil => simp
  | cons first rest =>
    simp only [List.isEmpty_cons, Bool.false_eq_true, if_false]
    split <;> simp

end Verdict

namespace Monitor

/-- The reports of some trackers, by their numbers. -/
def reports (m : Monitor) (now : Duration) (watched : List Nat) : List Tracker.Report :=
  (watched.filterMap (m.trackers[·]?)).map (·.report now)

/-- The monitor after some trackers have been looked at. -/
def recordAll (m : Monitor) (now : Duration) (watched : List Nat) : Monitor :=
  watched.foldl (fun m number => m.changeTracker number (·.recordIdle now)) m

/-- The verdict over some trackers, and the monitor after looking. -/
def evaluate (m : Monitor) (now : Duration) (watched : List Nat) : Verdict × Monitor :=
  (Verdict.ofReports (m.reports now watched), m.recordAll now watched)

end Monitor

end FlowWatch
