import FlowWatch.Proofs.Endpoint.Verdict
import FlowWatch.Proofs.Monitor.Idleness

/-!
# What keeps a verdict from being healthy

A single stale tracker makes the verdict idle, for at least its own idle time. Two
kinds of trackers are stale for certain: one that was never updated, whatever the
clock does, and one that was stale before and was not updated since, as long as
the clock goes forward. So a verdict is never healthy before the first data, and
once it is idle it stays so until a stale tracker is updated.
-/

namespace FlowWatch

namespace Monitor

variable {m : Monitor} {now : Duration} {watched : List Nat}

/-- A stale tracker makes the verdict idle, for at least its idle time. -/
theorem evaluate_of_stale {k : Nat} {t : Tracker} (hk : k ∈ watched)
    (ht : m.trackers[k]? = some t) (hstale : (t.report now).isHealthy = false) :
    ∃ longest, (m.evaluate now watched).1 = .idle longest ∧ t.idle now ≤ longest := by
  have hreport : t.report now ∈ m.reports now watched := report_mem hk ht
  cases hverdict : (m.evaluate now watched).1 with
  | healthy =>
    have hhealthy := ((Verdict.ofReports_eq_healthy_iff _).1 hverdict).2 _ hreport
    rw [hstale] at hhealthy
    exact absurd hhealthy Bool.false_ne_true
  | noTrackers =>
    rw [(Verdict.ofReports_eq_noTrackers_iff _).1 hverdict] at hreport
    exact absurd hreport List.not_mem_nil
  | idle longest =>
    exact ⟨longest, rfl, ((Verdict.ofReports_eq_idle_iff _ _).1 hverdict).2 _ hreport hstale⟩

/-- An idle verdict names the idle time of a stale tracker. -/
theorem exists_stale_of_evaluate {longest : Duration}
    (h : (m.evaluate now watched).1 = .idle longest) :
    ∃ k ∈ watched, ∃ t, m.trackers[k]? = some t ∧ (t.report now).isHealthy = false ∧
      t.idle now = longest := by
  obtain ⟨⟨report, hreport, hstale, hlongest⟩, -⟩ := (Verdict.ofReports_eq_idle_iff _ _).1 h
  obtain ⟨k, hk, t, ht, rfl⟩ := mem_reports_iff.1 hreport
  exact ⟨k, hk, t, ht, hstale, hlongest⟩

end Monitor

namespace Endpoint

/-- Only a healthy verdict is answered with 200. -/
theorem answer_status_ne {m : Monitor} {now : Duration} {watched : List Nat}
    (h : (m.evaluate now watched).1 ≠ .healthy) (r : Request) :
    (answer m now watched r).response.status ≠ 200 := by
  have hstatus : (m.evaluate now watched).1.status ≠ 200 := by
    cases hverdict : (m.evaluate now watched).1 with
    | healthy => exact absurd hverdict h
    | idle longest => exact (by decide : (500 : Nat) ≠ 200)
    | noTrackers => exact (by decide : (500 : Nat) ≠ 200)
  unfold answer
  cases r.route with
  | verdict => exact fun hok => hstatus ((bodiless_status r _).symm.trans hok)
  | wrongMethod => exact (by decide : (405 : Nat) ≠ 200)
  | notFound => exact (by decide : (404 : Nat) ≠ 200)

end Endpoint

namespace Monitor.Session

/-- The trackers that make a verdict idle, by their numbers. -/
def stale (s : Session) (watched : List Nat) : List Nat :=
  watched.filter fun k => (s.monitor.trackers[k]?).any fun t => !(t.report s.now).isHealthy

/-- A tracker is stale if it is looked at, exists, and is not below its
threshold. -/
theorem mem_stale_iff {s : Session} {watched : List Nat} {k : Nat} :
    k ∈ s.stale watched ↔ k ∈ watched ∧
      ∃ t, s.monitor.trackers[k]? = some t ∧ (t.report s.now).isHealthy = false := by
  rw [stale, List.mem_filter, Option.any_eq_true]
  simp only [Bool.not_eq_true']

/-- A tracker that was never updated is stale after any run, wherever the clock
goes. -/
theorem run_unfed {s : Session} {threshold : Duration} {operations : List Operation}
    (hunfed : (s.equipped threshold).feeds s.monitor.trackers.length operations = []) :
    ∃ t, ((s.equipped threshold).run operations).1.monitor.trackers[s.monitor.trackers.length]? =
        some t ∧ t.threshold = threshold ∧ t.updates = 0 := by
  obtain ⟨t, ht, hunread⟩ := s.run_equipped threshold operations
  rw [hunfed] at hunread
  exact ⟨t, ht, congrArg (·.threshold) hunread, congrArg (·.updates) hunread⟩

/-- After any run in which a tracker is never updated, with any threshold, any
reading of the clock at the start and any moves of it, wrapping ones included: the
idle time is at least the threshold, the tracker is not healthy by its own
threshold nor by any limit up to it, the verdict over any trackers among which it
is says idle, and no request to an endpoint over them is answered with 200. -/
theorem unfed_never_healthy (s : Session) (threshold : Duration) {operations : List Operation}
    (hunfed : (s.equipped threshold).feeds s.monitor.trackers.length operations = []) :
    let k := s.monitor.trackers.length
    let later := ((s.equipped threshold).run operations).1
    (∃ idle, (later.step (.idle k)).answer = .length idle ∧ threshold ≤ idle) ∧
      (∃ report, (later.step (.check k)).answer = .report report ∧
        report.threshold = threshold ∧ report.isHealthy = false) ∧
      (∀ limit, limit ≤ threshold → (later.step (.isHealthy k limit)).answer = .truth false) ∧
      ∀ watched, k ∈ watched →
        (∃ longest, (later.step (.evaluate watched)).answer =
            .verdict (.idle longest) watched.length ∧ threshold ≤ longest) ∧
          ∀ request, ∃ response, (later.step (.request request watched)).answer =
            .response response ∧ response.status ≠ 200 := by
  intro k later
  obtain ⟨t, ht, hthreshold, hupdates⟩ := run_unfed hunfed
  have hidle : threshold ≤ t.idle later.now := hthreshold ▸ Tracker.threshold_le_idle hupdates _
  have hstale : (t.report later.now).isHealthy = false :=
    Tracker.not_healthy_of_no_update hupdates later.now
  refine ⟨⟨_, ofTracker_eq ht _, hidle⟩, ⟨_, ofTracker_eq ht _, hthreshold, hstale⟩,
    fun limit hlimit => ?_, fun watched hk => ?_⟩
  · have hnot : t.isHealthy later.now limit = false :=
      decide_eq_false (Nat.not_lt.2 (Nat.le_trans hlimit hidle))
    exact (ofTracker_eq ht _).trans (congrArg Answer.truth hnot)
  · obtain ⟨longest, hverdict, hle⟩ := evaluate_of_stale hk ht hstale
    refine ⟨⟨longest, ?_, Nat.le_trans hidle hle⟩, fun request => ⟨_, rfl, ?_⟩⟩
    · exact congrArg (Answer.verdict · watched.length) hverdict
    · apply Endpoint.answer_status_ne
      rw [hverdict]
      exact Verdict.noConfusion

/-- The clock goes to the end of its word and around it, while one of two trackers
is updated. -/
def deserted : List Operation :=
  [.set (.ofWord 18446744073709551615), .check 1, .advance (.ofWord 2), .update 0,
    .evaluate [0, 1]]

/-- The other tracker has a threshold beyond the word of the clock. No request over
both is answered with 200. -/
theorem deserted_status :
    let s := empty.equipped (.ofWord 5000000000)
    let threshold : Duration := ⟨18446744073709551616000, by decide⟩
    let later := ((s.equipped threshold).run deserted).1
    (s.equipped threshold).feeds 1 deserted = [] ∧
      ∃ response, (later.step (.request ⟨"GET", "/ishealthy"⟩ [0, 1])).answer =
        .response response ∧ response.status ≠ 200 := by
  intro s threshold later
  have hunfed : (s.equipped threshold).feeds 1 deserted = [] := by decide +kernel
  exact ⟨hunfed, ((unfed_never_healthy s threshold hunfed).2.2.2 [0, 1] (by decide)).2 _⟩

/-- A stale tracker that a run does not feed stays stale while the clock goes
forward, and its idle time does not shrink. -/
theorem run_stale {s : Session} {k : Nat} {t : Tracker} {operations : List Operation}
    (ht : s.monitor.trackers[k]? = some t) (hstale : (t.report s.now).isHealthy = false)
    (hforward : s.Unwrapped operations) (hunfed : s.feeds k operations = []) :
    ∃ t', (s.run operations).1.monitor.trackers[k]? = some t' ∧
      (t'.report (s.run operations).1.now).isHealthy = false ∧
      t.idle s.now ≤ t'.idle (s.run operations).1.now := by
  obtain ⟨t', ht', hthreshold, hidle⟩ := run_spared ht hforward hunfed
  have hnot : ¬t.idle s.now < t.threshold := of_decide_eq_false hstale
  refine ⟨t', ht', decide_eq_false fun hhealthy => hnot ?_, hidle⟩
  show (t.idle s.now).nanos < t.threshold.nanos
  rw [← hthreshold]
  exact Nat.lt_of_le_of_lt hidle hhealthy

/-- Every stale tracker that is not updated after an evaluation keeps the verdict
idle while the clock goes forward, for at least the idle time it had. The evaluation
itself feeds nothing and does not move the clock. -/
theorem evaluate_after_stale {s : Session} {watched : List Nat} {k : Nat} {t : Tracker}
    {operations : List Operation} (hk : k ∈ watched) (ht : s.monitor.trackers[k]? = some t)
    (hstale : (t.report s.now).isHealthy = false)
    (hforward : (s.step (.evaluate watched)).session.Unwrapped operations)
    (hunfed : (s.step (.evaluate watched)).session.feeds k operations = []) :
    ∃ longest,
      (((s.step (.evaluate watched)).session.run operations).1.step (.evaluate watched)).answer =
        .verdict (.idle longest) watched.length ∧ t.idle s.now ≤ longest := by
  have hwhole : s.Unwrapped (.evaluate watched :: operations) := ⟨rfl, hforward⟩
  obtain ⟨t', ht', hstale', hidle⟩ := run_stale ht hstale hwhole hunfed
  obtain ⟨longest, hverdict, hle⟩ := evaluate_of_stale hk ht' hstale'
  exact ⟨longest, congrArg (Answer.verdict · watched.length) hverdict, Nat.le_trans hidle hle⟩

/-- Once the verdict over some trackers is idle, over any trackers in any state:
after any run in which the clock does not wrap and no tracker is updated that was
stale then, the verdict over them is idle again, for at least as long. A healthy
verdict takes an update of every tracker that was stale, and a shorter idle time an
update of some tracker that was. -/
theorem idle_until_fed {s : Session} {watched : List Nat} {longest : Duration}
    {operations : List Operation}
    (hidle : (s.step (.evaluate watched)).answer = .verdict (.idle longest) watched.length)
    (hforward : (s.step (.evaluate watched)).session.Unwrapped operations) :
    let feeds := fun k => (s.step (.evaluate watched)).session.feeds k operations
    let later := ((s.step (.evaluate watched)).session.run operations).1
    let answer := (later.step (.evaluate watched)).answer
    ((∀ k ∈ s.stale watched, feeds k = []) →
        ∃ longer, answer = .verdict (.idle longer) watched.length ∧ longest ≤ longer) ∧
      (answer = .verdict .healthy watched.length → ∀ k ∈ s.stale watched, feeds k ≠ []) ∧
      ∀ longer, answer = .verdict (.idle longer) watched.length → longer < longest →
        ∃ k ∈ s.stale watched, feeds k ≠ [] := by
  intro feeds later answer
  have hverdict : (s.monitor.evaluate s.now watched).1 = .idle longest :=
    (Answer.verdict.inj hidle).1
  obtain ⟨k, hk, t, ht, hstale, hlongest⟩ := exists_stale_of_evaluate hverdict
  have hmem : k ∈ s.stale watched := mem_stale_iff.2 ⟨hk, t, ht, hstale⟩
  refine ⟨fun hspared => ?_, fun hhealthy other hother hunfed => ?_, fun longer hlater hlt => ?_⟩
  · rw [← hlongest]
    exact evaluate_after_stale hk ht hstale hforward (hspared k hmem)
  · obtain ⟨hwatched, t', ht', hstale'⟩ := mem_stale_iff.1 hother
    obtain ⟨longer, hlater, -⟩ := evaluate_after_stale hwatched ht' hstale' hforward hunfed
    have hsame := (Answer.verdict.inj (hhealthy.symm.trans hlater)).1
    exact Verdict.noConfusion hsame
  · refine ⟨k, hmem, fun hunfed => ?_⟩
    obtain ⟨other, hother, hle⟩ := evaluate_after_stale hk ht hstale hforward hunfed
    obtain rfl := Verdict.idle.inj (Answer.verdict.inj (hlater.symm.trans hother)).1
    rw [hlongest] at hle
    exact absurd hlt (Nat.not_lt.2 hle)

/-- Three seconds without data, which one of two trackers allows. -/
def neglected : Session :=
  (empty.run [.addTracker (.ofWord 5000000000), .addTracker (.ofWord 2000000000), .update 0,
    .update 1, .advance (.ofWord 3000000000)]).1

/-- Updates of the healthy tracker and a jump to the end of the clock leave the
verdict idle, for no less than the three seconds. -/
theorem neglected_stays_idle :
    (neglected.step (.evaluate [0, 1])).answer = .verdict (.idle (.ofWord 3000000000)) 2 ∧
      ∃ longer,
        (((neglected.step (.evaluate [0, 1])).session.run
            [.update 0, .set (.ofWord 18446744073709551615), .update 0]).1.step
          (.evaluate [0, 1])).answer = .verdict (.idle longer) 2 ∧
        (.ofWord 3000000000) ≤ longer := by
  have hidle : (neglected.step (.evaluate [0, 1])).answer =
      .verdict (.idle (.ofWord 3000000000)) 2 := by decide +kernel
  exact ⟨hidle, (idle_until_fed hidle (by decide +kernel)).1 (by decide +kernel)⟩

end Monitor.Session

end FlowWatch
