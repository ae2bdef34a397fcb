import FlowWatch.Proofs.Config.Validation
import FlowWatch.Proofs.Supervisor.Agreement
import FlowWatch.Proofs.Supervisor.Outcomes

/-!
# What the health check says about the pipeline

While the server runs, the answer to the request for the verdict is a statement
on the history: that data passed the probed points recently enough, some of them
with shared binding and all of them otherwise. Every other answer names the
longest idle time among the trackers that are stale.
-/

namespace FlowWatch

namespace Supervisor.Session

section Answers

variable {settings : HealthSettings} {base : Monitor} {made : Duration} {s : Session}
  {history : List Occurrence}

/-- Every account has its report among those on the trackers of the supervisor. -/
theorem Agrees.report_of_account (h : s.Agrees settings base made history)
    (henabled : settings.enabled = true) (hnow : s.now ≤ Duration.greatestSigned) {a : Account}
    (ha : a ∈ accounts settings.binding made (watches history)) :
    ∃ report ∈ s.state.monitor.reports s.now s.state.supervisor.trackers,
      report.idle.nanos = a.idle settings.idleThreshold s.now ∧
        report.threshold = settings.idleThreshold := by
  obtain ⟨i, hi⟩ := List.mem_iff_getElem?.1 ha
  obtain ⟨t, ht, hremembers⟩ := h.remembered i a hi
  have hin := (List.getElem?_eq_some_iff.1 hi).1
  have hk : base.trackers.length + i ∈ s.state.supervisor.trackers := by
    rw [h.trackers_eq henabled]
    exact List.mem_range'_1.2 ⟨by omega, by omega⟩
  exact ⟨_, Monitor.report_mem hk ht, hremembers.idle_nanos hnow (h.past a ha).1,
    hremembers.threshold_eq⟩

/-- Every report on the trackers of the supervisor is that of an account. -/
theorem Agrees.account_of_report (h : s.Agrees settings base made history)
    (henabled : settings.enabled = true) (hnow : s.now ≤ Duration.greatestSigned)
    {report : Tracker.Report}
    (hreport : report ∈ s.state.monitor.reports s.now s.state.supervisor.trackers) :
    ∃ a ∈ accounts settings.binding made (watches history),
      report.idle.nanos = a.idle settings.idleThreshold s.now ∧
        report.threshold = settings.idleThreshold := by
  rw [h.trackers_eq henabled] at hreport
  obtain ⟨k, hk, t, ht, rfl⟩ := Monitor.mem_reports_iff.1 hreport
  obtain ⟨hlow, hhigh⟩ := List.mem_range'_1.1 hk
  obtain ⟨i, rfl⟩ := Nat.exists_eq_add_of_le hlow
  have hi : i < (accounts settings.binding made (watches history)).length := by omega
  have ha := List.getElem?_eq_getElem hi
  have hin := List.mem_of_getElem? ha
  obtain ⟨t', ht', hremembers⟩ := h.remembered i _ ha
  obtain rfl := Option.some.inj (ht.symm.trans ht')
  exact ⟨_, hin, hremembers.idle_nanos hnow (h.past _ hin).1, hremembers.threshold_eq⟩

/-- The idle times of the stale trackers: those that are not below the
threshold. -/
def staleTimes (threshold now : Duration) (trackers : List Account) : List Nat :=
  (trackers.map (·.idle threshold now)).filter (threshold.nanos ≤ ·)

/-- A stale time is the idle time of some tracker and not below the threshold. -/
theorem mem_staleTimes_iff {threshold now : Duration} {trackers : List Account} {time : Nat} :
    time ∈ staleTimes threshold now trackers ↔
      (∃ a ∈ trackers, a.idle threshold now = time) ∧ threshold.nanos ≤ time := by
  rw [staleTimes, List.mem_filter, List.mem_map, decide_eq_true_iff]

/-- The verdict over the trackers of the supervisor is healthy, and all idle times
are below the threshold, or it names the longest of the stale ones. -/
theorem Agrees.verdict (h : s.Agrees settings base made history)
    (henabled : settings.enabled = true) (hnow : s.now ≤ Duration.greatestSigned)
    (hsome : s.state.supervisor.trackers ≠ []) :
    let trackers := accounts settings.binding made (watches history)
    let verdict := (s.state.monitor.evaluate s.now s.state.supervisor.trackers).1
    let stale := staleTimes settings.idleThreshold s.now trackers
    (verdict = .healthy ∧
        ∀ a ∈ trackers, a.idle settings.idleThreshold s.now < settings.idleThreshold.nanos) ∨
      ∃ longest, verdict = .idle longest ∧ longest.nanos ∈ stale ∧
        ∀ time ∈ stale, time ≤ longest.nanos := by
  intro trackers verdict stale
  cases hverdict : verdict with
  | noTrackers =>
    obtain ⟨k, hk⟩ := List.exists_mem_of_ne_nil _ hsome
    exact absurd hverdict (Monitor.evaluate_ne_noTrackers hk (h.linked.tracker_lt hk))
  | healthy =>
    obtain ⟨-, hall⟩ := (Verdict.ofReports_eq_healthy_iff _).1 hverdict
    refine .inl ⟨rfl, fun a ha => ?_⟩
    obtain ⟨report, hreport, hidle, hthreshold⟩ := h.report_of_account henabled hnow ha
    have hhealthy : report.idle.nanos < report.threshold.nanos :=
      of_decide_eq_true (hall report hreport)
    rw [hidle, hthreshold] at hhealthy
    exact hhealthy
  | idle longest =>
    obtain ⟨⟨report, hreport, hunhealthy, rfl⟩, hgreatest⟩ :=
      (Verdict.ofReports_eq_idle_iff _ _).1 hverdict
    refine .inr ⟨_, rfl, ?_, fun time htime => ?_⟩
    · obtain ⟨a, ha, hidle, hthreshold⟩ := h.account_of_report henabled hnow hreport
      have hnot : ¬report.idle.nanos < report.threshold.nanos := of_decide_eq_false hunhealthy
      refine mem_staleTimes_iff.2 ⟨⟨a, ha, hidle.symm⟩, ?_⟩
      rw [← hthreshold]
      omega
    · obtain ⟨⟨a, ha, rfl⟩, hle⟩ := mem_staleTimes_iff.1 htime
      obtain ⟨other, hother, hidle, hthreshold⟩ := h.report_of_account henabled hnow ha
      have hnot : ¬other.idle.nanos < other.threshold.nanos := by
        rw [hidle, hthreshold]
        omega
      rw [← hidle]
      exact hgreatest other hother (decide_eq_false hnot)

/-- The request for the verdict gets it from a running server. -/
theorem Linked.request_verdict {first : Nat} (h : s.Linked settings first)
    (hrunning : s.state.supervisor.isRunning = true) :
    s.state.supervisor.trackers ≠ [] ∧
      let verdict := (s.state.monitor.evaluate s.now s.state.supervisor.trackers).1
      (s.request ⟨"GET", Endpoint.healthPath⟩ true).answer =
        .response ⟨verdict.status, verdict.body⟩ := by
  obtain ⟨server, hserver⟩ := Option.isSome_iff_exists.1 hrunning
  obtain ⟨-, hsome, -⟩ := h.served server hserver
  have hbody : (Endpoint.Request.mk "GET" Endpoint.healthPath).isHead = false := by decide +kernel
  refine ⟨hsome, (congrArg Stepped.answer (h.request_running hrunning _)).trans ?_⟩
  simp only [Endpoint.answer_get, Endpoint.Request.bodiless, hbody, Bool.false_eq_true, if_false]

end Answers

/-- While the server runs, after any steady run with settings that pass the
checks, over a monitor whose probes feed trackers that exist, the request for the
verdict is answered with 200 and "OK" exactly if the pipeline is alive by the
history: with shared binding if data passed some probed point less than the
threshold ago and after the probe was added, and otherwise if it did so at every
probe that was added. A tracker whose counter has come back to zero, as it does
after every 2^64 feeds, counts as not fed; below that many feeds there is no
exception. Every other answer is 500 with the whole seconds of the longest idle
time of a stale tracker. -/
theorem health_answer {settings : HealthSettings} {monitor : Monitor} {clock : ManualClock}
    {operations : List Operation} (henabled : settings.enabled = true)
    (hvalid : Config.validateHealth settings = .ok ()) (hclosed : monitor.Closed)
    (hsteady : (fresh settings monitor clock).Steady operations)
    (hrunning :
      ((fresh settings monitor clock).run operations).1.state.supervisor.isRunning = true) :
    let s := ((fresh settings monitor clock).run operations).1
    let ws := watches ((fresh settings monitor clock).history operations)
    let trackers := accounts settings.binding clock.elapsed ws
    let stale := staleTimes settings.idleThreshold s.now trackers
    ∃ response, (s.request ⟨"GET", "/ishealthy"⟩ true).answer = .response response ∧
      (response = ⟨200, "OK"⟩ ↔ Alive settings.binding settings.idleThreshold s.now ws ∧
        ∀ a ∈ trackers, a.counted ≠ 0) ∧
      ((∀ a ∈ trackers, a.feeds.length < 18446744073709551616) →
        (response = ⟨200, "OK"⟩ ↔ Alive settings.binding settings.idleThreshold s.now ws)) ∧
      (response ≠ ⟨200, "OK"⟩ → ∃ longest ∈ stale, (∀ time ∈ stale, time ≤ longest) ∧
        response = ⟨500, s!"Pipeline has been idle for {longest / 1000000000} seconds"⟩) := by
  intro s ws trackers stale
  have hthreshold := (Config.validateHealth_eq_ok_iff.1 hvalid).2.1
  have hagrees : s.Agrees settings monitor clock.elapsed
      ((fresh settings monitor clock).history operations) :=
    Agrees.run hclosed henabled hthreshold
      (agrees_fresh henabled hthreshold clock hsteady.now_le) hsteady
  have hnow : s.now ≤ Duration.greatestSigned := hsteady.now_run_le
  obtain ⟨hsome, hanswer⟩ := hagrees.linked.request_verdict hrunning
  have halive := idle_lt_iff_alive settings.binding clock.elapsed settings.idleThreshold s.now ws
  rcases hagrees.verdict henabled hnow hsome with
    ⟨hverdict, hall⟩ | ⟨longest, hverdict, hmem, hgreatest⟩
  · rw [hverdict] at hanswer
    obtain ⟨hlive, hcounted⟩ := halive.1 hall
    exact ⟨_, hanswer, iff_of_true rfl ⟨hlive, hcounted⟩, fun _ => iff_of_true rfl hlive,
      fun hother => absurd rfl hother⟩
  · rw [hverdict] at hanswer
    have hdead : ¬(Alive settings.binding settings.idleThreshold s.now ws ∧
        ∀ a ∈ trackers, a.counted ≠ 0) := by
      intro hlive
      obtain ⟨⟨a, ha, hidle⟩, hle⟩ := mem_staleTimes_iff.1 hmem
      have hlt := halive.2 hlive a ha
      omega
    have hstatus : (500 : Nat) ≠ 200 := by decide
    have hother : (⟨500, (Verdict.idle longest).body⟩ : Endpoint.Response) ≠ ⟨200, "OK"⟩ :=
      fun hsame => hstatus (congrArg Endpoint.Response.status hsame)
    exact ⟨_, hanswer, iff_of_false hother hdead,
      fun hbound => iff_of_false hother fun hlive => hdead ⟨hlive, hlive.counted_ne_zero hbound⟩,
      fun _ => ⟨longest.nanos, hmem, hgreatest, rfl⟩⟩

/-- Two seconds as a threshold, a tracker for each probe. -/
def watchful : HealthSettings :=
  { HealthSettings.default with
    enabled := true, idleThreshold := ⟨2000000000, by decide⟩, binding := .perProbe }

/-- One element with one pad, on which another tracker already has a probe. -/
def occupied : Monitor :=
  ⟨⟨[⟨"sink", [⟨"sink", [⟨⟨"sink", "sink"⟩, 0⟩]⟩]⟩]⟩, [Tracker.fresh Duration.zero Duration.zero]⟩

/-- Data passes once after a probe was added, and then nothing for three seconds. -/
def silence : List Operation :=
  [.addProbe "nowhere", .addProbe "sink", .start (.bound "127.0.0.1:8080"), .push "sink" "sink",
    .advance ⟨3000000000, by decide⟩]

/-- After the silence the answer names its three seconds. -/
theorem silence_answer :
    (((fresh watchful occupied ManualClock.origin).run silence).1.request
      ⟨"GET", "/ishealthy"⟩ true).answer =
        .response ⟨500, "Pipeline has been idle for 3 seconds"⟩ := by
  have hvalid : Config.validateHealth watchful = .ok () := rfl
  obtain ⟨response, hanswer, hiff, -, hother⟩ :=
    @health_answer watchful occupied ManualClock.origin silence (by decide) hvalid
      (by decide +kernel) (by decide +kernel) (by decide +kernel)
  have hdead : ¬Alive watchful.binding watchful.idleThreshold
      ((fresh watchful occupied ManualClock.origin).run silence).1.now
      (watches ((fresh watchful occupied ManualClock.origin).history silence)) := by
    decide +kernel
  have hstale : staleTimes watchful.idleThreshold
      ((fresh watchful occupied ManualClock.origin).run silence).1.now
      (accounts watchful.binding ManualClock.origin.elapsed
        (watches ((fresh watchful occupied ManualClock.origin).history silence))) =
          [3000000000] := by
    decide +kernel
  obtain ⟨longest, hmem, -, hresponse⟩ := hother fun hok => hdead (hiff.1 hok).1
  rw [hstale, List.mem_singleton] at hmem
  rw [hanswer, hresponse, hmem]
  rfl

end Supervisor.Session

end FlowWatch
