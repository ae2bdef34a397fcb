import FlowWatch.Proofs.Endpoint.Staleness
import FlowWatch.Proofs.Supervisor.Liveness
import FlowWatch.Proofs.Supervisor.Twins

/-!
# A tracker for each probe is never laxer than a shared one

If every tracker of its own is healthy, then so is the one among them that was
updated last, and the shared tracker has the same last activity. So whatever a
session with a tracker for each probe reports as healthy, the one with shared
binding does too. Only a counter that has come back to zero, after a multiple of
2^64 updates, takes the shared tracker for one without data.
-/

namespace FlowWatch

/-- Of two trackers with the same threshold and the same last activity, one that
has counted updates is healthy if the other is. -/
theorem Tracker.isHealthy_of_lastActivity {t t' : Tracker} {now : Duration}
    (hthreshold : t'.threshold = t.threshold) (hactive : t'.lastActivity = t.lastActivity)
    (hcounted : t.updates ≠ 0) (h : (t'.report now).isHealthy = true) :
    (t.report now).isHealthy = true := by
  have hcounted' : t'.updates ≠ 0 := by
    intro hnone
    rw [t'.not_healthy_of_no_update hnone now] at h
    exact Bool.false_ne_true h
  have hidle : t.idle now = t'.idle now := by
    have hgap : t.gap now = t'.gap now := by rw [gap, gap, hactive]
    rw [idle, idle, if_neg hcounted, if_neg hcounted', hgap]
  have hlt : t'.idle now < t'.threshold := of_decide_eq_true h
  rw [← hidle, hthreshold] at hlt
  exact decide_eq_true hlt

namespace Monitor

/-- If all the others are healthy, then the tracker that carries their last activity
was updated, and it is healthy unless its counter has come back to zero. -/
theorem Carries.isHealthy_iff {m m' : Monitor} {threshold now : Duration} {fed first count : Nat}
    (h : Carries threshold fed first count m m') (hcount : count ≠ 0)
    (hall : ∀ i < count, ∀ t', m'.trackers[first + i]? = some t' →
      (t'.report now).isHealthy = true) :
    fed ≠ 0 ∧ ∃ t, m.trackers[first]? = some t ∧
      ((t.report now).isHealthy = true ↔ fed % 18446744073709551616 ≠ 0) := by
  have hfed : fed ≠ 0 := by
    intro hnone
    obtain ⟨t', ht', -, hunfed⟩ := h.others 0 (Nat.pos_of_ne_zero hcount)
    have hhealthy := hall 0 (Nat.pos_of_ne_zero hcount) t' ht'
    rw [Tracker.not_healthy_of_no_update (hunfed hnone) now] at hhealthy
    exact Bool.false_ne_true hhealthy
  obtain ⟨t, ht, hthreshold, hupdates, hlast⟩ := h.one
  obtain ⟨i, hi, t', ht', hactive⟩ := hlast hfed
  obtain ⟨u, hu, hthreshold', -⟩ := h.others i hi
  obtain rfl := Option.some.inj (ht'.symm.trans hu)
  have hzero : t.updates = 0 ↔ fed % 18446744073709551616 = 0 := by
    rw [← hupdates, ← UInt64.toNat_inj]
    rfl
  refine ⟨hfed, t, ht, fun hhealthy hwrapped => ?_, fun hcounted => ?_⟩
  · rw [Tracker.not_healthy_of_no_update (hzero.2 hwrapped) now] at hhealthy
    exact Bool.false_ne_true hhealthy
  · exact Tracker.isHealthy_of_lastActivity (hthreshold'.trans hthreshold.symm) hactive
      (fun hnone => hcounted (hzero.1 hnone)) (hall i hi t' ht')

/-- A single tracker decides the verdict over it. -/
theorem evaluate_singleton {m : Monitor} {now : Duration} {k : Nat} {t : Tracker}
    (ht : m.trackers[k]? = some t) :
    (m.evaluate now [k]).1 = .healthy ↔ (t.report now).isHealthy = true := by
  have hreports : m.reports now [k] = [t.report now] := by
    rw [reports, List.filterMap_cons, ht]
    rfl
  show Verdict.ofReports (m.reports now [k]) = .healthy ↔ _
  rw [hreports, Verdict.ofReports_eq_healthy_iff]
  simp only [ne_eq, List.cons_ne_nil, not_false_iff, true_and, List.mem_singleton, forall_eq]

end Monitor

namespace Supervisor

namespace Session

/-- Only a running server answers. -/
theorem isRunning_of_response {s : Session} {request : Endpoint.Request} {reaches : Bool}
    {response : Endpoint.Response}
    (h : (s.request request reaches).answer = .response response) :
    s.state.supervisor.isRunning = true := by
  rw [← Bool.not_eq_false]
  intro hstopped
  cases hbound : s.everBound with
  | true =>
    rw [request_of_stopped hstopped hbound] at h
    cases h
  | false =>
    rw [request_of_unbound hbound] at h
    cases h

section Verdicts

variable {settings : HealthSettings} {base : Monitor} {fed : Nat} {s p : Session}

/-- A running server answers with 200 exactly if the verdict over the trackers of
its session is healthy. -/
theorem Linked.status_eq_ok_iff {first : Nat} (h : s.Linked settings first)
    (hrunning : s.state.supervisor.isRunning = true) :
    ∃ response, (s.request ⟨"GET", Endpoint.healthPath⟩ true).answer = .response response ∧
      (response.status = 200 ↔
        (s.state.monitor.evaluate s.now s.state.supervisor.trackers).1 = .healthy) :=
  ⟨_, (h.request_verdict hrunning).2, Verdict.status_eq_ok_iff _⟩

/-- If every tracker of its own is healthy, then so is the shared one, unless its
counter has come back to zero. -/
theorem Twins.healthy (h : Twins settings base fed s p) (henabled : settings.enabled = true)
    (hhealthy : (p.state.monitor.evaluate p.now p.state.supervisor.trackers).1 = .healthy) :
    fed ≠ 0 ∧ ((s.state.monitor.evaluate s.now s.state.supervisor.trackers).1 = .healthy ↔
      fed % 18446744073709551616 ≠ 0) := by
  have hnow : s.now = p.now := congrArg ManualClock.elapsed h.clock
  obtain ⟨hsome, hall⟩ := (Verdict.ofReports_eq_healthy_iff _).1 hhealthy
  rw [h.trackers' henabled] at hsome hall
  have hcount : p.state.supervisor.probes.length ≠ 0 := by
    intro hnone
    rw [hnone] at hsome
    exact hsome rfl
  obtain ⟨hfed, t, ht, hiff⟩ := h.carries.isHealthy_iff hcount fun i hi t' ht' =>
    hall _ (Monitor.report_mem (List.mem_range'_1.2 ⟨by omega, by omega⟩) ht')
  rw [h.trackers henabled, Monitor.evaluate_singleton ht, hnow]
  exact ⟨hfed, hiff⟩

end Verdicts

/-- A tracker for each probe is never laxer than a shared one. Let one run, in which
a probe comes before the first start, be performed in both bindings over the same
monitor, clock and answers of the machine. Then everything but what looks at
trackers gets the same answers, up to the trackers that probes feed; the servers
run together; and if the request for the verdict is answered with 200 where every
probe has its tracker, then it is where they share one. The one exception is a
shared counter that has come back to zero: after a multiple of 2^64 feedings the
shared tracker counts as not fed. Below that many there is none. -/
theorem perProbe_never_laxer {settings : HealthSettings} (henabled : settings.enabled = true)
    {monitor : Monitor} (hclosed : monitor.Closed) (clock : ManualClock)
    {operations : List Operation}
    (hprobed : (fresh (settings.withBinding .shared) monitor clock).ProbedFirst operations) :
    let start := fresh (settings.withBinding .shared) monitor clock
    let shared := start.run operations
    let own := (fresh (settings.withBinding .perProbe) monitor clock).run operations
    (∀ (i : Nat) operation, operations[i]? = some operation → operation.looks = false →
        ∃ answer other, shared.2[i]? = some answer ∧ own.2[i]? = some other ∧
          answer.SameAs other) ∧
      shared.1.state.supervisor.isRunning = own.1.state.supervisor.isRunning ∧
      ∀ strict, (own.1.request ⟨"GET", "/ishealthy"⟩ true).answer = .response strict →
        strict.status = 200 →
        ∃ lax, (shared.1.request ⟨"GET", "/ishealthy"⟩ true).answer = .response lax ∧
          (lax.status = 200 ↔ start.feedings operations % 18446744073709551616 ≠ 0) ∧
          (start.feedings operations < 18446744073709551616 → lax.status = 200) := by
  intro start shared own
  obtain ⟨hanswers, htwins⟩ :=
    (twins_fresh henabled monitor clock).run henabled hclosed (.inr hprobed)
  rw [Nat.zero_add] at htwins
  refine ⟨hanswers, htwins.isRunning, fun strict hstrict hok => ?_⟩
  have hrunning' : own.1.state.supervisor.isRunning = true := isRunning_of_response hstrict
  have hrunning : shared.1.state.supervisor.isRunning = true := htwins.isRunning ▸ hrunning'
  obtain ⟨strict', hstrict', hstatus'⟩ := htwins.linked'.status_eq_ok_iff hrunning'
  obtain ⟨lax, hlax, hstatus⟩ := htwins.linked.status_eq_ok_iff hrunning
  obtain rfl := Answer.response.inj (hstrict.symm.trans hstrict')
  obtain ⟨hfed, hiff⟩ := htwins.healthy henabled (hstatus'.1 hok)
  refine ⟨lax, hlax, hstatus.trans hiff, fun hfew => (hstatus.trans hiff).2 ?_⟩
  rw [Nat.mod_eq_of_lt hfew]
  exact hfed

/-- Two seconds as a threshold, in a health check that is switched on. -/
def attentive : HealthSettings :=
  { HealthSettings.default with enabled := true, idleThreshold := .ofWord 2000000000 }

/-- Two elements with a pad each, one of which already has a probe that feeds
another tracker. -/
def relay : Monitor :=
  ⟨⟨[⟨"source", [⟨"source", []⟩]⟩, ⟨"sink", [⟨"sink", [⟨⟨"sink", "sink"⟩, 0⟩]⟩]⟩]⟩,
    [Tracker.fresh Duration.zero Duration.zero]⟩

/-- Probes at both points, one of them added after a start that failed, then data
at both, at the end of the clock and behind it. -/
def relayed : List Operation :=
  [.addProbe "nowhere", .addProbe "source:source", .start (.refused "in use"), .addProbe "sink",
    .start (.bound "127.0.0.1:8080"), .set (.ofWord 18446744073709551615),
    .push "source" "source", .advance (.ofWord 2), .push "sink" "sink",
    .advance (.ofWord 1000000000)]

/-- After these operations both servers answer with 200. -/
theorem relayed_status :
    let start := fresh (attentive.withBinding .shared) relay ManualClock.origin
    let shared := start.run relayed
    let own := (fresh (attentive.withBinding .perProbe) relay ManualClock.origin).run relayed
    (own.1.request ⟨"GET", "/ishealthy"⟩ true).answer = .response ⟨200, "OK"⟩ ∧
      ∃ lax, (shared.1.request ⟨"GET", "/ishealthy"⟩ true).answer = .response lax ∧
        lax.status = 200 := by
  intro start shared own
  have hstrict : (own.1.request ⟨"GET", "/ishealthy"⟩ true).answer = .response ⟨200, "OK"⟩ := by
    decide +kernel
  obtain ⟨-, -, hlax⟩ := @perProbe_never_laxer attentive rfl relay (by decide +kernel)
    ManualClock.origin relayed (by decide +kernel)
  obtain ⟨lax, hanswer, -, hfew⟩ := hlax _ hstrict rfl
  exact ⟨hstrict, lax, hanswer, hfew (by decide +kernel)⟩

end Session

end Supervisor

end FlowWatch
