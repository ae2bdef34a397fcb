import FlowWatch.Proofs.Endpoint.Routing
import FlowWatch.Proofs.Endpoint.Staleness
import FlowWatch.Proofs.Monitor.Feeding
import Mathlib.Order.Bounds.Defs

/-!
# The stalest tracker

A verdict depends on which reports there are and not on their order or number. It is idle
for the longest idle time of the stale trackers, so more trackers can only make it worse,
and a healthy tracker bears on it only through its threshold: where all thresholds are
the same, no healthy tracker has been idle for longer than the stalest one. A look
leaves its idle time in every tracker, also behind the first stale one, and changes
nothing else.
-/

namespace FlowWatch

open Tracker (Report)

/-- Verdicts over the same reports are the same, in whatever order and however often they
come. -/
theorem Verdict.ofReports_congr {reports others : List Report}
    (h : ∀ report, report ∈ others ↔ report ∈ reports) : ofReports others = ofReports reports := by
  cases hverdict : ofReports reports with
  | noTrackers =>
    rw [ofReports_eq_noTrackers_iff] at hverdict ⊢
    subst hverdict
    exact List.eq_nil_iff_forall_not_mem.2 fun report hin => List.not_mem_nil ((h report).1 hin)
  | healthy =>
    rw [ofReports_eq_healthy_iff] at hverdict ⊢
    obtain ⟨hsome, hall⟩ := hverdict
    obtain ⟨report, hreport⟩ := List.exists_mem_of_ne_nil _ hsome
    exact ⟨List.ne_nil_of_mem ((h report).2 hreport),
      fun other hother => hall other ((h other).1 hother)⟩
  | idle longest =>
    rw [ofReports_eq_idle_iff] at hverdict ⊢
    simpa only [h] using hverdict

namespace Monitor

section Times

variable {m : Monitor} {now : Duration} {watched : List Nat}

/-- The idle times of some trackers, by their numbers. -/
def idleTimes (m : Monitor) (now : Duration) (watched : List Nat) : Set Duration :=
  {d | ∃ k ∈ watched, ∃ t, m.trackers[k]? = some t ∧ t.idle now = d}

/-- The idle times of those trackers that are not healthy. -/
def staleTimes (m : Monitor) (now : Duration) (watched : List Nat) : Set Duration :=
  {d | ∃ k ∈ watched, ∃ t, m.trackers[k]? = some t ∧ (t.report now).isHealthy = false ∧
    t.idle now = d}

/-- The verdict is idle for the longest idle time of the trackers that are not healthy. -/
theorem evaluate_eq_idle_iff {longest : Duration} :
    (m.evaluate now watched).1 = .idle longest ↔ IsGreatest (m.staleTimes now watched) longest := by
  have hstale : ∀ d, d ∈ m.staleTimes now watched ↔
      ∃ report ∈ m.reports now watched, report.isHealthy = false ∧ report.idle = d := by
    intro d
    simp only [mem_reports_iff]
    constructor
    · rintro ⟨k, hk, t, ht, hunhealthy, hidle⟩
      exact ⟨_, ⟨k, hk, t, ht, rfl⟩, hunhealthy, hidle⟩
    · rintro ⟨_, ⟨k, hk, t, ht, rfl⟩, hunhealthy, hidle⟩
      exact ⟨k, hk, t, ht, hunhealthy, hidle⟩
  refine (Verdict.ofReports_eq_idle_iff _ _).trans (and_congr (hstale longest).symm ?_)
  constructor
  · intro hall d hd
    obtain ⟨report, hreport, hunhealthy, rfl⟩ := (hstale d).1 hd
    exact hall report hreport hunhealthy
  · intro hall report hreport hunhealthy
    exact hall ((hstale _).2 ⟨report, hreport, hunhealthy, rfl⟩)

/-- Trackers with one threshold are not idle for longer than the stalest of them. -/
theorem isGreatest_idleTimes {limit longest : Duration}
    (hsame : ∀ k ∈ watched, ∀ t, m.trackers[k]? = some t → t.threshold = limit)
    (h : IsGreatest (m.staleTimes now watched) longest) :
    IsGreatest (m.idleTimes now watched) longest := by
  obtain ⟨⟨k, hk, t, ht, hunhealthy, hidle⟩, hall⟩ := h
  have hlimit : limit ≤ longest := by
    have hnot : ¬t.idle now < t.threshold := of_decide_eq_false hunhealthy
    rw [hidle, hsame k hk t ht] at hnot
    exact Nat.not_lt.1 hnot
  refine ⟨⟨k, hk, t, ht, hidle⟩, ?_⟩
  rintro d ⟨j, hj, u, hu, rfl⟩
  cases hreport : (u.report now).isHealthy with
  | false => exact hall ⟨j, hj, u, hu, hreport, rfl⟩
  | true =>
    have hbelow : u.idle now < u.threshold := of_decide_eq_true hreport
    rw [hsame j hj u hu] at hbelow
    exact Nat.le_trans (Nat.le_of_lt hbelow) hlimit

end Times

/-- The word that an idle time is recorded in holds it up to its greatest value. -/
theorem toNat_toWord (d : Duration) : d.toWord.toNat = min d.nanos 18446744073709551615 := by
  simp only [Duration.toWord, UInt64.toNat_ofNat']
  omega

/-- For trackers in any states with any thresholds, at any reading of the clock. There
are no trackers to speak of exactly if none is looked at. The verdict is healthy exactly
if there are some and each of them is. Otherwise it is idle for the longest idle time of
those that are not healthy. Only the trackers in the list count, not their order or how
often each of them occurs. With more trackers an idle verdict stays idle, for no shorter
time. If all thresholds are the same, the time is the longest of all the trackers. The
look leaves in each tracker of the list, healthy or not, its idle time up to the greatest
word, and changes nothing else of it and no other tracker. -/
theorem verdict_of_trackers (m : Monitor) (now : Duration) {watched : List Nat}
    (hstored : ∀ k ∈ watched, k < m.trackers.length) :
    let verdict := (m.evaluate now watched).1
    let after := (m.evaluate now watched).2
    (verdict = .noTrackers ↔ watched = []) ∧
      (verdict = .healthy ↔ watched ≠ [] ∧
        ∀ k ∈ watched, ∀ t, m.trackers[k]? = some t → (t.report now).isHealthy = true) ∧
      (∀ longest, verdict = .idle longest ↔ IsGreatest (m.staleTimes now watched) longest) ∧
      (∀ others, (∀ k, k ∈ others ↔ k ∈ watched) → (m.evaluate now others).1 = verdict) ∧
      (∀ more, watched ⊆ more → ∀ longest, verdict = .idle longest →
        ∃ longer, (m.evaluate now more).1 = .idle longer ∧ longest ≤ longer) ∧
      (∀ limit, (∀ k ∈ watched, ∀ t, m.trackers[k]? = some t → t.threshold = limit) →
        ∀ longest, verdict = .idle longest → IsGreatest (m.idleTimes now watched) longest) ∧
      ∀ k t, m.trackers[k]? = some t → ∃ word : UInt64,
        (k ∈ watched → word.toNat = min (t.idle now).nanos 18446744073709551615) ∧
          after.trackers[k]? = some (if k ∈ watched then { t with lastIdle := word } else t) := by
  intro verdict after
  refine ⟨?_, ?_, fun longest => evaluate_eq_idle_iff, fun others hsame => ?_,
    fun more hsub longest hidle => ?_, fun limit hsame longest hidle => ?_, fun k t ht => ?_⟩
  · constructor
    · intro hnone
      apply List.eq_nil_iff_forall_not_mem.2
      exact fun k hk => evaluate_ne_noTrackers hk (hstored k hk) hnone
    · rintro rfl
      rfl
  · refine evaluate_eq_healthy_iff.trans (and_congr ⟨?_, fun hsome => ?_⟩ ?_)
    · rintro ⟨k, hk, -⟩
      exact List.ne_nil_of_mem hk
    · obtain ⟨k, hk⟩ := List.exists_mem_of_ne_nil _ hsome
      exact ⟨k, hk, hstored k hk⟩
    · constructor
      · exact fun hall k hk t ht => decide_eq_true (hall k hk t ht)
      · exact fun hall k hk t ht => of_decide_eq_true (hall k hk t ht)
  · apply Verdict.ofReports_congr
    intro report
    simp only [mem_reports_iff, hsame]
  · obtain ⟨k, hk, t, ht, hstale, rfl⟩ := exists_stale_of_evaluate hidle
    exact evaluate_of_stale (hsub hk) ht hstale
  · exact isGreatest_idleTimes hsame (evaluate_eq_idle_iff.1 hidle)
  · refine ⟨(t.idle now).toWord, fun _ => toNat_toWord _, ?_⟩
    have hafter : after.trackers[k]? = _ := recordAll_getElem? m now watched k
    rw [hafter, ht]
    rfl

/-- Three trackers, the first with a longer threshold than the others, at five seconds
of the clock: their idle times are five, three and one. -/
def assorted : Session :=
  (Session.empty.run [.addTracker (.ofWord 9000000000), .addTracker (.ofWord 2000000000),
    .addTracker (.ofWord 2000000000), .update 0, .advance (.ofWord 2000000000), .update 1,
    .advance (.ofWord 2000000000), .update 2, .advance (.ofWord 1000000000)]).1

/-- The two trackers with one threshold make the verdict idle for three seconds, however
they are listed, and the first, which is healthy after five, leaves it at no less. The
healthy one of the two has its second recorded. -/
theorem assorted_verdict :
    (assorted.monitor.evaluate assorted.now [1, 2]).1 = .idle (.ofWord 3000000000) ∧
      (assorted.monitor.evaluate assorted.now [2, 1, 2]).1 =
        (assorted.monitor.evaluate assorted.now [1, 2]).1 ∧
      (∃ longer, (assorted.monitor.evaluate assorted.now [0, 1, 2]).1 = .idle longer ∧
        .ofWord 3000000000 ≤ longer) ∧
      IsGreatest (assorted.monitor.idleTimes assorted.now [1, 2]) (.ofWord 3000000000) ∧
      ∃ t word, assorted.monitor.trackers[2]? = some t ∧ word.toNat = 1000000000 ∧
        (assorted.monitor.evaluate assorted.now [1, 2]).2.trackers[2]? =
          some { t with lastIdle := word } := by
  have hstored : ∀ k ∈ [1, 2], k < assorted.monitor.trackers.length := by decide +kernel
  have hidle : (assorted.monitor.evaluate assorted.now [1, 2]).1 =
      .idle (.ofWord 3000000000) := by decide +kernel
  have hthresholds : ∀ k ∈ [1, 2], (assorted.monitor.trackers[k]?).map Tracker.threshold =
      some (.ofWord 2000000000) := by decide +kernel
  have hsame : ∀ k ∈ [1, 2], ∀ t, assorted.monitor.trackers[k]? = some t →
      t.threshold = .ofWord 2000000000 := by
    intro k hk t ht
    have hthreshold := hthresholds k hk
    rw [ht] at hthreshold
    exact Option.some.inj hthreshold
  obtain ⟨-, -, -, horder, hmore, hlimit, hrecorded⟩ :=
    verdict_of_trackers assorted.monitor assorted.now hstored
  have hhealthy : ∃ t, assorted.monitor.trackers[2]? = some t ∧
      (t.idle assorted.now).nanos = 1000000000 :=
    ⟨assorted.monitor.trackers[2], by decide +kernel, by decide +kernel⟩
  obtain ⟨t, ht, hsecond⟩ := hhealthy
  obtain ⟨word, hword, hafter⟩ := hrecorded 2 t ht
  refine ⟨hidle, horder [2, 1, 2] (fun k => ?_), hmore [0, 1, 2] ?_ _ hidle,
    hlimit _ hsame _ hidle, t, word, ht, ?_, hafter⟩
  · simp only [List.mem_cons, List.not_mem_nil, or_false]
    omega
  · exact List.subset_cons_self 0 [1, 2]
  · rw [hword (by decide), hsecond]
    rfl

end Monitor

end FlowWatch
