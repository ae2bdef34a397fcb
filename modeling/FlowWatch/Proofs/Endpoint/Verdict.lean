import FlowWatch.Endpoint.Router

/-!
# What a verdict says about the trackers

A verdict is read off the reports as a whole: healthy says that all of them are,
and idle names the longest idle time of those that are not. Neither depends on
the order of the trackers. The three verdicts have three different texts.
-/

namespace FlowWatch

open Tracker (Report)

namespace Verdict

/-- The greater of an idle time and those of some reports is one of them. -/
theorem foldl_idle_mem (start : Duration) (reports : List Report) :
    reports.foldl (fun longest report => max longest report.idle) start ∈
      start :: reports.map (·.idle) := by
  induction reports generalizing start with
  | nil => exact List.mem_singleton_self start
  | cons report rest ih =>
    have hmax : max start report.idle = start ∨ max start report.idle = report.idle := by
      show (if start ≤ report.idle then _ else _) = _ ∨ (if start ≤ report.idle then _ else _) = _
      split
      · exact .inr rfl
      · exact .inl rfl
    rw [List.foldl_cons, List.map_cons]
    rcases List.mem_cons.1 (ih (max start report.idle)) with heq | hmem
    · rw [heq]
      rcases hmax with h | h <;> rw [h]
      · exact List.mem_cons_self
      · exact List.mem_cons_of_mem _ List.mem_cons_self
    · exact List.mem_cons_of_mem _ (List.mem_cons_of_mem _ hmem)

/-- The greatest idle time is at least every one it is taken over. -/
theorem le_foldl_idle (start : Duration) (reports : List Report) {d : Duration}
    (hd : d ∈ start :: reports.map (·.idle)) :
    d ≤ reports.foldl (fun longest report => max longest report.idle) start := by
  induction reports generalizing start d with
  | nil =>
    rw [List.mem_singleton.1 hd]
    exact Nat.le_refl _
  | cons report rest ih =>
    have hmax := Duration.nanos_max start report.idle
    have hfirst := ih (max start report.idle) List.mem_cons_self
    rw [List.foldl_cons]
    rw [List.map_cons] at hd
    rcases List.mem_cons.1 hd with rfl | hd
    · exact Nat.le_trans (by omega) hfirst
    · rcases List.mem_cons.1 hd with rfl | hd
      · exact Nat.le_trans (by omega) hfirst
      · exact ih _ (List.mem_cons_of_mem _ hd)

/-- The verdict is healthy exactly on some reports that are all healthy. -/
theorem ofReports_eq_healthy_iff (reports : List Report) :
    ofReports reports = .healthy ↔ reports ≠ [] ∧ ∀ report ∈ reports, report.isHealthy = true := by
  unfold ofReports
  cases reports with
  | nil => simp
  | cons first rest =>
    rw [List.isEmpty_cons, if_neg Bool.false_ne_true]
    cases hstale : (first :: rest).filter fun report => !report.isHealthy with
    | nil =>
      refine ⟨fun _ => ⟨List.cons_ne_nil _ _, fun report hreport => ?_⟩, fun _ => rfl⟩
      have hnot := List.filter_eq_nil_iff.1 hstale report hreport
      simpa using hnot
    | cons stale more =>
      refine ⟨fun h => by simp at h, fun ⟨_, hall⟩ => ?_⟩
      have hmem : stale ∈ (first :: rest).filter fun report => !report.isHealthy := by
        rw [hstale]
        exact List.mem_cons_self
      obtain ⟨hin, hunhealthy⟩ := List.mem_filter.1 hmem
      rw [hall stale hin] at hunhealthy
      exact absurd hunhealthy (by decide)

/-- The verdict is idle with an idle time exactly if it is the longest of those
of the reports that are not healthy. -/
theorem ofReports_eq_idle_iff (reports : List Report) (longest : Duration) :
    ofReports reports = .idle longest ↔
      (∃ report ∈ reports, report.isHealthy = false ∧ report.idle = longest) ∧
        ∀ report ∈ reports, report.isHealthy = false → report.idle ≤ longest := by
  have hstale : ∀ report, report ∈ reports.filter (fun report => !report.isHealthy) ↔
      report ∈ reports ∧ report.isHealthy = false := by
    intro report
    rw [List.mem_filter, Bool.not_eq_true']
  unfold ofReports
  cases hempty : reports.isEmpty with
  | true =>
    rw [List.isEmpty_iff.1 hempty]
    simp
  | false =>
    rw [if_neg Bool.false_ne_true]
    cases hfilter : reports.filter fun report => !report.isHealthy with
    | nil =>
      rw [hfilter] at hstale
      refine ⟨fun h => by simp at h, fun ⟨⟨report, hin, hnot, _⟩, _⟩ => ?_⟩
      exact absurd ((hstale report).2 ⟨hin, hnot⟩) List.not_mem_nil
    | cons first rest =>
      rw [hfilter] at hstale
      have hmem := foldl_idle_mem first.idle rest
      have hle := fun d => le_foldl_idle first.idle rest (d := d)
      rw [← List.map_cons (f := Report.idle), List.mem_map] at hmem
      simp only [← List.map_cons (f := Report.idle)] at hle
      constructor
      · intro h
        obtain rfl := Verdict.idle.inj h
        obtain ⟨report, hreport, heq⟩ := hmem
        obtain ⟨hin, hnot⟩ := (hstale report).1 hreport
        exact ⟨⟨report, hin, hnot, heq⟩, fun other hother hunhealthy =>
          hle _ (List.mem_map_of_mem ((hstale other).2 ⟨hother, hunhealthy⟩))⟩
      · rintro ⟨⟨report, hin, hnot, rfl⟩, hgreatest⟩
        obtain ⟨other, hother, heq⟩ := hmem
        obtain ⟨hotherIn, hotherNot⟩ := (hstale other).1 hother
        have hup : report.idle ≤ _ :=
          hle _ (List.mem_map_of_mem ((hstale report).2 ⟨hin, hnot⟩))
        have hdown := hgreatest other hotherIn hotherNot
        rw [heq] at hdown
        exact congrArg Verdict.idle (Duration.ext (Nat.le_antisymm hdown hup))

/-- The status 200 is that of the healthy verdict alone. -/
theorem status_eq_ok_iff (verdict : Verdict) : verdict.status = 200 ↔ verdict = .healthy := by
  cases verdict <;> simp [status]

/-- The text of an idle verdict is not that of a healthy one or of none: it
starts with another letter. -/
theorem body_idle_head (longest : Duration) :
    (Verdict.idle longest).body.toList.head? = some 'P' := by
  show (s!"Pipeline has been idle for {longest.seconds} seconds").toList.head? = some 'P'
  simp [toString]

/-- The text without trackers is that of no other verdict. -/
theorem body_ne_noTrackers {verdict : Verdict} (h : verdict ≠ .noTrackers) :
    verdict.body ≠ Verdict.noTrackers.body := by
  cases verdict with
  | healthy => decide +kernel
  | idle longest =>
    intro hsame
    have hhead := body_idle_head longest
    rw [hsame] at hhead
    exact absurd hhead (by decide +kernel)
  | noTrackers => exact absurd rfl h

end Verdict

namespace Monitor

/-- Trackers that exist give a verdict. -/
theorem evaluate_ne_noTrackers {m : Monitor} {now : Duration} {watched : List Nat} {k : Nat}
    (hk : k ∈ watched) (hstored : k < m.trackers.length) :
    (m.evaluate now watched).1 ≠ .noTrackers := by
  intro hnone
  have hempty := (Verdict.ofReports_eq_noTrackers_iff _).1 hnone
  simp only [reports, List.map_eq_nil_iff, List.filterMap_eq_nil_iff] at hempty
  have hmissing := hempty k hk
  rw [List.getElem?_eq_getElem hstored] at hmissing
  simp at hmissing

/-- The report of a tracker that is looked at is among the reports. -/
theorem report_mem {m : Monitor} {now : Duration} {watched : List Nat} {k : Nat} {t : Tracker}
    (hk : k ∈ watched) (ht : m.trackers[k]? = some t) : t.report now ∈ m.reports now watched :=
  List.mem_map_of_mem (List.mem_filterMap.2 ⟨k, hk, ht⟩)

/-- The reports are those of the trackers that are looked at. -/
theorem mem_reports_iff {m : Monitor} {now : Duration} {watched : List Nat} {report : Report} :
    report ∈ m.reports now watched ↔
      ∃ k ∈ watched, ∃ t, m.trackers[k]? = some t ∧ t.report now = report := by
  constructor
  · intro hreport
    obtain ⟨t, hmem, hreport⟩ := List.mem_map.1 hreport
    obtain ⟨k, hk, ht⟩ := List.mem_filterMap.1 hmem
    exact ⟨k, hk, t, ht, hreport⟩
  · rintro ⟨k, hk, t, ht, rfl⟩
    exact report_mem hk ht

end Monitor

namespace Endpoint

/-- Leaving the body out keeps the status. -/
theorem bodiless_status (r : Request) (answer : Response) :
    (r.bodiless answer).status = answer.status := by
  unfold Request.bodiless
  split <;> rfl

/-- Over trackers that give a verdict, no answer says that there are none. -/
theorem answer_body_ne_noTrackers {m : Monitor} {now : Duration} {watched : List Nat}
    (h : (m.evaluate now watched).1 ≠ .noTrackers) (r : Request) :
    (r.bodiless (answer m now watched r).response).body ≠ Verdict.noTrackers.body := by
  have hempty : "" ≠ Verdict.noTrackers.body := by decide +kernel
  unfold Request.bodiless
  split
  · exact hempty
  · rename_i hhead
    unfold answer
    split
    · simp only [Request.bodiless, hhead, Bool.false_eq_true, if_false]
      exact Verdict.body_ne_noTrackers h
    · exact hempty
    · show "Not Found" ≠ Verdict.noTrackers.body
      decide +kernel

/-- The request for the verdict gets its status and its text, and the trackers
are looked at. -/
theorem answer_get (m : Monitor) (now : Duration) (watched : List Nat) :
    answer m now watched ⟨"GET", healthPath⟩ =
      ⟨m.recordAll now watched,
        ⟨(m.evaluate now watched).1.status, (m.evaluate now watched).1.body⟩,
        (m.evaluate now watched).1.events⟩ := by
  have hroute : (Request.mk "GET" healthPath).route = .verdict := by decide +kernel
  have hbody : (Request.mk "GET" healthPath).isHead = false := by decide +kernel
  simp only [answer, hroute, Request.bodiless, hbody]
  rfl

end Endpoint

end FlowWatch
