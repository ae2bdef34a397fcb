import FlowWatch.Proofs.Endpoint.Verdict
import FlowWatch.Proofs.Monitor.Ledger

/-!
# Which requests reach the verdict

The path of a request is compared as a whole, without its query, and only two
methods reach the verdict on the right path. So one answer out of four shapes is
given: the verdict, the verdict without its body, a wrong method, or a missing
path. The trackers are looked at for the first two only, and 200 takes a tracker,
and for every tracker data that is recent enough. The text of a missing path is
handed on for every method; it is the connection that leaves it out for HEAD.
-/

namespace FlowWatch

namespace Endpoint

/-- The path of a target is what stands before its query. -/
theorem pathOf_append {path query : List Char} (hslash : path.head? = some '/')
    (hplain : ∀ c ∈ path, c ≠ '?' ∧ c ≠ '#') (hquery : query = [] ∨ query.head? = some '?') :
    pathOf (String.ofList (path ++ query)) = String.ofList path := by
  have hkept : ∀ c ∈ path, (c != '?' && c != '#') = true := by
    intro c hc
    rw [Bool.and_eq_true, bne_iff_ne, bne_iff_ne]
    exact hplain c hc
  have hcut : query.takeWhile (fun c => c != '?' && c != '#') = [] := by
    rcases hquery with rfl | hmark
    · rfl
    · obtain ⟨rest, rfl⟩ := List.head?_eq_some_iff.1 hmark
      rfl
  have hpath : (path ++ query).takeWhile (fun c => c != '?' && c != '#') = path := by
    rw [List.takeWhile_append_of_pos hkept, hcut, List.append_nil]
  simp only [pathOf, String.toList_ofList, hpath, hslash, if_true]

/-- HEAD is the method that wants no body. -/
theorem isHead_iff (r : Request) : r.isHead = true ↔ r.method = "HEAD" := beq_iff_eq

section Answer

variable {m : Monitor} {now : Duration} {watched : List Nat} {r : Request}

/-- Every other path is not found, whatever the method. -/
theorem answer_of_missing (hpath : pathOf r.target ≠ healthPath) :
    answer m now watched r = ⟨m, ⟨404, "Not Found"⟩, []⟩ := by
  have hroute : r.route = .notFound := if_neg hpath
  rw [answer, hroute]

/-- Every other method is wrong on the right path. -/
theorem answer_of_wrongMethod (hpath : pathOf r.target = healthPath) (hget : r.method ≠ "GET")
    (hhead : r.method ≠ "HEAD") : answer m now watched r = ⟨m, ⟨405, ""⟩, []⟩ := by
  have hroute : r.route = .wrongMethod := by
    rw [Request.route, if_pos hpath, if_neg]
    simp [hget, Request.isHead, hhead]
  rw [answer, hroute]

/-- GET and HEAD reach the verdict on the right path. -/
theorem answer_of_verdict (hpath : pathOf r.target = healthPath)
    (hmethod : r.method = "GET" ∨ r.method = "HEAD") :
    answer m now watched r =
      ⟨m.recordAll now watched,
        r.bodiless ⟨(m.evaluate now watched).1.status, (m.evaluate now watched).1.body⟩,
        (m.evaluate now watched).1.events⟩ := by
  have hroute : r.route = .verdict := by
    rw [Request.route, if_pos hpath, if_pos]
    rcases hmethod with h | h <;> simp [Request.isHead, h]
  rw [answer, hroute]
  rfl

/-- The answer to GET has the body of the verdict. -/
theorem response_of_get (hpath : pathOf r.target = healthPath) (hget : r.method = "GET") :
    (answer m now watched r).response =
      ⟨(m.evaluate now watched).1.status, (m.evaluate now watched).1.body⟩ := by
  have hbody : r.isHead = false := by rw [Request.isHead, hget]; decide
  rw [answer_of_verdict hpath (.inl hget), Request.bodiless, hbody]
  rfl

/-- The answer to HEAD has the status of the verdict and no body. -/
theorem response_of_head (hpath : pathOf r.target = healthPath) (hhead : r.method = "HEAD") :
    (answer m now watched r).response = ⟨(m.evaluate now watched).1.status, ""⟩ := by
  rw [answer_of_verdict hpath (.inr hhead), Request.bodiless, (isHead_iff r).2 hhead]
  rfl

/-- A request is answered with 200 exactly if it reaches a healthy verdict. -/
theorem status_eq_ok_iff : (answer m now watched r).response.status = 200 ↔
    (r.method = "GET" ∨ r.method = "HEAD") ∧ pathOf r.target = healthPath ∧
      (m.evaluate now watched).1 = .healthy := by
  by_cases hpath : pathOf r.target = healthPath
  · by_cases hmethod : r.method = "GET" ∨ r.method = "HEAD"
    · rw [answer_of_verdict hpath hmethod, bodiless_status, Verdict.status_eq_ok_iff]
      exact ⟨fun h => ⟨hmethod, hpath, h⟩, fun h => h.2.2⟩
    · obtain ⟨hget, hhead⟩ := not_or.1 hmethod
      rw [answer_of_wrongMethod hpath hget hhead]
      exact ⟨fun h => absurd h (by decide : (405 : Nat) ≠ 200), fun h => absurd h.1 hmethod⟩
  · rw [answer_of_missing hpath]
    exact ⟨fun h => absurd h (by decide : (404 : Nat) ≠ 200), fun h => absurd h.2.1 hpath⟩

/-- A request that is answered with 404 or 405 leaves everything as it was. -/
theorem answer_monitor_of_status
    (h : (answer m now watched r).response.status = 404 ∨
      (answer m now watched r).response.status = 405) :
    (answer m now watched r).monitor = m := by
  apply answer_monitor_of_route_ne
  intro hroute
  have hstatus : (answer m now watched r).response.status =
      (m.evaluate now watched).1.status := by
    rw [answer, hroute]
    exact bodiless_status r _
  rw [hstatus] at h
  generalize (m.evaluate now watched).1 = verdict at h
  cases verdict <;> simp [Verdict.status] at h

end Answer

end Endpoint

namespace Monitor

/-- The verdict is healthy exactly over some trackers that are all idle for less
than their thresholds. -/
theorem evaluate_eq_healthy_iff {m : Monitor} {now : Duration} {watched : List Nat} :
    (m.evaluate now watched).1 = .healthy ↔
      (∃ k ∈ watched, k < m.trackers.length) ∧
        ∀ k ∈ watched, ∀ t, m.trackers[k]? = some t → t.idle now < t.threshold := by
  show Verdict.ofReports (m.reports now watched) = .healthy ↔ _
  rw [Verdict.ofReports_eq_healthy_iff]
  apply and_congr
  · constructor
    · intro hsome
      obtain ⟨report, hreport⟩ := List.exists_mem_of_ne_nil _ hsome
      obtain ⟨k, hk, t, ht, -⟩ := mem_reports_iff.1 hreport
      exact ⟨k, hk, (List.getElem?_eq_some_iff.1 ht).1⟩
    · rintro ⟨k, hk, hstored⟩
      exact List.ne_nil_of_mem (report_mem hk (List.getElem?_eq_getElem hstored))
  · constructor
    · intro hall k hk t ht
      exact of_decide_eq_true (hall _ (report_mem hk ht))
    · intro hall report hreport
      obtain ⟨k, hk, t, ht, rfl⟩ := mem_reports_iff.1 hreport
      exact decide_eq_true (hall k hk t ht)

namespace Session

/-- A tracker that is idle for less than its threshold was updated before. -/
theorem Accounted.updated_of_idle_lt {s : Session} {history : List Occurrence}
    (h : s.Accounted history) {k : Nat} {t : Tracker}
    (ht : s.monitor.trackers[k]? = some t) {now : Duration} (hidle : t.idle now < t.threshold) :
    0 < direct k history + delivered k history := by
  apply Nat.pos_of_ne_zero
  intro hnone
  have hcounted := h.counted k t ht
  rw [hnone] at hcounted
  have hupdates : t.updates = 0 := UInt64.toNat_inj.1 hcounted
  exact absurd hidle (Nat.not_lt.2 (Tracker.threshold_le_idle hupdates now))

/-- The verdict of a session that agrees with its history is healthy exactly over
some trackers that were all updated and are all idle for less than their
thresholds. -/
theorem Accounted.evaluate_eq_healthy_iff {s : Session} {history : List Occurrence}
    (h : s.Accounted history) {watched : List Nat} :
    (s.monitor.evaluate s.now watched).1 = .healthy ↔
      (∃ k ∈ watched, k < s.monitor.trackers.length) ∧
        ∀ k ∈ watched, ∀ t, s.monitor.trackers[k]? = some t →
          0 < direct k history + delivered k history ∧ t.idle s.now < t.threshold := by
  rw [Monitor.evaluate_eq_healthy_iff]
  apply and_congr_right
  intro _
  constructor
  · exact fun hall k hk t ht => ⟨h.updated_of_idle_lt ht (hall k hk t ht), hall k hk t ht⟩
  · exact fun hall k hk t ht => (hall k hk t ht).2

open Endpoint

/-- After every run, over any trackers and for every request. The path of a target
is what stands before its query. The answer is 200 exactly for GET and HEAD on the
path of the verdict, over some trackers that were all updated and whose idle times
are all strictly below their own thresholds, and then it says so, without a body
for HEAD. Otherwise GET on this path is answered with 500 and the text of the
verdict. HEAD has the status of GET and no body. Every other method on this path
is answered with 405, and every method on every other path with 404 and its text,
which a connection leaves out for HEAD. A request that is answered with 404 or 405
leaves all trackers as they were. -/
theorem routed_answers (operations : List Operation) (watched : List Nat) (r : Request) :
    let s := (empty.run operations).1
    let history := empty.historyAfter [] operations
    let answered := answer s.monitor s.now watched r
    (∀ path query : List Char, path.head? = some '/' → (∀ c ∈ path, c ≠ '?' ∧ c ≠ '#') →
        (query = [] ∨ query.head? = some '?') →
          pathOf (String.ofList (path ++ query)) = String.ofList path) ∧
      (answered.response.status = 200 ↔
        (r.method = "GET" ∨ r.method = "HEAD") ∧ pathOf r.target = "/ishealthy" ∧
          (∃ k ∈ watched, k < s.monitor.trackers.length) ∧
            ∀ k ∈ watched, ∀ t, s.monitor.trackers[k]? = some t →
              0 < direct k history + delivered k history ∧ t.idle s.now < t.threshold) ∧
      (pathOf r.target = "/ishealthy" → r.method = "GET" →
        answered.response = ⟨200, "OK"⟩ ∨
          answered.response = ⟨500, (s.monitor.evaluate s.now watched).1.body⟩) ∧
      (pathOf r.target = "/ishealthy" → r.method = "HEAD" →
        answered.response =
          ⟨(answer s.monitor s.now watched ⟨"GET", r.target⟩).response.status, ""⟩) ∧
      (pathOf r.target = "/ishealthy" → r.method ≠ "GET" → r.method ≠ "HEAD" →
        answered.response.status = 405) ∧
      (pathOf r.target ≠ "/ishealthy" →
        answered.response = ⟨404, "Not Found"⟩ ∧
          r.bodiless answered.response =
            ⟨404, if r.method = "HEAD" then "" else "Not Found"⟩) ∧
      (answered.response.status = 404 ∨ answered.response.status = 405 →
        answered.monitor = s.monitor) := by
  intro s history answered
  have h : s.Accounted history := accounted_empty.run operations
  refine ⟨fun _ _ => pathOf_append, ?_, fun hpath hget => ?_, fun hpath hhead => ?_,
    fun hpath hget hhead => ?_, fun hpath => ?_, answer_monitor_of_status⟩
  · rw [status_eq_ok_iff, h.evaluate_eq_healthy_iff]
    rfl
  · have hresponse : answered.response =
        ⟨(s.monitor.evaluate s.now watched).1.status,
          (s.monitor.evaluate s.now watched).1.body⟩ := response_of_get hpath hget
    rw [hresponse]
    cases (s.monitor.evaluate s.now watched).1 with
    | healthy => exact .inl rfl
    | idle longest => exact .inr rfl
    | noTrackers => exact .inr rfl
  · rw [response_of_get (r := ⟨"GET", r.target⟩) hpath rfl]
    exact response_of_head hpath hhead
  · exact congrArg (·.response.status) (answer_of_wrongMethod hpath hget hhead)
  · have hresponse : answered.response = ⟨404, "Not Found"⟩ :=
      congrArg (·.response) (answer_of_missing hpath)
    refine ⟨hresponse, ?_⟩
    rw [hresponse, Request.bodiless]
    simp only [isHead_iff]
    split <;> rfl

/-- Data passes a probe, and three seconds later it is less than five seconds
ago. -/
def attended : List Operation :=
  [.addElement "src" ["src"], .addTracker (.ofWord 5000000000), .register "src:src" 0,
    .push "src" "src", .set (.ofWord 3000000000)]

/-- HEAD with a query is answered like GET, the path with a slash behind it is
missing, and a wrong method does not even put an idle time on record. -/
theorem attended_answers :
    let s := (empty.run attended).1
    pathOf "/ishealthy?verbose" = "/ishealthy" ∧
      (answer s.monitor s.now [0] ⟨"GET", "/ishealthy"⟩).response = ⟨200, "OK"⟩ ∧
      (answer s.monitor s.now [0] ⟨"HEAD", "/ishealthy?verbose"⟩).response = ⟨200, ""⟩ ∧
      (answer s.monitor s.now [0] ⟨"GET", "/ishealthy/"⟩).response = ⟨404, "Not Found"⟩ ∧
      (answer s.monitor s.now [0] ⟨"POST", "/ishealthy"⟩).response.status = 405 ∧
      (answer s.monitor s.now [0] ⟨"POST", "/ishealthy"⟩).monitor = s.monitor := by
  intro s
  have hok : (answer s.monitor s.now [0] ⟨"GET", "/ishealthy"⟩).response = ⟨200, "OK"⟩ := by
    decide +kernel
  have hmark : '?' ∉ "/ishealthy".toList := by decide
  have hfragment : '#' ∉ "/ishealthy".toList := by decide
  have hpath : pathOf "/ishealthy?verbose" = "/ishealthy" :=
    (routed_answers attended [0] ⟨"GET", "/ishealthy"⟩).1 "/ishealthy".toList "?verbose".toList
      (by decide) (fun c hc => ⟨fun h => hmark (h ▸ hc), fun h => hfragment (h ▸ hc)⟩)
      (.inr (by decide))
  have hplain : pathOf "/ishealthy" = "/ishealthy" := by decide +kernel
  have hhead := (routed_answers attended [0] ⟨"HEAD", "/ishealthy?verbose"⟩).2.2.2.1 hpath rfl
  have hother := (routed_answers attended [0] ⟨"GET", "/ishealthy/"⟩).2.2.2.2.2.1
    (by decide +kernel)
  obtain ⟨-, -, -, -, hwrong, -, hkept⟩ := routed_answers attended [0] ⟨"POST", "/ishealthy"⟩
  have hstatus := hwrong hplain (by decide) (by decide)
  refine ⟨hpath, hok, hhead.trans ?_, hother.1, hstatus, hkept (.inr hstatus)⟩
  decide +kernel

/-- The router does not leave out the text of a missing path for HEAD, of which it
leaves out only the verdict. -/
theorem missing_path_not_bodiless :
    ¬∀ (operations : List Operation) (watched : List Nat) (r : Request),
      pathOf r.target ≠ "/ishealthy" →
        (answer (empty.run operations).1.monitor (empty.run operations).1.now watched r).response =
          ⟨404, if r.method = "HEAD" then "" else "Not Found"⟩ := by
  intro h
  have hhead := h [] [] ⟨"HEAD", "/x"⟩ (by decide +kernel)
  exact absurd hhead (by decide +kernel)

end Session

end Monitor

end FlowWatch
