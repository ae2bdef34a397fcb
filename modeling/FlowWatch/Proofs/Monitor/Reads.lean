import FlowWatch.Proofs.Monitor.Moves

/-!
# Reads leave no trace

A read may write down the idle times that it found, and nothing ever looks at
them. So two sessions that agree in all but these idle times answer every
operation alike and go on agreeing, and a read leads from a session to one that
agrees with it. By induction reads can be put into a run and left out of it
anywhere: no other operation notices.
-/

namespace FlowWatch

namespace Monitor

/-- Two monitors agree in all but the idle times on record. -/
structure Alike (m m' : Monitor) : Prop where
  /-- The topologies are the same. -/
  topology : m.topology = m'.topology
  /-- The trackers are the same but for the idle times on record. -/
  trackers : m.trackers.map Tracker.unread = m'.trackers.map Tracker.unread

section Agreement

variable {m m' : Monitor}

/-- Agreement is reflexive. -/
theorem Alike.refl (m : Monitor) : m.Alike m := ⟨rfl, rfl⟩

/-- Agreement is symmetric. -/
theorem Alike.symm (h : m.Alike m') : m'.Alike m := ⟨h.topology.symm, h.trackers.symm⟩

/-- Agreement is transitive. -/
theorem Alike.trans {m'' : Monitor} (h : m.Alike m') (h' : m'.Alike m'') : m.Alike m'' :=
  ⟨h.topology.trans h'.topology, h.trackers.trans h'.trackers⟩

/-- Agreement is checked one tracker at a time. -/
theorem Alike.of_getElem? (htopology : m.topology = m'.topology)
    (htrackers : ∀ k : Nat,
      m.trackers[k]?.map Tracker.unread = m'.trackers[k]?.map Tracker.unread) : m.Alike m' := by
  refine ⟨htopology, List.ext_getElem? fun k => ?_⟩
  rw [List.getElem?_map, List.getElem?_map]
  exact htrackers k

/-- Monitors that agree do so in each tracker. -/
theorem Alike.getElem? (h : m.Alike m') (k : Nat) :
    m.trackers[k]?.map Tracker.unread = m'.trackers[k]?.map Tracker.unread := by
  have hsame := congrArg (·[k]?) h.trackers
  simpa only [List.getElem?_map] using hsame

/-- Monitors that agree have the same number of trackers. -/
theorem Alike.length (h : m.Alike m') : m.trackers.length = m'.trackers.length := by
  have hsame := congrArg List.length h.trackers
  simpa only [List.length_map] using hsame

/-- What does not depend on the idle time on record is the same for a tracker of
either monitor. -/
theorem Alike.map_getElem? (h : m.Alike m') {α : Type} (view : Tracker → α)
    (hview : ∀ t : Tracker, view t.unread = view t) (k : Nat) :
    m.trackers[k]?.map view = m'.trackers[k]?.map view := by
  have hunread : view ∘ Tracker.unread = view := funext hview
  have hsame := congrArg (Option.map view) (h.getElem? k)
  simpa only [Option.map_map, hunread] using hsame

/-- A change of one tracker that does not depend on the idle time on record keeps
the agreement. -/
theorem Alike.changeTracker (h : m.Alike m') {change : Tracker → Tracker}
    (hchange : ∀ t : Tracker, (change t).unread = (change t.unread).unread) (number : Nat) :
    (m.changeTracker number change).Alike (m'.changeTracker number change) := by
  refine .of_getElem? h.topology fun k => ?_
  rw [changeTracker_getElem?, changeTracker_getElem?, Option.map_map, Option.map_map]
  refine h.map_getElem? _ (fun t => ?_) k
  by_cases hnumber : number = k
  · simp only [Function.comp_apply, hnumber, if_true]
    exact (hchange t).symm
  · simp only [Function.comp_apply, hnumber, if_false]
    rfl

/-- A push keeps the agreement. -/
theorem Alike.push (h : m.Alike m') (now : Duration) (element pad : String) :
    (m.push now element pad).monitor.Alike (m'.push now element pad).monitor := by
  refine .of_getElem? ?_ fun k => ?_
  · rw [push_topology, push_topology, h.topology]
  · rw [push_getElem?, push_getElem?, h.topology, Option.map_map, Option.map_map]
    refine h.map_getElem? _ (fun t => ?_) k
    simp only [Function.comp_apply, Tracker.unread_feed]
    rfl

/-- A push finds a pad by the topology alone. -/
theorem push_found (m : Monitor) (now : Duration) (element pad : String) :
    (m.push now element pad).found = (m.topology.pad? element pad).isSome := by
  unfold Monitor.push
  split
  · rename_i hpad
    rw [hpad]
    rfl
  · rename_i hpad
    rw [hpad]
    rfl

/-- A look at some trackers changes nothing but the idle times on record. -/
theorem alike_recordAll (m : Monitor) (now : Duration) (watched : List Nat) :
    (m.recordAll now watched).Alike m := by
  refine .of_getElem? (recordAll_topology ..) fun k => ?_
  rw [recordAll_getElem?, Option.map_map]
  congr 1
  funext t
  dsimp only [Function.comp_apply]
  split
  · exact t.unread_recordIdle now
  · rfl

/-- Monitors that agree give the same reports. -/
theorem Alike.reports (h : m.Alike m') (now : Duration) (watched : List Nat) :
    m.reports now watched = m'.reports now watched := by
  unfold Monitor.reports
  rw [List.map_filterMap, List.map_filterMap]
  congr 1
  funext k
  exact h.map_getElem? _ (fun _ => rfl) k

/-- Monitors that agree get the same verdict. -/
theorem Alike.evaluate (h : m.Alike m') (now : Duration) (watched : List Nat) :
    (m.evaluate now watched).1 = (m'.evaluate now watched).1 :=
  congrArg Verdict.ofReports (h.reports now watched)

/-- Monitors that agree register a probe with the same result. -/
theorem Alike.register (h : m.Alike m') (point : Point) (tracker : Nat) :
    (∃ failure, m.register point tracker = .error failure ∧
        m'.register point tracker = .error failure) ∨
      ∃ after after' event, m.register point tracker = .ok (after, event) ∧
        m'.register point tracker = .ok (after', event) ∧ after.Alike after' := by
  unfold Monitor.register
  rw [← h.topology]
  cases m.topology.attach ⟨point, tracker⟩ with
  | error failure => exact .inl ⟨failure, rfl, rfl⟩
  | ok topology => exact .inr ⟨_, _, _, rfl, rfl, rfl, h.trackers⟩

/-- Monitors that agree answer a request alike. -/
theorem Alike.response (h : m.Alike m') (now : Duration) (watched : List Nat)
    (r : Endpoint.Request) :
    (Endpoint.answer m now watched r).response = (Endpoint.answer m' now watched r).response := by
  unfold Endpoint.answer
  cases r.route with
  | verdict => exact congrArg (fun v => r.bodiless ⟨v.status, v.body⟩) (h.evaluate now watched)
  | wrongMethod => rfl
  | notFound => rfl

/-- A request changes nothing but the idle times on record. -/
theorem alike_answer (m : Monitor) (now : Duration) (watched : List Nat) (r : Endpoint.Request) :
    (Endpoint.answer m now watched r).monitor.Alike m := by
  rcases Endpoint.answer_monitor m now watched r with hsame | hlooked
  · rw [hsame]
    exact .refl m
  · rw [hlooked]
    exact m.alike_recordAll now watched

end Agreement

namespace Session

/-- Two sessions agree in all but the idle times that trackers have on record. -/
structure Alike (s s' : Session) : Prop where
  /-- The clocks are the same. -/
  clock : s.clock = s'.clock
  /-- The monitors agree. -/
  monitor : s.monitor.Alike s'.monitor

section Agreement

variable {s s' : Session}

/-- Agreement is reflexive. -/
theorem Alike.refl (s : Session) : s.Alike s := ⟨rfl, .refl _⟩

/-- Agreement is symmetric. -/
theorem Alike.symm (h : s.Alike s') : s'.Alike s := ⟨h.clock.symm, h.monitor.symm⟩

/-- Agreement is transitive. -/
theorem Alike.trans {s'' : Session} (h : s.Alike s') (h' : s'.Alike s'') : s.Alike s'' :=
  ⟨h.clock.trans h'.clock, h.monitor.trans h'.monitor⟩

/-- An answer that does not depend on the idle time on record is the same in both
sessions. -/
theorem Alike.ofTracker (h : s.Alike s') {answer : Tracker → Answer}
    (hanswer : ∀ t : Tracker, answer t.unread = answer t) (number : Nat) :
    s.ofTracker number answer = s'.ofTracker number answer := by
  have hsame := h.monitor.map_getElem? answer hanswer number
  unfold Session.ofTracker
  cases ht : s.monitor.trackers[number]? <;> cases ht' : s'.monitor.trackers[number]? <;>
    simp_all

/-- A read leads to a session that agrees with the one before. -/
theorem alike_step_of_isRead (s : Session) {operation : Operation}
    (hread : operation.isRead = true) : (s.step operation).session.Alike s := by
  have hlook : ∀ watched, (s.withMonitor (s.monitor.recordAll s.now watched)).Alike s :=
    fun watched => ⟨rfl, s.monitor.alike_recordAll s.now watched⟩
  cases operation with
  | observers element pad => exact .refl s
  | idle tracker => exact hlook [tracker]
  | isHealthy tracker limit => exact hlook [tracker]
  | check tracker => exact hlook [tracker]
  | threshold tracker => exact .refl s
  | describe tracker => exact .refl s
  | debug tracker => exact .refl s
  | evaluate watched => exact hlook watched
  | request request watched => exact ⟨rfl, s.monitor.alike_answer s.now watched request⟩
  | _ => exact absurd hread Bool.false_ne_true

/-- Attaching a probe is answered alike, and leads to sessions that agree. -/
theorem Alike.attach (h : s.Alike s') (point : Point) (tracker : Nat) :
    (s.attach point tracker).answer = (s'.attach point tracker).answer ∧
      (s.attach point tracker).session.Alike (s'.attach point tracker).session := by
  have hupdates := h.monitor.map_getElem? Tracker.updates (fun _ => rfl) tracker
  unfold Session.attach
  cases ht : s.monitor.trackers[tracker]? with
  | none =>
    have ht' : s'.monitor.trackers[tracker]? = none := by simpa [ht] using hupdates.symm
    rw [ht']
    exact ⟨rfl, h⟩
  | some t =>
    obtain ⟨t', ht', hsame⟩ : ∃ t', s'.monitor.trackers[tracker]? = some t' ∧
        t'.updates = t.updates := by simpa [ht] using hupdates.symm
    rw [ht']
    dsimp only
    rcases h.monitor.register point tracker with
      ⟨failure, hfail, hfail'⟩ | ⟨after, after', event, hok, hok', halike⟩
    · rw [hfail, hfail']
      exact ⟨rfl, h⟩
    · rw [hok, hok']
      exact ⟨by rw [hsame], h.clock, halike⟩

/-- Registering a probe is answered alike, and leads to sessions that agree. -/
theorem Alike.register (h : s.Alike s') (text : String) (tracker : Nat) :
    (s.register text tracker).answer = (s'.register text tracker).answer ∧
      (s.register text tracker).session.Alike (s'.register text tracker).session := by
  have hexists := h.monitor.map_getElem? (fun _ => ()) (fun _ => rfl) tracker
  unfold Session.register
  cases ht : s.monitor.trackers[tracker]? with
  | none =>
    have ht' : s'.monitor.trackers[tracker]? = none := by simpa [ht] using hexists.symm
    rw [ht']
    exact ⟨rfl, h⟩
  | some t =>
    obtain ⟨t', ht'⟩ : ∃ t', s'.monitor.trackers[tracker]? = some t' := by
      simpa [ht] using hexists.symm
    rw [ht']
    cases Point.ofText text with
    | error failure => exact ⟨rfl, h⟩
    | ok point => exact h.attach point tracker

/-- Sessions that agree answer every operation alike. -/
theorem Alike.answer (h : s.Alike s') (operation : Operation) :
    (s.step operation).answer = (s'.step operation).answer := by
  have hnow : s.now = s'.now := congrArg ManualClock.elapsed h.clock
  cases operation with
  | addElement name pads => rfl
  | addTracker threshold => exact congrArg Answer.number h.monitor.length
  | register text tracker => exact (h.register text tracker).1
  | attach point tracker => exact (h.attach point tracker).1
  | observers element pad =>
    exact congrArg (fun t : Topology => Answer.count (t.probesAt element pad).length)
      h.monitor.topology
  | push element pad =>
    show Answer.truth (s.monitor.push s.now element pad).found =
      Answer.truth (s'.monitor.push s'.now element pad).found
    rw [push_found, push_found, h.monitor.topology]
  | update tracker => exact h.ofTracker (fun _ => rfl) tracker
  | idle tracker =>
    show s.ofTracker tracker _ = s'.ofTracker tracker fun t => .length (t.idle s'.now)
    rw [← hnow]
    exact h.ofTracker (fun _ => rfl) tracker
  | isHealthy tracker limit =>
    show s.ofTracker tracker _ = s'.ofTracker tracker fun t => .truth (t.isHealthy s'.now limit)
    rw [← hnow]
    exact h.ofTracker (fun _ => rfl) tracker
  | check tracker =>
    show s.ofTracker tracker _ = s'.ofTracker tracker fun t => .report (t.report s'.now)
    rw [← hnow]
    exact h.ofTracker (fun _ => rfl) tracker
  | threshold tracker => exact h.ofTracker (fun _ => rfl) tracker
  | describe tracker => exact h.ofTracker (fun _ => rfl) tracker
  | debug tracker => exact h.ofTracker (fun _ => rfl) tracker
  | evaluate watched =>
    show Answer.verdict (s.monitor.evaluate s.now watched).1 _ =
      Answer.verdict (s'.monitor.evaluate s'.now watched).1 _
    rw [hnow, h.monitor.evaluate]
  | request request watched =>
    show Answer.response (Endpoint.answer s.monitor s.now watched request).response =
      Answer.response (Endpoint.answer s'.monitor s'.now watched request).response
    rw [hnow, h.monitor.response]
  | advance step => exact congrArg (fun c => Answer.length (c.advance step).elapsed) h.clock
  | set target => exact congrArg (fun c => Answer.length (c.set target).elapsed) h.clock

/-- Sessions that agree go on agreeing with every operation. -/
theorem Alike.step (h : s.Alike s') (operation : Operation) :
    (s.step operation).session.Alike (s'.step operation).session := by
  have hnow : s.now = s'.now := congrArg ManualClock.elapsed h.clock
  have hread : operation.isRead = true →
      (s.step operation).session.Alike (s'.step operation).session := fun hread =>
    ((s.alike_step_of_isRead hread).trans h).trans (s'.alike_step_of_isRead hread).symm
  cases operation with
  | addElement name pads =>
    refine ⟨h.clock, ?_, h.monitor.trackers⟩
    exact congrArg (Topology.addElement · name pads) h.monitor.topology
  | addTracker threshold =>
    refine ⟨h.clock, h.monitor.topology, ?_⟩
    show (s.monitor.trackers ++ [Tracker.fresh threshold s.now]).map Tracker.unread =
      (s'.monitor.trackers ++ [Tracker.fresh threshold s'.now]).map Tracker.unread
    rw [List.map_append, List.map_append, h.monitor.trackers, hnow]
  | register text tracker => exact (h.register text tracker).2
  | attach point tracker => exact (h.attach point tracker).2
  | push element pad =>
    refine ⟨h.clock, ?_⟩
    show (s.monitor.push s.now element pad).monitor.Alike
      (s'.monitor.push s'.now element pad).monitor
    rw [← hnow]
    exact h.monitor.push s.now element pad
  | update tracker =>
    refine ⟨h.clock, ?_⟩
    show (s.monitor.changeTracker tracker (·.update s.now)).Alike
      (s'.monitor.changeTracker tracker (·.update s'.now))
    rw [← hnow]
    exact h.monitor.changeTracker (fun _ => rfl) tracker
  | advance step => exact ⟨congrArg (·.advance step) h.clock, h.monitor⟩
  | set target => exact ⟨congrArg (·.set target) h.clock, h.monitor⟩
  | _ => exact hread rfl

end Agreement

/-- A place in two runs that differ in reads only. -/
inductive Edit
  /-- An operation of both runs. -/
  | kept (operation : Operation)
  /-- A read that only the second run has. -/
  | inserted (read : Operation) (hread : read.isRead = true)
  /-- A read that only the first run has. -/
  | deleted (read : Operation) (hread : read.isRead = true)

/-- What the first run has at a place. -/
def Edit.before? : Edit → Option Operation
  | .kept operation => some operation
  | .inserted _ _ => none
  | .deleted read _ => some read

/-- What the second run has at a place. -/
def Edit.after? : Edit → Option Operation
  | .kept operation => some operation
  | .inserted read _ => some read
  | .deleted _ _ => none

/-- The first of two runs. -/
def before (edits : List Edit) : List Operation := edits.filterMap Edit.before?

/-- The second of two runs. -/
def after (edits : List Edit) : List Operation := edits.filterMap Edit.after?

/-- Runs that differ in reads only lead from sessions that agree to sessions that
agree. -/
theorem Alike.run {s s' : Session} (h : s.Alike s') (edits : List Edit) :
    (s.run (before edits)).1.Alike (s'.run (after edits)).1 := by
  induction edits generalizing s s' with
  | nil => exact h
  | cons edit rest ih =>
    cases edit with
    | kept operation => exact ih (h.step operation)
    | inserted read hread => exact ih (h.trans (s'.alike_step_of_isRead hread).symm)
    | deleted read hread => exact ih ((s.alike_step_of_isRead hread).trans h)

/-- Every operation of a run has an answer. -/
theorem length_run (s : Session) (operations : List Operation) :
    (s.run operations).2.length = operations.length := by
  induction operations generalizing s with
  | nil => rfl
  | cons operation rest ih => exact congrArg (· + 1) (ih _)

/-- The answer to an operation in the middle of a run is that of the session
before it. -/
theorem run_getElem?_append_cons (s : Session) (earlier later : List Operation)
    (operation : Operation) :
    (s.run (earlier ++ operation :: later)).2[earlier.length]? =
      some ((s.run earlier).1.step operation).answer := by
  rw [run_append, ← s.length_run earlier, List.getElem?_append_right (Nat.le_refl _),
    Nat.sub_self]
  rfl

/-- Reads interfere with nothing. Let two runs from one session differ by any reads
put in and left out at any places. Then every operation that is in both has the
same answer in both, and at the end clock and topology are the same and so are the
trackers, with their thresholds, their counts and their last updates: only the idle
times on record may differ. -/
theorem reads_leave_no_trace (s : Session) (edits : List Edit) :
    (∀ earlier operation later, edits = earlier ++ .kept operation :: later →
        ∃ answer, (s.run (before edits)).2[(before earlier).length]? = some answer ∧
          (s.run (after edits)).2[(after earlier).length]? = some answer) ∧
      (s.run (before edits)).1.Alike (s.run (after edits)).1 := by
  refine ⟨?_, (Alike.refl s).run edits⟩
  rintro earlier operation later rfl
  have hbefore : before (earlier ++ .kept operation :: later) =
      before earlier ++ operation :: before later := List.filterMap_append
  have hafter : after (earlier ++ .kept operation :: later) =
      after earlier ++ operation :: after later := List.filterMap_append
  rw [hbefore, hafter, run_getElem?_append_cons, run_getElem?_append_cons]
  exact ⟨_, rfl, congrArg some (((Alike.refl s).run earlier).answer operation).symm⟩

/-- A probe that is checked, data that passes it, a request, and three seconds later
the idle time, where two looks at the tracker were put in and one was left out. -/
def inspected : List Edit :=
  [.kept (.addElement "sink" ["sink"]), .kept (.addTracker (.ofWord 2000000000)),
    .kept (.register "sink" 0), .inserted (.check 0) rfl, .kept (.push "sink" "sink"),
    .deleted (.evaluate [0]) rfl, .kept (.request ⟨"GET", "/ishealthy"⟩ [0]),
    .kept (.advance (.ofWord 3000000000)), .inserted (.observers "sink" "sink") rfl,
    .kept (.idle 0)]

/-- The idle time is three seconds in both runs, at different places. -/
theorem inspected_idle :
    (empty.run (before inspected)).2[7]? = some (.length (.ofWord 3000000000)) ∧
      (empty.run (after inspected)).2[8]? = some (.length (.ofWord 3000000000)) ∧
      (empty.run (before inspected)).1.Alike (empty.run (after inspected)).1 := by
  have hbefore : (empty.run (before inspected)).2[7]? =
      some (.length (.ofWord 3000000000)) := by decide +kernel
  obtain ⟨hanswers, halike⟩ := reads_leave_no_trace empty inspected
  obtain ⟨answer, hfirst, hsecond⟩ := hanswers inspected.dropLast (.idle 0) [] rfl
  obtain rfl := Option.some.inj (hbefore.symm.trans hfirst)
  exact ⟨hbefore, hsecond, halike⟩

end Session

end Monitor

end FlowWatch
