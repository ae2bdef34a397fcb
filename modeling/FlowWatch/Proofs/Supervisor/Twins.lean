import FlowWatch.Proofs.Monitor.Reads
import FlowWatch.Proofs.Monitor.Updates
import FlowWatch.Proofs.Supervisor.Agreement
import FlowWatch.Proofs.Supervisor.Outcomes

/-!
# One run in both bindings

The same operations are performed on two sessions that differ in the binding
only. The pipeline cannot tell them apart: probes sit at the same points in the
same order, servers start and stop together. The trackers differ, but the shared
one always carries the last activity of a tracker of the other session, namely of
the one that was updated last, and it counts the updates of all of them.
-/

namespace FlowWatch

/-- The settings with another binding. -/
def HealthSettings.withBinding (settings : HealthSettings) (binding : Binding) : HealthSettings :=
  { settings with binding := binding }

namespace Monitor

variable {m m' after after' : Monitor} {threshold : Duration} {fed first count : Nat}

/-- One tracker of a monitor carries the last activity of some others in another
monitor. The tracker was updated so many times in all, the others follow each
other from the same number on. -/
structure Carries (threshold : Duration) (fed first count : Nat) (m m' : Monitor) : Prop where
  /-- The tracker has counted its updates, and once there are any, one of the
  others was active last when it was. -/
  one : ∃ t, m.trackers[first]? = some t ∧ t.threshold = threshold ∧
    t.updates.toNat = fed % 18446744073709551616 ∧
    (fed ≠ 0 → ∃ i < count, ∃ t', m'.trackers[first + i]? = some t' ∧
      t'.lastActivity = t.lastActivity)
  /-- The others have the same threshold, and no updates before the tracker has
  any. -/
  others : ∀ i < count, ∃ t', m'.trackers[first + i]? = some t' ∧ t'.threshold = threshold ∧
    (fed = 0 → t'.updates = 0)

/-- A tracker of a monitor has its like in every monitor that agrees. -/
theorem Alike.exists_getElem? (h : after.Alike m) {k : Nat} {t : Tracker}
    (ht : m.trackers[k]? = some t) :
    ∃ t', after.trackers[k]? = some t' ∧ t'.unread = t.unread := by
  have hsame := h.getElem? k
  rw [ht] at hsame
  exact Option.map_eq_some_iff.1 hsame

/-- Looks at trackers leave it at that. -/
theorem Carries.of_alike (h : Carries threshold fed first count m m') (hm : after.Alike m)
    (hm' : after'.Alike m') : Carries threshold fed first count after after' := by
  obtain ⟨t, ht, hthreshold, hupdates, hlast⟩ := h.one
  obtain ⟨u, hu, hunread⟩ := hm.exists_getElem? ht
  have hactive : u.lastActivity = t.lastActivity := congrArg (·.lastActivity) hunread
  refine ⟨⟨u, hu, ?_, ?_, fun hfed => ?_⟩, fun i hi => ?_⟩
  · exact (congrArg (·.threshold) hunread).trans hthreshold
  · rw [← hupdates]
    exact congrArg (·.updates.toNat) hunread
  · obtain ⟨i, hi, t', ht', hsame⟩ := hlast hfed
    obtain ⟨u', hu', hunread'⟩ := hm'.exists_getElem? ht'
    refine ⟨i, hi, u', hu', ?_⟩
    have hactive' : u'.lastActivity = t'.lastActivity := congrArg (·.lastActivity) hunread'
    rw [hactive', hactive, hsame]
  · obtain ⟨t', ht', hthreshold', hunfed⟩ := h.others i hi
    obtain ⟨u', hu', hunread'⟩ := hm'.exists_getElem? ht'
    refine ⟨u', hu', (congrArg (·.threshold) hunread').trans hthreshold', fun hfed => ?_⟩
    exact (congrArg (·.updates) hunread').trans (hunfed hfed)

/-- Another tracker joins the others before it was ever updated. -/
theorem Carries.addTracker (h : Carries threshold fed first count m m')
    (hlength : m'.trackers.length = first + count) (now : Duration) :
    Carries threshold fed first (count + 1) m (m'.addTracker threshold now) := by
  have hold : ∀ i < count, (m'.addTracker threshold now).trackers[first + i]? =
      m'.trackers[first + i]? := fun i hi => List.getElem?_append_left (by omega)
  obtain ⟨t, ht, hthreshold, hupdates, hlast⟩ := h.one
  refine ⟨⟨t, ht, hthreshold, hupdates, fun hfed => ?_⟩, fun i hi => ?_⟩
  · obtain ⟨i, hi, t', ht', hsame⟩ := hlast hfed
    exact ⟨i, by omega, t', (hold i hi).trans ht', hsame⟩
  · by_cases hnew : i < count
    · obtain ⟨t', ht', hother⟩ := h.others i hnew
      exact ⟨t', (hold i hnew).trans ht', hother⟩
    · have hlast : first + i = m'.trackers.length := by omega
      refine ⟨Tracker.fresh threshold now, ?_, rfl, fun _ => rfl⟩
      rw [hlast]
      exact List.getElem?_concat_length

/-- Data passes a point with so many probes on the tracker; each of the others has
one probe there or none. If nothing was fed, the tracker that was last active before
still is. -/
theorem Carries.push (h : Carries threshold fed first count m m') (now : Duration)
    (element pad : String) {probes : Nat} {hit : Nat → Prop} [DecidablePred hit]
    (hone : (m.topology.probesAt element pad).countP (·.tracker = first) = probes)
    (hothers : ∀ i < count,
      (m'.topology.probesAt element pad).countP (·.tracker = first + i) = if hit i then 1 else 0)
    (hhit : probes ≠ 0 ↔ ∃ i < count, hit i) :
    Carries threshold (fed + probes) first count (m.push now element pad).monitor
      (m'.push now element pad).monitor := by
  obtain ⟨t, ht, hthreshold, hupdates, hlast⟩ := h.one
  have hafter : (m.push now element pad).monitor.trackers[first]? =
      some (t.feed (List.replicate probes now)) := by
    rw [push_getElem?, ht, hone]
    rfl
  have hafter' : ∀ i < count, ∀ t', m'.trackers[first + i]? = some t' →
      (m'.push now element pad).monitor.trackers[first + i]? =
        some (t'.feed (List.replicate (if hit i then 1 else 0) now)) := by
    intro i hi t' ht'
    rw [push_getElem?, ht', hothers i hi]
    rfl
  refine ⟨⟨_, hafter, (t.feed_threshold _).trans hthreshold, ?_, fun hfed => ?_⟩, fun i hi => ?_⟩
  · rw [Tracker.feed_updates, hupdates, List.length_replicate, Nat.mod_add_mod]
  · by_cases hnone : probes = 0
    · obtain ⟨i, hi, t', ht', hsame⟩ := hlast (by omega)
      have hmissed : ¬hit i := fun hi' => hhit.2 ⟨i, hi, hi'⟩ hnone
      refine ⟨i, hi, t', ?_, ?_⟩
      · rw [hafter' i hi t' ht', if_neg hmissed]
        rfl
      · rw [hnone]
        exact hsame
    · obtain ⟨i, hi, hhere⟩ := hhit.1 hnone
      obtain ⟨t', ht', -⟩ := h.others i hi
      refine ⟨i, hi, t'.update now, ?_, ?_⟩
      · rw [hafter' i hi t' ht', if_pos hhere]
        rfl
      · have hnow : (List.replicate probes now).getLast? = some now := by
          rw [List.getLast?_replicate, if_neg hnone]
        exact (t.feed_lastActivity hnow).symm
  · obtain ⟨t', ht', hthreshold', hunfed⟩ := h.others i hi
    refine ⟨_, hafter' i hi t' ht', (t'.feed_threshold _).trans hthreshold', fun hfed => ?_⟩
    have hmissed : ¬hit i := fun hi' => hhit.2 ⟨i, hi, hi'⟩ (by omega)
    rw [if_neg hmissed]
    exact hunfed (by omega)

end Monitor

namespace Supervisor

/-- Two answers say the same, whichever trackers the added probes feed. -/
def Answer.SameAs : Answer → Answer → Prop
  | .added probe, .added other => probe.map (·.point) = other.map (·.point)
  | answer, other => answer = other

/-- Equal answers say the same. -/
theorem Answer.SameAs.refl (answer : Answer) : answer.SameAs answer := by
  cases answer <;> rfl

/-- Whether the answer to an operation looks at trackers: at how many there are, or
at their idle times. -/
def Operation.looks : Operation → Bool
  | .debug | .request .. => true
  | _ => false

/-- Whether an operation starts the server. -/
def Operation.isStart : Operation → Bool
  | .start _ => true
  | _ => false

/-- The points of the probes that were added in two parts of a history. -/
theorem map_point_watches_append (xs ys : List Occurrence) :
    (watches (xs ++ ys)).map (·.point) =
      (watches xs).map (·.point) ++ (watches ys).map (·.point) := by
  induction xs with
  | nil => rfl
  | cons occurrence rest ih =>
    cases occurrence with
    | passed point reading => exact ih
    | probed point reading => exact congrArg (point :: ·) ih

namespace Session

/-- A session with shared binding and one with a tracker for each probe, in which
the same has happened. The shared tracker was updated so many times. -/
structure Twins (settings : HealthSettings) (base : Monitor) (fed : Nat) (s p : Session) :
    Prop where
  /-- Trackers, probes and server of the first session agree. -/
  linked : s.Linked (settings.withBinding .shared) base.trackers.length
  /-- Trackers, probes and server of the second session agree. -/
  linked' : p.Linked (settings.withBinding .perProbe) base.trackers.length
  /-- The first session is on the monitor that both started with. -/
  rooted : s.Rooted base
  /-- The second session is on the monitor that both started with. -/
  rooted' : p.Rooted base
  /-- The clocks are the same. -/
  clock : s.clock = p.clock
  /-- Both have bound an address before, or neither has. -/
  everBound : s.everBound = p.everBound
  /-- Both servers run, on the same address, or neither does. -/
  address : s.state.supervisor.localAddress? = p.state.supervisor.localAddress?
  /-- The probes are at the same points, in order. -/
  points : s.state.supervisor.probes.map (·.point) = p.state.supervisor.probes.map (·.point)
  /-- The shared tracker carries the last activity of the others. -/
  carries : Monitor.Carries settings.idleThreshold fed base.trackers.length
    p.state.supervisor.probes.length s.state.monitor p.state.monitor

section Steps

variable {settings : HealthSettings} {base : Monitor} {fed : Nat} {s p : Session}

/-- New sessions are twins. -/
theorem twins_fresh (henabled : settings.enabled = true) (base : Monitor) (clock : ManualClock) :
    Twins settings base 0 (fresh (settings.withBinding .shared) base clock)
      (fresh (settings.withBinding .perProbe) base clock) := by
  have hshared : (fresh (settings.withBinding .shared) base clock).state =
      ⟨⟨settings.withBinding .shared, [base.trackers.length], [], none⟩,
        base.addTracker settings.idleThreshold clock.elapsed⟩ := by
    simp [fresh, Supervisor.make, HealthSettings.withBinding, henabled]
  have hown : (fresh (settings.withBinding .perProbe) base clock).state =
      ⟨⟨settings.withBinding .perProbe, [], [], none⟩, base⟩ := by
    simp [fresh, Supervisor.make, HealthSettings.withBinding]
  refine ⟨linked_fresh .., linked_fresh .., rooted_fresh .., rooted_fresh .., rfl, rfl, ?_, ?_, ?_⟩
  · rw [hshared, hown]
    rfl
  · rw [hshared, hown]
  · rw [hshared, hown]
    refine ⟨⟨_, List.getElem?_concat_length, rfl, rfl, fun hfed => absurd rfl hfed⟩, ?_⟩
    intro i hi
    exact absurd hi (Nat.not_lt_zero i)

/-- The servers of twins run together. -/
theorem Twins.isRunning (h : Twins settings base fed s p) :
    s.state.supervisor.isRunning = p.state.supervisor.isRunning := by
  have hsame := congrArg Option.isSome h.address
  rwa [localAddress?, localAddress?, Option.isSome_map, Option.isSome_map] at hsame

/-- The shared tracker is the only one of its session. -/
theorem Twins.trackers (h : Twins settings base fed s p) (henabled : settings.enabled = true) :
    s.state.supervisor.trackers = [base.trackers.length] :=
  (h.linked.shared henabled rfl).1

/-- The trackers of the other session are numbered in the order of its probes. -/
theorem Twins.trackers' (h : Twins settings base fed s p) (henabled : settings.enabled = true) :
    p.state.supervisor.trackers =
      List.range' base.trackers.length p.state.supervisor.probes.length :=
  (h.linked'.perProbe henabled rfl).1

/-- Twins have the same number of probes. -/
theorem Twins.length (h : Twins settings base fed s p) :
    s.state.supervisor.probes.length = p.state.supervisor.probes.length := by
  have hsame := congrArg List.length h.points
  simpa only [List.length_map] using hsame

/-- The topologies of twins differ in the trackers that probes feed only. -/
theorem Twins.bare (h : Twins settings base fed s p) :
    s.state.monitor.topology.bare = p.state.monitor.topology.bare :=
  h.rooted.bare.trans h.rooted'.bare.symm

/-- An operation leads to twins again if they agree in what the effects do not
settle. -/
theorem Twins.of_step (h : Twins settings base fed s p) (operation : Operation) {fed' : Nat}
    {s' p' : Session} (hs : (s.step operation).session = s')
    (hp : (p.step operation).session = p') (hclock : s'.clock = p'.clock)
    (hbound : s'.everBound = p'.everBound)
    (haddress : s'.state.supervisor.localAddress? = p'.state.supervisor.localAddress?)
    (hpoints : s'.state.supervisor.probes.map (·.point) =
      p'.state.supervisor.probes.map (·.point))
    (hcarries : Monitor.Carries settings.idleThreshold fed' base.trackers.length
      p'.state.supervisor.probes.length s'.state.monitor p'.state.monitor) :
    Twins settings base fed' s' p' := by
  subst hs hp
  exact ⟨h.linked.moves (s.step_moves operation), h.linked'.moves (p.step_moves operation),
    h.rooted.moves (s.step_moves operation), h.rooted'.moves (p.step_moves operation),
    hclock, hbound, haddress, hpoints, hcarries⟩

/-- What a stopped session with shared binding does to add a probe. -/
theorem Twins.addProbe_eq (h : Twins settings base fed s p) (henabled : settings.enabled = true)
    (hstopped : s.state.supervisor.server = none) (point : Point) :
    s.state.addProbe s.now point =
      s.state.attach s.state.monitor s.state.supervisor.trackers point base.trackers.length := by
  have hsettings := h.linked.configured
  have htrackers := h.trackers henabled
  simp only [State.addProbe, hsettings, HealthSettings.withBinding, henabled, hstopped, htrackers]
  rfl

/-- What a stopped session with a tracker for each probe does to add one. -/
theorem Twins.addProbe_eq' (h : Twins settings base fed s p) (henabled : settings.enabled = true)
    (hstopped : p.state.supervisor.server = none) (point : Point) :
    p.state.addProbe p.now point =
      p.state.attach (p.state.monitor.addTracker settings.idleThreshold p.now)
        (p.state.supervisor.trackers ++ [p.state.monitor.trackers.length]) point
        p.state.monitor.trackers.length := by
  have hsettings := h.linked'.configured
  simp only [State.addProbe, hsettings, HealthSettings.withBinding, henabled, hstopped]
  rfl

/-- Twins add a probe with the same result. -/
theorem Twins.addProbe (h : Twins settings base fed s p) (henabled : settings.enabled = true)
    (text : String) :
    (s.addProbe text).answer.SameAs (p.addProbe text).answer ∧
      Twins settings base fed (s.addProbe text).session (p.addProbe text).session := by
  have hon : s.state.supervisor.settings.enabled = true := h.linked.configured ▸ henabled
  have hon' : p.state.supervisor.settings.enabled = true := h.linked'.configured ▸ henabled
  cases htext : Point.ofText? text with
  | none =>
    rw [s.addProbe_of_unreadable htext, p.addProbe_of_unreadable htext]
    exact ⟨.refl _, h⟩
  | some point =>
    cases hrunning : s.state.supervisor.isRunning with
    | true =>
      have hadd := State.addProbe_of_running hon hrunning s.now point
      have hadd' := State.addProbe_of_running hon' (h.isRunning ▸ hrunning) p.now point
      rw [addProbe_of_error htext hadd, addProbe_of_error htext hadd']
      exact ⟨.refl _, h⟩
    | false =>
      have hstopped := server_eq_none hrunning
      have hstopped' := server_eq_none (h.isRunning ▸ hrunning)
      have hadd := h.addProbe_eq henabled hstopped point
      have hadd' := h.addProbe_eq' henabled hstopped' point
      rcases Topology.attach_cases_of_bare h.bare point base.trackers.length
          p.state.monitor.trackers.length with ⟨failure, hfail, hfail'⟩ | ⟨hok, hok'⟩
      · rw [s.state.attach_of_error _ hfail] at hadd
        rw [p.state.attach_of_error (p.state.monitor.addTracker _ _) hfail'] at hadd'
        rw [addProbe_of_error htext hadd, addProbe_of_error htext hadd']
        exact ⟨.refl _, h⟩
      · rw [s.state.attach_of_ok _ hok] at hadd
        rw [p.state.attach_of_ok (p.state.monitor.addTracker _ _) hok'] at hadd'
        have hs := addProbe_of_ok htext hadd
        have hp := addProbe_of_ok htext hadd'
        rw [hs, hp]
        have hlength : p.state.monitor.trackers.length =
            base.trackers.length + p.state.supervisor.probes.length := by
          rw [h.linked'.stored, h.trackers' henabled, List.length_range']
        refine ⟨rfl, h.of_step (.addProbe text) (congrArg Stepped.session hs)
          (congrArg Stepped.session hp) h.clock h.everBound h.address ?_ ?_⟩
        · show (s.state.supervisor.probes ++ [_]).map Probe.point =
            (p.state.supervisor.probes ++ [_]).map Probe.point
          rw [List.map_append, List.map_append, h.points]
          rfl
        · show Monitor.Carries settings.idleThreshold fed base.trackers.length
            (p.state.supervisor.probes ++ [_]).length _ _
          rw [List.length_append]
          obtain ⟨hone, hothers⟩ := h.carries.addTracker hlength p.now
          exact ⟨hone, hothers⟩

/-- Twins start the server with the same result, once there is a probe. -/
theorem Twins.start (h : Twins settings base fed s p) (henabled : settings.enabled = true)
    (hprobed : s.state.supervisor.probes ≠ []) (outcome : BindOutcome) :
    (s.start outcome).answer.SameAs (p.start outcome).answer ∧
      Twins settings base fed (s.start outcome).session (p.start outcome).session := by
  have hon : s.state.supervisor.settings.enabled = true := h.linked.configured ▸ henabled
  have hon' : p.state.supervisor.settings.enabled = true := h.linked'.configured ▸ henabled
  have hbound : ∀ running, (s.everBound || running) = (p.everBound || running) :=
    fun running => congrArg (· || running) h.everBound
  cases hrunning : s.state.supervisor.isRunning with
  | true =>
    have hs := start_of_running (s := s) hon hrunning outcome
    have hp := start_of_running (s := p) hon' (h.isRunning ▸ hrunning) outcome
    rw [hs, hp]
    refine ⟨.refl _, h.of_step (.start outcome) (congrArg Stepped.session hs)
      (congrArg Stepped.session hp) h.clock ?_ h.address h.points h.carries⟩
    exact h.isRunning ▸ hbound _
  | false =>
    have hsome : s.state.supervisor.trackers ≠ [] := by
      rw [h.trackers henabled]
      exact List.cons_ne_nil _ _
    have hsome' : p.state.supervisor.trackers ≠ [] := by
      rw [h.trackers' henabled]
      intro hnil
      have hnone := List.range'_eq_nil_iff.1 hnil
      rw [← h.length] at hnone
      exact hprobed (List.length_eq_zero_iff.1 hnone)
    have hopen := h.linked.open hon hrunning
    have hopen' := h.linked'.open hon' (h.isRunning ▸ hrunning)
    have hsame : s.state.supervisor.settings.bindAddress =
        p.state.supervisor.settings.bindAddress := by
      rw [h.linked.configured, h.linked'.configured]
      rfl
    cases hspawned : outcome.spawned s.state.supervisor.settings.bindAddress with
    | error failure =>
      obtain ⟨events, hs⟩ := start_refused hopen hsome hspawned
      obtain ⟨events', hp⟩ := start_refused hopen' hsome' (hsame ▸ hspawned)
      rw [hs, hp]
      refine ⟨.refl _, h.of_step (.start outcome) (congrArg Stepped.session hs)
        (congrArg Stepped.session hp) h.clock ?_ h.address h.points h.carries⟩
      exact h.isRunning ▸ hbound _
    | ok address =>
      obtain rfl := BindOutcome.spawned_eq_ok_iff.1 hspawned
      obtain ⟨events, hs⟩ := start_bound hopen hsome address
      obtain ⟨events', hp⟩ := start_bound hopen' hsome' address
      rw [hs, hp]
      exact ⟨.refl _, h.of_step (.start (.bound address)) (congrArg Stepped.session hs)
        (congrArg Stepped.session hp) h.clock rfl rfl h.points h.carries⟩

/-- Twins stop together. -/
theorem Twins.stop (h : Twins settings base fed s p) :
    Twins settings base fed (s.step .stop).session (p.step .stop).session := by
  rw [s.stop_session, p.stop_session]
  exact h.of_step .stop s.stop_session p.stop_session h.clock h.everBound rfl h.points h.carries

/-- A request changes nothing but the idle times on record. -/
theorem request_session (s : Session) (request : Endpoint.Request) (reaches : Bool) :
    ∃ m, m.Alike s.state.monitor ∧ (s.request request reaches).session = s.withMonitor m := by
  unfold Session.request State.serve
  split
  · exact ⟨_, .refl _, rfl⟩
  · split
    · exact ⟨_, .refl _, rfl⟩
    · cases s.state.supervisor.server with
      | none => exact ⟨_, .refl _, rfl⟩
      | some server =>
        exact ⟨_, s.state.monitor.alike_answer s.now server.watched request, rfl⟩

/-- A request leaves twins. -/
theorem Twins.request (h : Twins settings base fed s p) (request : Endpoint.Request)
    (reaches : Bool) :
    Twins settings base fed (s.request request reaches).session
      (p.request request reaches).session := by
  obtain ⟨m, halike, hs⟩ := s.request_session request reaches
  obtain ⟨m', halike', hp⟩ := p.request_session request reaches
  rw [hs, hp]
  exact h.of_step (.request request reaches) hs hp h.clock h.everBound h.address h.points
    (h.carries.of_alike halike halike')

/-- Twins have as many probes at a point. -/
theorem Twins.countP_point (h : Twins settings base fed s p) (point : Point) :
    (s.state.supervisor.probes.countP fun probe => probe.point = point) =
      p.state.supervisor.probes.countP fun probe => probe.point = point := by
  have hmap := congrArg (List.countP fun q => decide (q = point)) h.points
  rw [List.countP_map, List.countP_map] at hmap
  exact hmap

/-- Twins count as many probes at a point, those of others included. -/
theorem Twins.length_probesAt (h : Twins settings base fed s p) (element pad : String) :
    (s.state.monitor.topology.probesAt element pad).length =
      (p.state.monitor.topology.probesAt element pad).length := by
  rw [h.rooted.placed, h.rooted'.placed, List.length_append, List.length_append,
    ← List.countP_eq_length_filter, ← List.countP_eq_length_filter, h.countP_point]

/-- Data that passes a point feeds the shared tracker once for each probe there. -/
theorem Twins.countP_shared (h : Twins settings base fed s p) (henabled : settings.enabled = true)
    (hclosed : base.Closed) (element pad : String) :
    (s.state.monitor.topology.probesAt element pad).countP (·.tracker = base.trackers.length) =
      s.state.supervisor.probes.countP fun probe => probe.point = ⟨element, pad⟩ := by
  have hall := (h.linked.shared henabled rfl).2
  have hcount := h.rooted.countP_probesAt hclosed element pad 0
  rw [Nat.add_zero] at hcount
  rw [hcount]
  refine List.countP_congr fun probe hprobe => ?_
  simp [hall probe hprobe]

/-- Data that passes a point feeds a tracker of its own if its probe is there. -/
theorem Twins.countP_own (h : Twins settings base fed s p) (henabled : settings.enabled = true)
    (hclosed : base.Closed) (element pad : String) {i : Nat}
    (hi : i < p.state.supervisor.probes.length) :
    (p.state.monitor.topology.probesAt element pad).countP
        (·.tracker = base.trackers.length + i) =
      if p.state.supervisor.probes[i]?.map (·.point) = some ⟨element, pad⟩ then 1 else 0 := by
  have hprobe := List.getElem?_eq_getElem hi
  obtain ⟨hrange, hmap⟩ := h.linked'.perProbe henabled rfl
  have hcount := countP_numbered Probe.tracker
    (fun probe => decide (probe.point = ⟨element, pad⟩)) (hmap.trans hrange) hprobe
  rw [h.rooted'.countP_probesAt hclosed element pad i, hcount, hprobe]
  simp only [Option.map_some, Option.some.injEq, decide_eq_true_eq]

/-- Data that passes a point of twins feeds the shared tracker whenever it feeds one
of the others. -/
theorem Twins.push (h : Twins settings base fed s p) (henabled : settings.enabled = true)
    (hclosed : base.Closed) (element pad : String) :
    Twins settings base
      (fed + s.state.supervisor.probes.countP fun probe => probe.point = ⟨element, pad⟩)
      (s.step (.push element pad)).session (p.step (.push element pad)).session := by
  have hnow : s.now = p.now := congrArg ManualClock.elapsed h.clock
  have hhit : (s.state.supervisor.probes.countP fun probe => probe.point = ⟨element, pad⟩) ≠ 0 ↔
      ∃ i < p.state.supervisor.probes.length,
        p.state.supervisor.probes[i]?.map (·.point) = some ⟨element, pad⟩ := by
    rw [h.countP_point, ← Nat.pos_iff_ne_zero, List.countP_pos_iff]
    constructor
    · rintro ⟨probe, hprobe, hpoint⟩
      obtain ⟨i, hi, rfl⟩ := List.mem_iff_getElem.1 hprobe
      refine ⟨i, hi, ?_⟩
      rw [List.getElem?_eq_getElem hi, Option.map_some, of_decide_eq_true hpoint]
    · rintro ⟨i, hi, hpoint⟩
      rw [List.getElem?_eq_getElem hi, Option.map_some] at hpoint
      exact ⟨_, List.getElem_mem hi, decide_eq_true (Option.some.inj hpoint)⟩
  refine h.of_step (.push element pad) rfl rfl h.clock h.everBound h.address h.points ?_
  show Monitor.Carries _ _ _ _ (s.state.monitor.push s.now element pad).monitor
    (p.state.monitor.push p.now element pad).monitor
  rw [← hnow]
  exact h.carries.push s.now element pad (h.countP_shared henabled hclosed element pad)
    (fun i hi => h.countP_own henabled hclosed element pad hi) hhit

/-- How often an operation feeds the trackers of the supervisor: data does it once
for every probe at its point. -/
def feeds (s : Session) : Operation → Nat
  | .push element pad =>
    s.state.supervisor.probes.countP fun probe => probe.point = ⟨element, pad⟩
  | _ => 0

/-- Twins answer alike whatever does not look at trackers, and stay twins, if a
server is started only on probes. -/
theorem Twins.step (h : Twins settings base fed s p) (henabled : settings.enabled = true)
    (hclosed : base.Closed) {operation : Operation}
    (hprobed : operation.isStart = true → s.state.supervisor.probes ≠ []) :
    (operation.looks = false → (s.step operation).answer.SameAs (p.step operation).answer) ∧
      Twins settings base (fed + s.feeds operation) (s.step operation).session
        (p.step operation).session := by
  cases operation with
  | addProbe text =>
    obtain ⟨hanswer, htwins⟩ := h.addProbe henabled text
    exact ⟨fun _ => hanswer, htwins⟩
  | start outcome =>
    obtain ⟨hanswer, htwins⟩ := h.start henabled (hprobed rfl) outcome
    exact ⟨fun _ => hanswer, htwins⟩
  | stop => exact ⟨fun _ => rfl, h.stop⟩
  | debug => exact ⟨fun hlooks => absurd hlooks (by decide), h⟩
  | request request reaches =>
    exact ⟨fun hlooks => absurd hlooks.symm Bool.false_ne_true, h.request request reaches⟩
  | push element pad =>
    refine ⟨fun _ => ?_, h.push henabled hclosed element pad⟩
    show Answer.truth (s.state.monitor.push s.now element pad).found =
      Answer.truth (p.state.monitor.push p.now element pad).found
    rw [Monitor.push_found, Monitor.push_found, Topology.isSome_pad?_of_bare h.bare]
  | observers element pad =>
    exact ⟨fun _ => congrArg Answer.count (h.length_probesAt element pad), h⟩
  | advance step =>
    have hclock := congrArg (·.advance step) h.clock
    exact ⟨fun _ => congrArg (fun c : ManualClock => Answer.length c.elapsed) hclock,
      h.of_step (.advance step) rfl rfl hclock h.everBound h.address h.points h.carries⟩
  | set target =>
    have hclock := congrArg (·.set target) h.clock
    exact ⟨fun _ => congrArg (fun c : ManualClock => Answer.length c.elapsed) hclock,
      h.of_step (.set target) rfl rfl hclock h.everBound h.address h.points h.carries⟩

end Steps

/-- How often a run feeds the trackers of the supervisor. -/
def feedings (s : Session) : List Operation → Nat
  | [] => 0
  | operation :: rest => s.feeds operation + (s.step operation).session.feedings rest

/-- Every effect adds the probes that are written down of it. -/
theorem Moves.points {s s' : Session} {occurrences : List Occurrence}
    (hmoves : s.Moves occurrences s') :
    s'.state.supervisor.probes.map (·.point) =
      s.state.supervisor.probes.map (·.point) ++ (watches occurrences).map (·.point) := by
  cases hmoves with
  | joined => exact List.map_append
  | added => exact List.map_append
  | _ => exact (List.append_nil _).symm

/-- No effect takes the probes away. -/
theorem Moves.probes_ne_nil {s s' : Session} {occurrences : List Occurrence}
    (hmoves : s.Moves occurrences s')
    (h : s.state.supervisor.probes ≠ [] ∨ watches occurrences ≠ []) :
    s'.state.supervisor.probes ≠ [] := by
  intro hnil
  have hpoints := hmoves.points
  rw [hnil, List.map_nil, eq_comm, List.append_eq_nil_iff, List.map_eq_nil_iff,
    List.map_eq_nil_iff] at hpoints
  exact h.elim (fun hsome => hsome hpoints.1) fun hsome => hsome hpoints.2

/-- Some probe is added before the first start of a run, if there is a start. -/
def ProbedFirst (s : Session) (operations : List Operation) : Prop :=
  (∃ operation ∈ operations, operation.isStart = true) →
    watches (s.history (operations.takeWhile fun operation => !operation.isStart)) ≠ []

/-- Whether a probe comes first is decided on the run up to the first start. -/
instance (s : Session) (operations : List Operation) : Decidable (s.ProbedFirst operations) :=
  inferInstanceAs (Decidable (_ → _))

/-- A run in which a probe comes first does not begin with a start. -/
theorem ProbedFirst.isStart_eq_false {s : Session} {operation : Operation} {rest : List Operation}
    (h : s.ProbedFirst (operation :: rest)) : operation.isStart = false := by
  rw [← Bool.not_eq_true]
  intro hstart
  have hprobed := h ⟨operation, List.mem_cons_self, hstart⟩
  rw [List.takeWhile_cons, hstart] at hprobed
  exact hprobed rfl

/-- After the first operation of a run in which a probe comes first there is a
probe, or one comes first in the rest. -/
theorem ProbedFirst.step {s : Session} {operation : Operation} {rest : List Operation}
    (h : s.ProbedFirst (operation :: rest)) :
    (s.step operation).session.state.supervisor.probes ≠ [] ∨
      (s.step operation).session.ProbedFirst rest := by
  by_cases hhere : watches (s.occurrences operation) = []
  · refine .inr fun hlater => ?_
    obtain ⟨start, hstart, hisStart⟩ := hlater
    have hprobed := h ⟨start, List.mem_cons_of_mem _ hstart, hisStart⟩
    rw [List.takeWhile_cons, h.isStart_eq_false] at hprobed
    intro hnone
    have hmap := map_point_watches_append (s.occurrences operation)
      ((s.step operation).session.history (rest.takeWhile fun operation => !operation.isStart))
    rw [hhere, hnone] at hmap
    exact hprobed (List.map_eq_nil_iff.1 hmap)
  · exact .inl ((s.step_moves operation).probes_ne_nil (.inr hhere))

/-- A run on twins gives the same answers to all that does not look at trackers, and
leads to twins, if there is a probe or one comes before the first start. -/
theorem Twins.run {settings : HealthSettings} {base : Monitor} (henabled : settings.enabled = true)
    (hclosed : base.Closed) {fed : Nat} {s p : Session} (h : Twins settings base fed s p)
    {operations : List Operation}
    (hprobed : s.state.supervisor.probes ≠ [] ∨ s.ProbedFirst operations) :
    (∀ (i : Nat) operation, operations[i]? = some operation → operation.looks = false →
        ∃ answer other, (s.run operations).2[i]? = some answer ∧
          (p.run operations).2[i]? = some other ∧ answer.SameAs other) ∧
      Twins settings base (fed + s.feedings operations) (s.run operations).1
        (p.run operations).1 := by
  induction operations generalizing s p fed with
  | nil => exact ⟨fun i operation hi => by simp at hi, h⟩
  | cons operation rest ih =>
    have hhere : operation.isStart = true → s.state.supervisor.probes ≠ [] := by
      intro hstart
      refine hprobed.resolve_right fun hfirst => ?_
      rw [hfirst.isStart_eq_false] at hstart
      exact Bool.false_ne_true hstart
    have hlater : (s.step operation).session.state.supervisor.probes ≠ [] ∨
        (s.step operation).session.ProbedFirst rest := by
      rcases hprobed with hsome | hfirst
      · exact .inl ((s.step_moves operation).probes_ne_nil (.inl hsome))
      · exact hfirst.step
    obtain ⟨hanswer, htwins⟩ := h.step henabled hclosed hhere
    obtain ⟨hanswers, hend⟩ := ih htwins hlater
    refine ⟨fun i other hi hlooks => ?_, ?_⟩
    · cases i with
      | zero =>
        obtain rfl := Option.some.inj hi
        exact ⟨_, _, rfl, rfl, hanswer hlooks⟩
      | succ j => exact hanswers j other hi hlooks
    · rw [Nat.add_assoc] at hend
      exact hend

end Session

end Supervisor

end FlowWatch
