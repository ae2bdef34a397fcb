import FlowWatch.Proofs.Endpoint.Verdict
import FlowWatch.Proofs.Supervisor.Placement

/-!
# Which tracker each probe feeds

The supervisor keeps three lists apart: its trackers, its probes, and the
trackers that a running server was started on. In every reachable state they
agree. Shared binding has one tracker and all probes feed it; otherwise probes
and trackers correspond one to one in order; and a running server looks at all
trackers there are, of which there is at least one. The probes are those that
the answers of the run have named, so none of them is missing from the verdict.
-/

namespace FlowWatch

namespace Supervisor.Session

/-- How trackers, probes and server agree in a session whose trackers are
numbered from a first one on. -/
structure Linked (settings : HealthSettings) (first : Nat) (s : Session) : Prop where
  /-- The settings never change. -/
  configured : s.state.supervisor.settings = settings
  /-- Without a health check there is nothing. -/
  disabled : settings.enabled = false → s.state.supervisor.trackers = [] ∧
    s.state.supervisor.probes = [] ∧ s.state.supervisor.server = none
  /-- With shared binding there is one tracker, and all probes feed it. -/
  shared : settings.enabled = true → settings.binding = .shared →
    s.state.supervisor.trackers = [first] ∧
      ∀ probe ∈ s.state.supervisor.probes, probe.tracker = first
  /-- Otherwise every probe feeds the tracker at its own place. -/
  perProbe : settings.enabled = true → settings.binding = .perProbe →
    s.state.supervisor.trackers = List.range' first s.state.supervisor.probes.length ∧
      s.state.supervisor.probes.map (·.tracker) = s.state.supervisor.trackers
  /-- The monitor holds these trackers behind those that are not the supervisor's. -/
  stored : s.state.monitor.trackers.length = first + s.state.supervisor.trackers.length
  /-- A running server looks at all trackers, and its address is known. -/
  served : ∀ server, s.state.supervisor.server = some server →
    server.watched = s.state.supervisor.trackers ∧ s.state.supervisor.trackers ≠ [] ∧
      s.everBound = true

/-- A new session is linked from the first tracker that the monitor did not
have. -/
theorem linked_fresh (settings : HealthSettings) (monitor : Monitor) (clock : ManualClock) :
    (fresh settings monitor clock).Linked settings monitor.trackers.length := by
  unfold fresh Supervisor.make
  split
  · rename_i hshared
    obtain ⟨henabled, hbinding⟩ : settings.enabled = true ∧ settings.binding = .shared := by
      simpa using hshared
    constructor <;> simp [henabled, hbinding, Monitor.addTracker]
  · rename_i hother
    constructor <;> simp
    intro henabled hbinding
    simp [henabled, hbinding] at hother

/-- A change that concerns neither supervisor nor trackers keeps a session
linked. -/
theorem Linked.of_same {settings : HealthSettings} {first : Nat} {s s' : Session}
    (h : s.Linked settings first) (hsupervisor : s'.state.supervisor = s.state.supervisor)
    (hlength : s'.state.monitor.trackers.length = s.state.monitor.trackers.length)
    (hbound : s.everBound = true → s'.everBound = true) : s'.Linked settings first := by
  constructor
  · rw [hsupervisor, h.configured]
  · rw [hsupervisor]
    exact h.disabled
  · rw [hsupervisor]
    exact h.shared
  · rw [hsupervisor]
    exact h.perProbe
  · rw [hsupervisor, hlength, h.stored]
  · rw [hsupervisor]
    intro server hserver
    obtain ⟨hwatched, hsome, hknown⟩ := h.served server hserver
    exact ⟨hwatched, hsome, hbound hknown⟩

/-- A probe on the shared tracker keeps a session linked. -/
theorem Linked.joined {settings : HealthSettings} {first : Nat} {s : Session}
    (h : s.Linked settings first) {point : Point} {tracker : Nat} {rest : List Nat}
    (henabled : s.state.supervisor.settings.enabled = true)
    (hbinding : s.state.supervisor.settings.binding = .shared)
    (hstopped : s.state.supervisor.server = none)
    (htrackers : s.state.supervisor.trackers = tracker :: rest) :
    (s.withState (s.state.attached s.state.monitor s.state.supervisor.trackers
      ⟨point, tracker⟩)).Linked settings first := by
  rw [h.configured] at henabled hbinding
  obtain ⟨hone, hall⟩ := h.shared henabled hbinding
  have hfirst : tracker = first := by
    rw [hone] at htrackers
    exact (List.cons.inj htrackers).1.symm
  constructor
  · exact h.configured
  · intro hoff
    simp [henabled] at hoff
  · intro _ _
    refine ⟨hone, ?_⟩
    show ∀ probe ∈ s.state.supervisor.probes ++ [⟨point, tracker⟩], probe.tracker = first
    rw [List.forall_mem_append, List.forall_mem_singleton]
    exact ⟨hall, hfirst⟩
  · intro _ hother
    simp [hbinding] at hother
  · exact h.stored
  · intro server hserver
    exact absurd (hstopped.symm.trans hserver) (by simp)

/-- A probe with a tracker made for it keeps a session linked. -/
theorem Linked.added {settings : HealthSettings} {first : Nat} {s : Session}
    (h : s.Linked settings first) {point : Point}
    (henabled : s.state.supervisor.settings.enabled = true)
    (hbinding : s.state.supervisor.settings.binding = .perProbe)
    (hstopped : s.state.supervisor.server = none) :
    (s.withState (s.state.attached
      (s.state.monitor.addTracker s.state.supervisor.settings.idleThreshold s.now)
      (s.state.supervisor.trackers ++ [s.state.monitor.trackers.length])
      ⟨point, s.state.monitor.trackers.length⟩)).Linked settings first := by
  rw [h.configured] at henabled hbinding
  obtain ⟨hrange, hprobes⟩ := h.perProbe henabled hbinding
  have hlength : s.state.supervisor.trackers.length = s.state.supervisor.probes.length := by
    rw [hrange, List.length_range']
  constructor
  · exact h.configured
  · intro hoff
    simp [henabled] at hoff
  · intro _ hother
    simp [hbinding] at hother
  · intro _ _
    show s.state.supervisor.trackers ++ [s.state.monitor.trackers.length] =
        List.range' first (s.state.supervisor.probes ++ [_]).length ∧
      (s.state.supervisor.probes ++ [_]).map Probe.tracker =
        s.state.supervisor.trackers ++ [s.state.monitor.trackers.length]
    rw [List.map_append, hprobes, List.length_append, List.length_singleton,
      List.range'_concat, ← hrange, h.stored, hlength, Nat.one_mul]
    exact ⟨rfl, rfl⟩
  · show (s.state.monitor.trackers ++ [_]).length =
      first + (s.state.supervisor.trackers ++ [_]).length
    rw [List.length_append, List.length_append, h.stored]
    rfl
  · intro server hserver
    exact absurd (hstopped.symm.trans hserver) (by simp)

/-- Every effect keeps a session linked. -/
theorem Linked.moves {settings : HealthSettings} {first : Nat} {s s' : Session}
    {occurrences : List Occurrence} (h : s.Linked settings first)
    (hmoves : s.Moves occurrences s') : s'.Linked settings first := by
  cases hmoves with
  | still => exact h
  | moved clock => exact h.of_same rfl rfl id
  | joined henabled hbinding hstopped htrackers hpad =>
    exact h.joined henabled hbinding hstopped htrackers
  | added henabled hbinding hstopped hpad => exact h.added henabled hbinding hstopped
  | started address henabled htrackers =>
    have hon : settings.enabled = true := h.configured ▸ henabled
    refine ⟨h.configured, fun hoff => by simp [hon] at hoff, h.shared, h.perProbe, h.stored, ?_⟩
    intro server hserver
    obtain rfl := Option.some.inj hserver
    exact ⟨rfl, htrackers, rfl⟩
  | noted => exact h.of_same rfl rfl fun hknown => by simp [hknown]
  | halted =>
    refine ⟨h.configured, fun hoff => ?_, h.shared, h.perProbe, h.stored, fun server hserver => ?_⟩
    · exact ⟨(h.disabled hoff).1, (h.disabled hoff).2.1, rfl⟩
    · exact absurd hserver (by simp [withState, State.halted])
  | passed element pad => exact h.of_same rfl (Monitor.push_length ..) id
  | looked hserver => exact h.of_same rfl (Monitor.recordAll_length ..) id

/-- Every reachable session is linked. -/
theorem linked_run (settings : HealthSettings) (monitor : Monitor) (clock : ManualClock)
    (operations : List Operation) :
    ((fresh settings monitor clock).run operations).1.Linked settings monitor.trackers.length :=
  run_induction Linked.moves (linked_fresh settings monitor clock) operations

/-- Every probe of a linked session feeds one of the supervisor's trackers. -/
theorem Linked.tracker_mem {settings : HealthSettings} {first : Nat} {s : Session}
    (h : s.Linked settings first) {probe : Probe} (hprobe : probe ∈ s.state.supervisor.probes) :
    probe.tracker ∈ s.state.supervisor.trackers := by
  cases henabled : settings.enabled with
  | false =>
    rw [(h.disabled henabled).2.1] at hprobe
    simp at hprobe
  | true =>
    cases hbinding : settings.binding with
    | shared =>
      obtain ⟨hone, hall⟩ := h.shared henabled hbinding
      rw [hone, hall probe hprobe]
      exact List.mem_singleton_self first
    | perProbe =>
      rw [← (h.perProbe henabled hbinding).2]
      exact List.mem_map_of_mem hprobe

/-- Every tracker of a linked session exists. -/
theorem Linked.tracker_lt {settings : HealthSettings} {first : Nat} {s : Session}
    (h : s.Linked settings first) {k : Nat} (hk : k ∈ s.state.supervisor.trackers) :
    k < s.state.monitor.trackers.length := by
  have hstored := h.stored
  have hsome := List.length_pos_of_mem hk
  cases henabled : settings.enabled with
  | false =>
    rw [(h.disabled henabled).1] at hk
    simp at hk
  | true =>
    cases hbinding : settings.binding with
    | shared =>
      rw [(h.shared henabled hbinding).1, List.mem_singleton] at hk
      omega
    | perProbe =>
      obtain ⟨hrange, -⟩ := h.perProbe henabled hbinding
      rw [hrange, List.mem_range'_1] at hk
      rw [hrange, List.length_range'] at hstored
      omega

/-- The requests that a linked session answers get a verdict on some tracker. -/
theorem Linked.response_body_ne {settings : HealthSettings} {first : Nat} {s : Session}
    (h : s.Linked settings first) {request : Endpoint.Request} {reaches : Bool}
    {response : Endpoint.Response}
    (hresponse : (s.request request reaches).answer = .response response) :
    response.body ≠ Verdict.noTrackers.body := by
  unfold Session.request State.serve at hresponse
  split at hresponse
  · simp at hresponse
  · split at hresponse
    · simp at hresponse
    · cases hserver : s.state.supervisor.server with
      | none => simp [hserver] at hresponse
      | some server =>
        rw [hserver] at hresponse
        simp only [Option.map_some, Answer.response.injEq] at hresponse
        obtain ⟨hwatched, hsome, -⟩ := h.served server hserver
        obtain ⟨k, hk⟩ := List.exists_mem_of_ne_nil _ hsome
        rw [← hresponse]
        apply Endpoint.answer_body_ne_noTrackers
        exact Monitor.evaluate_ne_noTrackers (hwatched ▸ hk) (h.tracker_lt hk)

/-- A running server answers as the router does over the current trackers. -/
theorem Linked.request_running {settings : HealthSettings} {first : Nat} {s : Session}
    (h : s.Linked settings first) (hrunning : s.state.supervisor.isRunning = true)
    (r : Endpoint.Request) :
    let answered := Endpoint.answer s.state.monitor s.now s.state.supervisor.trackers r
    s.request r true =
      ⟨s.withMonitor answered.monitor, .response (r.bodiless answered.response), []⟩ := by
  obtain ⟨server, hserver⟩ := Option.isSome_iff_exists.1 hrunning
  obtain ⟨hwatched, -, hbound⟩ := h.served server hserver
  have hknown : (!s.everBound) = false := by rw [hbound]; rfl
  rw [Session.request, hknown, State.serve, hserver]
  simp only [Option.map_some, hwatched, Bool.not_true, Bool.false_eq_true, if_false]
  rfl

/-- A probe that was added and is at work. -/
structure Attached (s : Session) (probe : Probe) : Prop where
  /-- The supervisor has it. -/
  listed : probe ∈ s.state.supervisor.probes
  /-- It sits on the pad that it names. -/
  placed : probe ∈ s.state.monitor.topology.probesAt probe.point.element probe.point.pad
  /-- Data that passes this pad feeds its tracker. -/
  feeds : ∃ t count, 0 < count ∧ s.state.monitor.trackers[probe.tracker]? = some t ∧
    (s.state.monitor.push s.now probe.point.element probe.point.pad).monitor.trackers[
      probe.tracker]? = some (t.feed (List.replicate count s.now))

/-- Every probe of a linked session that is rooted in a monitor is at work. -/
theorem Linked.attached {settings : HealthSettings} {first : Nat} {base : Monitor} {s : Session}
    (h : s.Linked settings first) (hrooted : s.Rooted base) {probe : Probe}
    (hprobe : probe ∈ s.state.supervisor.probes) : s.Attached probe := by
  have hplaced := hrooted.mem_probesAt hprobe
  have ht := List.getElem?_eq_getElem (h.tracker_lt (h.tracker_mem hprobe))
  obtain ⟨count, hcount, hfed⟩ := Monitor.push_feeds hplaced ht s.now
  exact ⟨hprobe, hplaced, _, count, hcount, ht, hfed⟩

/-- In every reachable state: the probes of the supervisor are those that the
answers of the run have named, in order, each at the point that was asked for; each
of them is on its pad, behind the probes that the pad had before, and data that
passes there feeds its tracker. With shared binding there is exactly one tracker
and every probe feeds it; with a tracker for each probe the probes and the
trackers correspond in order and no tracker occurs twice; and a running server
looks at exactly the current trackers, of which there is at least one and which
all exist, so every probe that was added has its report in the verdict that is
served, and no answer says that there are no trackers. -/
theorem reachable_binding (settings : HealthSettings) (monitor : Monitor) (clock : ManualClock)
    (operations : List Operation) :
    let run := (fresh settings monitor clock).run operations
    let added := addedProbes run.2
    let s := run.1
    let supervisor := s.state.supervisor
    supervisor.probes = added ∧ (∀ probe ∈ added, s.Attached probe) ∧
      (∀ text probe, (.addProbe text, .added (some probe)) ∈ operations.zip run.2 →
        probe ∈ added ∧ Point.ofText? text = some probe.point) ∧
      (∀ element pad, s.state.monitor.topology.probesAt element pad =
        monitor.topology.probesAt element pad ++
          added.filter fun probe => probe.point = ⟨element, pad⟩) ∧
      (settings.enabled = true → settings.binding = .shared →
        ∃ tracker, supervisor.trackers = [tracker] ∧
          ∀ probe ∈ supervisor.probes, probe.tracker = tracker) ∧
      (settings.enabled = true → settings.binding = .perProbe →
        supervisor.trackers.length = supervisor.probes.length ∧ supervisor.trackers.Nodup ∧
          ∀ i : Nat, supervisor.probes[i]?.map (·.tracker) = supervisor.trackers[i]?) ∧
      (∀ k ∈ supervisor.trackers, k < s.state.monitor.trackers.length) ∧
      ∀ server, supervisor.server = some server →
        server.watched = supervisor.trackers ∧ supervisor.trackers ≠ [] ∧
          (∀ probe ∈ added, ∃ t, s.state.monitor.trackers[probe.tracker]? = some t ∧
            t.report s.now ∈ s.state.monitor.reports s.now server.watched) ∧
          (let verdict := Verdict.ofReports (s.state.monitor.reports s.now server.watched)
           (s.request ⟨"GET", Endpoint.healthPath⟩ true).answer =
              .response ⟨verdict.status, verdict.body⟩) ∧
          ∀ request reaches response, (s.request request reaches).answer = .response response →
            response.body ≠ Verdict.noTrackers.body := by
  intro run added s supervisor
  have h : s.Linked settings monitor.trackers.length :=
    linked_run settings monitor clock operations
  have hrooted : s.Rooted monitor := rooted_run settings monitor clock operations
  have hprobes : supervisor.probes = added := by
    have hrun := (fresh settings monitor clock).run_probes operations
    rwa [probes_fresh, List.nil_append] at hrun
  refine ⟨hprobes, fun probe hprobe => h.attached hrooted (hprobes ▸ hprobe),
    fun text probe hanswer => ?_, fun element pad => hprobes ▸ hrooted.placed element pad,
    fun henabled hbinding => ⟨_, h.shared henabled hbinding⟩, ?_, fun k hk => h.tracker_lt hk, ?_⟩
  · have hmem : probe ∈ added := List.mem_filterMap.2 ⟨_, (List.of_mem_zip hanswer).2, rfl⟩
    exact ⟨hmem, point_of_added hanswer⟩
  · intro henabled hbinding
    obtain ⟨hrange, hmap⟩ := h.perProbe henabled hbinding
    refine ⟨?_, ?_, fun i => ?_⟩
    · rw [hrange, List.length_range']
    · rw [hrange]
      exact List.nodup_range'
    · rw [← hmap, List.getElem?_map]
  · intro server hserver
    obtain ⟨hwatched, hsome, -⟩ := h.served server hserver
    refine ⟨hwatched, hsome, fun probe hprobe => ?_, ?_, fun _ _ _ => h.response_body_ne⟩
    · have hk := h.tracker_mem (hprobes ▸ hprobe)
      have ht := List.getElem?_eq_getElem (h.tracker_lt hk)
      exact ⟨_, ht, Monitor.report_mem (hwatched ▸ hk) ht⟩
    · have hrunning : s.state.supervisor.isRunning = true := by
        rw [isRunning, hserver]
        rfl
      rw [h.request_running hrunning, Endpoint.answer_get, hwatched]
      rfl

/-- An encoder with two pads, of which one has a probe of another owner. -/
def encoding : Monitor where
  topology := ⟨[⟨"encoder", [⟨"sink", []⟩, ⟨"src", [⟨⟨"encoder", "src"⟩, 0⟩]⟩]⟩]⟩
  trackers := [Tracker.fresh Duration.zero Duration.zero]

/-- A tracker for each probe. -/
def separate : HealthSettings :=
  { HealthSettings.default with enabled := true, binding := .perProbe }

/-- Two probes are added among attempts that fail, and then the server is started. Later
data passes one of the two pads. -/
def encoderWatch : List Operation :=
  [.start (.bound "127.0.0.1:8080"), .addProbe "encoder", .addProbe "decoder",
    .addProbe "encoder:src", .start (.lacking .thread "out of threads"),
    .start (.bound "127.0.0.1:8080"), .addProbe "encoder", .advance (.ofWord 3000000000),
    .push "encoder" "sink"]

/-- Both probes are served: the server runs on their trackers, of which each has its
report, and the second probe is behind the one that was there. It has seen no data, so
the verdict is that of its tracker. -/
theorem both_probes_served :
    let s := ((fresh separate encoding ManualClock.origin).run encoderWatch).1
    s.state.supervisor.server = some ⟨"127.0.0.1:8080", [1, 2]⟩ ∧
      s.state.supervisor.probes = [⟨⟨"encoder", "sink"⟩, 1⟩, ⟨⟨"encoder", "src"⟩, 2⟩] ∧
      s.state.monitor.topology.probesAt "encoder" "src" =
        [⟨⟨"encoder", "src"⟩, 0⟩, ⟨⟨"encoder", "src"⟩, 2⟩] ∧
      (∀ probe ∈ s.state.supervisor.probes, s.Attached probe ∧
        ∃ t, s.state.monitor.trackers[probe.tracker]? = some t ∧
          t.report s.now ∈ s.state.monitor.reports s.now [1, 2]) ∧
      (s.request ⟨"GET", Endpoint.healthPath⟩ true).answer =
        .response ⟨500, "Pipeline has been idle for 123 seconds"⟩ := by
  intro s
  obtain ⟨hprobes, hattached, -, hplaced, -, -, -, hserved⟩ :=
    reachable_binding separate encoding ManualClock.origin encoderWatch
  have hserver : s.state.supervisor.server = some ⟨"127.0.0.1:8080", [1, 2]⟩ := by
    decide +kernel
  have hadded : addedProbes ((fresh separate encoding ManualClock.origin).run encoderWatch).2 =
      [⟨⟨"encoder", "sink"⟩, 1⟩, ⟨⟨"encoder", "src"⟩, 2⟩] := by
    decide +kernel
  have hsource := hplaced "encoder" "src"
  rw [hadded] at hprobes hsource
  obtain ⟨-, -, hreports, hanswer, -⟩ := hserved _ hserver
  have hverdict : Verdict.ofReports (s.state.monitor.reports s.now [1, 2]) =
      .idle (.ofWord 123000000000) := by
    decide +kernel
  refine ⟨hserver, hprobes, hsource, fun probe hprobe => ?_, ?_⟩
  · have hmem : probe ∈ addedProbes
        ((fresh separate encoding ManualClock.origin).run encoderWatch).2 := by
      rw [hadded, ← hprobes]
      exact hprobe
    exact ⟨hattached probe hmem, hreports probe hmem⟩
  · rw [hanswer, hverdict]
    decide +kernel

end Supervisor.Session

end FlowWatch
