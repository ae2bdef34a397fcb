import FlowWatch.Daemon.Program
import FlowWatch.Proofs.Config.Validation
import FlowWatch.Proofs.Daemon.Precedence
import FlowWatch.Proofs.Supervisor.Outcomes

/-!
# What has to be in order before the first unit

Every entry of the list of points must be the text of a point. With the health
check on there must be a pad at every point, at least one point if every probe has
its own tracker, and an address to listen on. The entries are looked at first, in
their order, and the listener last. So a run that does not get to its loop was
stopped by the first entry that is not in order, or by the start of the server, and
in neither case does it listen anywhere.
-/

namespace FlowWatch

/-! ### The pads of the pipeline -/

namespace Pipeline

/-- The elements and their pads. -/
def pads : List (String × String) :=
  [("src", "src"), ("timestampcvt", "sink"), ("timestampcvt", "src"), ("sink", "sink")]

/-- There are three elements. -/
theorem element?_topology_eq_none_iff {name : String} :
    topology.element? name = none ↔ name ∉ ["src", "timestampcvt", "sink"] :=
  topology.element?_eq_none_iff

/-- There are four pads. -/
theorem isSome_pad?_topology_iff {element pad : String} :
    (topology.pad? element pad).isSome = true ↔ (element, pad) ∈ pads := by
  cases helement : topology.element? element with
  | none =>
    have habsent := element?_topology_eq_none_iff.1 helement
    rw [Topology.pad?, helement]
    simp only [List.mem_cons, List.not_mem_nil, or_false, not_or] at habsent
    simp [pads, habsent]
  | some e =>
    have hknown : element ∈ ["src", "timestampcvt", "sink"] := by
      refine Decidable.of_not_not fun habsent => ?_
      rw [element?_topology_eq_none_iff.2 habsent] at helement
      cases helement
    rw [Topology.pad?, helement, Option.bind_some, e.isSome_find?_iff]
    simp only [List.mem_cons, List.not_mem_nil, or_false] at hknown
    rcases hknown with rfl | rfl | rfl
    all_goals
      cases helement
      simp [pads]

end Pipeline

namespace Daemon

open CommandLine Config Log Supervisor

/-! ### The entries of the list of points -/

/-- An entry is in order: it is the text of a point, and the point has a pad if there
is a health check. -/
def Passes (enabled : Bool) (text : String) : Prop :=
  ∃ point, Point.ofText? text = some point ∧
    (enabled = true → (point.element, point.pad) ∈ Pipeline.pads)

/-- An entry is not in order, and this is the trouble that it causes. -/
inductive Offends (enabled : Bool) (text : String) : Trouble → Prop
  /-- It is not the text of a point. -/
  | unreadable (htext : Point.ofText? text = none) :
      Offends enabled text
        (ofFailure ("Invalid observation point " ++ Text.quote text) (.invalidPoint text))
  /-- There is no such element. -/
  | element {point : Point} (htext : Point.ofText? text = some point) (henabled : enabled = true)
      (helement : point.element ∉ ["src", "timestampcvt", "sink"]) :
      Offends enabled text
        (ofFailure ("Failed to add probe at " ++ text) (.elementNotFound point.element))
  /-- The element has no such pad. -/
  | pad {point : Point} (htext : Point.ofText? text = some point) (henabled : enabled = true)
      (helement : point.element ∈ ["src", "timestampcvt", "sink"])
      (hpad : (point.element, point.pad) ∉ Pipeline.pads) :
      Offends enabled text
        (ofFailure ("Failed to add probe at " ++ text) (.padNotFound point.element point.pad))

/-- Every entry is in order or is not. -/
theorem passes_or_offends (enabled : Bool) (text : String) :
    Passes enabled text ∨ ∃ trouble, Offends enabled text trouble := by
  cases htext : Point.ofText? text with
  | none => exact .inr ⟨_, .unreadable htext⟩
  | some point =>
    cases henabled : enabled with
    | false => exact .inl ⟨point, htext, nofun⟩
    | true =>
      by_cases hpad : (point.element, point.pad) ∈ Pipeline.pads
      · exact .inl ⟨point, htext, fun _ => hpad⟩
      · by_cases helement : point.element ∈ ["src", "timestampcvt", "sink"]
        · exact .inr ⟨_, .pad htext rfl helement hpad⟩
        · exact .inr ⟨_, .element htext rfl helement⟩

/-- All entries are in order, or there is a first one that is not. -/
theorem all_pass_or_offends (enabled : Bool) (texts : List String) :
    (∀ text ∈ texts, Passes enabled text) ∨
      ∃ before text after trouble, texts = before ++ text :: after ∧
        (∀ earlier ∈ before, Passes enabled earlier) ∧ Offends enabled text trouble := by
  induction texts with
  | nil => exact .inl (by simp)
  | cons first rest ih =>
    obtain hpasses | ⟨trouble, hoffends⟩ := passes_or_offends enabled first
    · obtain hall | ⟨before, text, after, trouble, hrest, hbefore, hoffends⟩ := ih
      · exact .inl (List.forall_mem_cons.2 ⟨hpasses, hall⟩)
      · exact .inr ⟨first :: before, text, after, trouble, congrArg _ hrest,
          List.forall_mem_cons.2 ⟨hpasses, hbefore⟩, hoffends⟩
    · exact .inr ⟨[], first, rest, trouble, rfl, by simp, hoffends⟩

/-! ### Adding the probes -/

/-- Nothing is listened to according to these events. -/
def Unheard (events : List Event) : Prop :=
  ∀ address threshold trackers, Event.listening address threshold trackers ∉ events

/-- Two lists of events are taken together. -/
theorem Unheard.append {early late : List Event} (hearly : Unheard early) (hlate : Unheard late) :
    Unheard (early ++ late) := by
  intro address threshold trackers hmem
  obtain hmem | hmem := List.mem_append.1 hmem
  · exact hearly _ _ _ hmem
  · exact hlate _ _ _ hmem

/-- An assembly before its start: no server runs, a shared tracker is there, the
pipeline has its elements and pads, and no unit was produced. -/
structure Ready (health : HealthSettings) (a : Assembly) : Prop where
  /-- The supervisor has the settings of the run. -/
  settings : a.supervisor.settings = health
  /-- No server runs. -/
  stopped : a.supervisor.server = none
  /-- With shared binding there is the tracker. -/
  equipped : health.enabled = true → health.binding = .shared → a.supervisor.trackers ≠ []
  /-- The pipeline has its elements and pads. -/
  bare : a.pipeline.monitor.topology.bare = Pipeline.topology.bare
  /-- No unit was produced. -/
  unused : a.pipeline.emitted = 0

namespace Ready

variable {health : HealthSettings} {a : Assembly}

/-- Probes can be added where there is a health check. -/
theorem isOpen (h : Ready health a) (henabled : health.enabled = true) : a.state.Open where
  enabled := by rw [← henabled, ← h.settings]; rfl
  stopped := h.stopped
  equipped hbinding := h.equipped henabled (by rw [← hbinding, ← h.settings]; rfl)

/-- An entry in order has its probe added, or is passed over where there is no health
check, and the entries behind it follow. -/
theorem addProbes_cons (h : Ready health a) {text : String} (hpasses : Passes health.enabled text)
    (now : Duration) :
    ∃ after events, Ready health after ∧
      (health.enabled = true → after.supervisor.trackers ≠ []) ∧ Unheard events ∧
      ∀ rest, addProbes now (text :: rest) a =
        ⟨(addProbes now rest after).result, events ++ (addProbes now rest after).events⟩ := by
  obtain ⟨point, htext, hpad⟩ := hpasses
  cases henabled : health.enabled with
  | false =>
    have hadd := State.addProbe_of_disabled (s := a.state)
      (by rw [← henabled, ← h.settings]; rfl) now point
    refine ⟨a, [.probeSkipped point], h, nofun, by simp [Unheard], fun rest => ?_⟩
    simp only [addProbes, Point.ofText, htext, hadd, State.keep]
    rfl
  | true =>
    have hexists : (a.state.monitor.topology.pad? point.element point.pad).isSome = true :=
      (Topology.isSome_pad?_of_bare h.bare _ _).trans
        (Pipeline.isSome_pad?_topology_iff.2 (hpad henabled))
    obtain ⟨state, tracker, hadd, hopen, hsettings, hsome, hbare⟩ :=
      (h.isOpen henabled).addProbe_of_pad hexists now
    refine ⟨a.withState state, [.probeRegistered point], ?_, fun _ => hsome, by simp [Unheard],
      fun rest => ?_⟩
    · exact ⟨hsettings.trans h.settings, hopen.stopped, fun _ _ => hsome, hbare.trans h.bare,
        h.unused⟩
    · simp only [addProbes, Point.ofText, htext, hadd]

/-- Entries in order have their probes added, and the entries behind them follow.
What the first entry leaves is ready again, so the others are added to that. -/
theorem addProbes_append (h : Ready health a) {texts : List String}
    (hpass : ∀ text ∈ texts, Passes health.enabled text) (now : Duration) :
    ∃ after events, Ready health after ∧ (texts = [] → after = a) ∧
      (health.enabled = true → texts ≠ [] → after.supervisor.trackers ≠ []) ∧ Unheard events ∧
      ∀ rest, addProbes now (texts ++ rest) a =
        ⟨(addProbes now rest after).result, events ++ (addProbes now rest after).events⟩ := by
  induction texts generalizing a with
  | nil => exact ⟨a, [], h, fun _ => rfl, fun _ hne => absurd rfl hne, by simp [Unheard],
      fun _ => rfl⟩
  | cons text texts ih =>
    obtain ⟨hfirst, hrest⟩ := List.forall_mem_cons.1 hpass
    obtain ⟨middle, early, hmiddle, hsome, hquiet, hstep⟩ := h.addProbes_cons hfirst now
    obtain ⟨after, late, hafter, hnil, hcons, hsilent, hrun⟩ := ih hmiddle hrest
    refine ⟨after, early ++ late, hafter, nofun, fun henabled _ => ?_, hquiet.append hsilent,
      fun rest => ?_⟩
    · by_cases hempty : texts = []
      · rw [hnil hempty]
        exact hsome henabled
      · exact hcons henabled hempty
    · rw [List.cons_append, hstep, hrun]
      simp only [List.append_assoc]

/-- An entry that is not in order ends the adding of probes. -/
theorem addProbes_of_offends (h : Ready health a) {text : String} {trouble : Trouble}
    (hoffends : Offends health.enabled text trouble) (now : Duration) (rest : List String) :
    addProbes now (text :: rest) a = ⟨.error trouble, []⟩ := by
  have hmissing : ∀ {point failure}, health.enabled = true →
      Pipeline.topology.Missing point failure →
        a.state.addProbe now point = a.state.keep (.error failure) [] :=
    fun henabled hmissing =>
      (h.isOpen henabled).addProbe_of_missing (hmissing.of_bare h.bare.symm) now
  cases hoffends with
  | unreadable htext => simp only [addProbes, Point.ofText, htext]
  | element htext henabled helement =>
    have hadd := hmissing henabled (.element (Pipeline.element?_topology_eq_none_iff.2 helement))
    simp only [addProbes, Point.ofText, htext, hadd, State.keep]
  | @pad point htext henabled helement hpad =>
    have hsome : ∃ e, Pipeline.topology.element? point.element = some e := by
      refine Option.ne_none_iff_exists'.1 fun hnone => ?_
      exact Pipeline.element?_topology_eq_none_iff.1 hnone helement
    obtain ⟨e, he⟩ := hsome
    have hnone : Pipeline.topology.pad? point.element point.pad = none := by
      rw [← Option.not_isSome_iff_eq_none, Pipeline.isSome_pad?_topology_iff]
      exact hpad
    have hadd := hmissing henabled (.pad he hnone)
    simp only [addProbes, Point.ofText, htext, hadd, State.keep]

/-- Without a health check there is nothing to start. -/
theorem startCheck_of_disabled (h : Ready health a) (hdisabled : health.enabled = false)
    (m : Machine) : startCheck m a = ⟨.ok a, [.checkDisabled]⟩ := by
  have hstart := State.start_of_disabled (s := a.state)
    (by rw [← hdisabled, ← h.settings]; rfl) (m.listen a.supervisor.settings.bindAddress)
  simp only [startCheck, hstart, State.keep]
  rfl

/-- Without a tracker the start fails before the machine is asked to listen. -/
theorem startCheck_of_nil (h : Ready health a) (henabled : health.enabled = true)
    (hnone : a.supervisor.trackers = []) (m : Machine) :
    startCheck m a =
      ⟨.error (ofFailure "Failed to start health check server" needsProbe), []⟩ := by
  have hstart := (h.isOpen henabled).start_of_nil hnone
    (m.listen a.supervisor.settings.bindAddress)
  simp only [startCheck, hstart, State.keep]

/-- The start fails if the machine does not let the server listen or run. -/
theorem startCheck_refused (h : Ready health a) (henabled : health.enabled = true)
    (hsome : a.supervisor.trackers ≠ []) {m : Machine} {failure : Failure}
    (hspawned : (m.listen health.bindAddress).spawned health.bindAddress = .error failure) :
    ∃ events, Unheard events ∧ startCheck m a =
      ⟨.error (ofFailure "Failed to start health check server" failure), events⟩ := by
  have haddress : a.state.supervisor.settings.bindAddress = health.bindAddress :=
    congrArg _ h.settings
  have hrefused : (m.listen health.bindAddress).spawned a.state.supervisor.settings.bindAddress =
      .error failure := by
    rw [haddress, hspawned]
  have hstart := (h.isOpen henabled).start_refused hsome hrefused
  refine ⟨if a.supervisor.probes.isEmpty then [.startedWithoutProbes] else [], ?_, ?_⟩
  · intro address threshold trackers
    split <;> simp
  · rw [startCheck, h.settings]
    simp only [hstart, State.keep]
    rfl

/-- Otherwise the server runs, and the pipeline is as before. -/
theorem startCheck_bound (h : Ready health a) (henabled : health.enabled = true)
    (hsome : a.supervisor.trackers ≠ []) {m : Machine} {address : String}
    (hlisten : m.listen health.bindAddress = .bound address) :
    ∃ after events, after.supervisor.isRunning = true ∧ after.pipeline = a.pipeline ∧
      startCheck m a = ⟨.ok after, events⟩ := by
  obtain ⟨events, hstart⟩ := (h.isOpen henabled).start_bound hsome address
  refine ⟨a.withState (a.state.serving address), events, rfl, rfl, ?_⟩
  rw [startCheck, h.settings, hlisten]
  simp only [hstart]

end Ready

/-! ### The whole assembly -/

/-- What has to be in order. -/
structure Admitted (m : Machine) (s : Settings) : Prop where
  /-- All entries are. -/
  entries : ∀ text ∈ s.pipeline.observe, Passes s.healthCheck.enabled text
  /-- A health check with a tracker for each probe has a probe. -/
  probed : s.healthCheck.enabled = true → s.healthCheck.binding = .perProbe →
    s.pipeline.observe ≠ []
  /-- A health check can listen and serve. -/
  bound : s.healthCheck.enabled = true →
    ∃ address, m.listen s.healthCheck.bindAddress = .bound address

/-- What keeps a run from its loop, and the trouble that is reported for it. -/
inductive Blocked (m : Machine) (s : Settings) : Trouble → Prop
  /-- An entry is not in order, and all before it are. -/
  | entry {before after : List String} {text : String} {trouble : Trouble}
      (hlist : s.pipeline.observe = before ++ text :: after)
      (hbefore : ∀ earlier ∈ before, Passes s.healthCheck.enabled earlier)
      (hoffends : Offends s.healthCheck.enabled text trouble) : Blocked m s trouble
  /-- There is no entry, but each probe would have its own tracker. -/
  | unprobed (henabled : s.healthCheck.enabled = true)
      (hbinding : s.healthCheck.binding = .perProbe) (hnone : s.pipeline.observe = []) :
      Blocked m s (ofFailure "Failed to start health check server" needsProbe)
  /-- All entries are in order, and the machine does not let the server listen, or has
  no runtime or no thread for it. -/
  | refused {failure : Failure} (henabled : s.healthCheck.enabled = true)
      (hentries : ∀ text ∈ s.pipeline.observe, Passes s.healthCheck.enabled text)
      (hprobed : s.healthCheck.binding = .perProbe → s.pipeline.observe ≠ [])
      (hspawned : (m.listen s.healthCheck.bindAddress).spawned s.healthCheck.bindAddress =
        .error failure) :
      Blocked m s (ofFailure "Failed to start health check server" failure)

/-- A run is admitted or blocked. -/
theorem admitted_or_blocked (m : Machine) (s : Settings) :
    Admitted m s ∨ ∃ trouble, Blocked m s trouble := by
  obtain hentries | ⟨before, text, after, trouble, hlist, hbefore, hoffends⟩ :=
    all_pass_or_offends s.healthCheck.enabled s.pipeline.observe
  · cases henabled : s.healthCheck.enabled with
    | false => exact .inl ⟨hentries, by simp [henabled], by simp [henabled]⟩
    | true =>
      by_cases hunprobed : s.healthCheck.binding = .perProbe ∧ s.pipeline.observe = []
      · exact .inr ⟨_, .unprobed henabled hunprobed.1 hunprobed.2⟩
      · have hprobed : s.healthCheck.binding = .perProbe → s.pipeline.observe ≠ [] :=
          fun hbinding hnone => hunprobed ⟨hbinding, hnone⟩
        cases hspawned :
            (m.listen s.healthCheck.bindAddress).spawned s.healthCheck.bindAddress with
        | error failure => exact .inr ⟨_, .refused henabled hentries hprobed hspawned⟩
        | ok address =>
          have hlisten := BindOutcome.spawned_eq_ok_iff.1 hspawned
          exact .inl ⟨hentries, fun _ => hprobed, fun _ => ⟨address, hlisten⟩⟩
  · exact .inr ⟨trouble, .entry hlist hbefore hoffends⟩

/-- What the machine says to an attempt to listen does not matter to a run that is
blocked although it could listen. -/
theorem Blocked.of_bound {m : Machine} {s : Settings} {trouble : Trouble} {address : String}
    (h : Blocked m s trouble) (hlisten : m.listen s.healthCheck.bindAddress = .bound address)
    (m' : Machine) : Blocked m' s trouble := by
  cases h with
  | entry hlist hbefore hoffends => exact .entry hlist hbefore hoffends
  | unprobed henabled hbinding hnone => exact .unprobed henabled hbinding hnone
  | refused henabled hentries hprobed hspawned =>
    rw [hlisten] at hspawned
    cases hspawned

/-- The pipeline of valid settings can be made. -/
theorem make_of_valid {s : Settings} (hvalid : validate s = .ok ()) :
    ∃ pipeline, Pipeline.make s.pipeline = .ok pipeline ∧
      pipeline.monitor = ⟨Pipeline.topology, []⟩ ∧ pipeline.emitted = 0 := by
  obtain ⟨-, -, -, start, hstart⟩ :=
    validatePipeline_eq_ok_iff.1 (validate_eq_ok_iff.1 hvalid).2
  exact ⟨_, by rw [Pipeline.make, hstart]; rfl, rfl, rfl⟩

/-- Probes can be added to what is made at first. -/
theorem ready_unprobed (health : HealthSettings) {pipeline : Pipeline}
    (hmonitor : pipeline.monitor = ⟨Pipeline.topology, []⟩) (hunused : pipeline.emitted = 0)
    (now : Duration) : Ready health (unprobed health pipeline now) := by
  unfold unprobed Supervisor.make
  rw [hmonitor]
  split
  · exact ⟨rfl, rfl, fun _ _ => List.cons_ne_nil _ _, rfl, hunused⟩
  · next hnone =>
    refine ⟨rfl, rfl, fun henabled hbinding => ?_, rfl, hunused⟩
    simp [henabled, hbinding] at hnone

/-- With a tracker for each probe there is no tracker at first. -/
theorem trackers_unprobed {health : HealthSettings} (hbinding : health.binding = .perProbe)
    (pipeline : Pipeline) (now : Duration) :
    (unprobed health pipeline now).supervisor.trackers = [] := by
  simp [unprobed, Supervisor.make, hbinding]

section Assembling

variable {m : Machine} {now : Duration} {s : Settings} {pipeline : Pipeline}

/-- Trouble with an entry is the trouble of the assembly. -/
theorem assemble_of_error (hmake : Pipeline.make s.pipeline = .ok pipeline) {trouble : Trouble}
    {events : List Event}
    (hadd : addProbes now s.pipeline.observe (unprobed s.healthCheck pipeline now) =
      ⟨.error trouble, events⟩) : assemble m now s = ⟨.error trouble, events⟩ := by
  simp only [assemble, equip, hmake, hadd]

/-- The start follows the probes. -/
theorem assemble_of_ok (hmake : Pipeline.make s.pipeline = .ok pipeline) {after : Assembly}
    {events : List Event}
    (hadd : addProbes now s.pipeline.observe (unprobed s.healthCheck pipeline now) =
      ⟨.ok after, events⟩) :
    assemble m now s = ⟨(startCheck m after).result, events ++ (startCheck m after).events⟩ := by
  simp only [assemble, equip, hmake, hadd]

/-- If all entries are in order, the start decides. Without an entry the only tracker
is the one that shared binding starts with. -/
theorem assemble_of_entries (hvalid : validate s = .ok ())
    (hentries : ∀ text ∈ s.pipeline.observe, Passes s.healthCheck.enabled text)
    (m : Machine) (now : Duration) :
    ∃ after events, Ready s.healthCheck after ∧
      (s.healthCheck.binding = .perProbe → s.pipeline.observe = [] →
        after.supervisor.trackers = []) ∧
      (s.healthCheck.enabled = true →
        (s.healthCheck.binding = .perProbe → s.pipeline.observe ≠ []) →
          after.supervisor.trackers ≠ []) ∧ Unheard events ∧
      assemble m now s =
        ⟨(startCheck m after).result, events ++ (startCheck m after).events⟩ := by
  obtain ⟨pipeline, hmake, hmonitor, hunused⟩ := make_of_valid hvalid
  have hready := ready_unprobed s.healthCheck hmonitor hunused now
  obtain ⟨after, events, hafter, hnil, hcons, hquiet, hrun⟩ :=
    hready.addProbes_append hentries now
  have hadd : addProbes now s.pipeline.observe (unprobed s.healthCheck pipeline now) =
      ⟨.ok after, events⟩ := by
    simpa only [List.append_nil, addProbes] using hrun []
  refine ⟨after, events, hafter, ?_, ?_, hquiet, assemble_of_ok hmake hadd⟩
  · intro hbinding hempty
    rw [hnil hempty]
    exact trackers_unprobed hbinding pipeline now
  · intro henabled hprobed
    by_cases hempty : s.pipeline.observe = []
    · cases hbinding : s.healthCheck.binding with
      | perProbe => exact absurd hempty (hprobed hbinding)
      | shared =>
        rw [hnil hempty]
        exact hready.equipped henabled hbinding
    · exact hcons henabled hempty

/-- What is in order is assembled, and the server runs if there is a health check. -/
theorem assemble_of_admitted (hvalid : validate s = .ok ()) (h : Admitted m s) (now : Duration) :
    ∃ assembly events, assemble m now s = ⟨.ok assembly, events⟩ ∧
      assembly.pipeline.emitted = 0 ∧
        assembly.supervisor.isRunning = s.healthCheck.enabled := by
  obtain ⟨after, early, hready, -, hsome, -, hassemble⟩ :=
    assemble_of_entries hvalid h.entries m now
  cases henabled : s.healthCheck.enabled with
  | false =>
    have hstopped : after.supervisor.isRunning = false := by
      rw [isRunning, hready.stopped]
      rfl
    rw [hready.startCheck_of_disabled henabled] at hassemble
    exact ⟨after, _, hassemble, hready.unused, hstopped⟩
  | true =>
    obtain ⟨address, hlisten⟩ := h.bound henabled
    obtain ⟨started, late, hrunning, hpipeline, hstart⟩ :=
      hready.startCheck_bound henabled (hsome henabled (h.probed henabled)) hlisten
    rw [hstart] at hassemble
    exact ⟨started, _, hassemble, by rw [hpipeline]; exact hready.unused, hrunning⟩

/-- What blocks a run is the trouble of its assembly, and nothing was listened to. -/
theorem assemble_of_blocked (hvalid : validate s = .ok ()) {trouble : Trouble}
    (h : Blocked m s trouble) (now : Duration) :
    ∃ events, assemble m now s = ⟨.error trouble, events⟩ ∧ Unheard events := by
  cases h with
  | @entry before after text trouble hlist hbefore hoffends =>
    obtain ⟨pipeline, hmake, hmonitor, hunused⟩ := make_of_valid hvalid
    have hready := ready_unprobed s.healthCheck hmonitor hunused now
    obtain ⟨middle, events, hmiddle, -, -, hquiet, hrun⟩ := hready.addProbes_append hbefore now
    have hadd : addProbes now s.pipeline.observe (unprobed s.healthCheck pipeline now) =
        ⟨.error trouble, events⟩ := by
      rw [hlist, hrun, hmiddle.addProbes_of_offends hoffends]
      simp only [List.append_nil]
    exact ⟨events, assemble_of_error hmake hadd, hquiet⟩
  | unprobed henabled hbinding hnone =>
    have hentries : ∀ text ∈ s.pipeline.observe, Passes s.healthCheck.enabled text := by
      simp [hnone]
    obtain ⟨after, events, hready, hempty, -, hquiet, hassemble⟩ :=
      assemble_of_entries hvalid hentries m now
    rw [hready.startCheck_of_nil henabled (hempty hbinding hnone), List.append_nil] at hassemble
    exact ⟨events, hassemble, hquiet⟩
  | refused henabled hentries hprobed hspawned =>
    obtain ⟨after, early, hready, -, hsome, hquiet, hassemble⟩ :=
      assemble_of_entries hvalid hentries m now
    obtain ⟨late, hlate, hstart⟩ :=
      hready.startCheck_refused henabled (hsome henabled hprobed) hspawned
    rw [hstart] at hassemble
    exact ⟨_, hassemble, hquiet.append hlate⟩

/-- The assembly fails with what blocks the run. -/
theorem assemble_eq_error_iff (hvalid : validate s = .ok ()) {trouble : Trouble} :
    (assemble m now s).result = .error trouble ↔ Blocked m s trouble := by
  constructor
  · intro h
    obtain hadmitted | ⟨first, hblocked⟩ := admitted_or_blocked m s
    · obtain ⟨assembly, events, hassemble, -, -⟩ := assemble_of_admitted hvalid hadmitted now
      rw [hassemble] at h
      cases h
    · obtain ⟨events, hassemble, -⟩ := assemble_of_blocked hvalid hblocked now
      rw [hassemble] at h
      cases h
      exact hblocked
  · intro h
    obtain ⟨events, hassemble, -⟩ := assemble_of_blocked hvalid h now
    rw [hassemble]

/-- The assembly succeeds only for a run that is admitted. -/
theorem admitted_of_ok (hvalid : validate s = .ok ()) {assembly : Assembly}
    (h : (assemble m now s).result = .ok assembly) : Admitted m s := by
  obtain hadmitted | ⟨trouble, hblocked⟩ := admitted_or_blocked m s
  · exact hadmitted
  · rw [(assemble_eq_error_iff hvalid).2 hblocked] at h
    cases h

end Assembling

/-! ### Whole runs -/

section Runs

variable {m : Machine} {now : Duration} {s : Settings} {a : Arguments}

/-- What blocks a run is reported. -/
theorem Blocked.exit_eq {trouble : Trouble} (h : Blocked m s trouble)
    (shown complaints : List String) : (trouble.outcome shown complaints).exit = 1 := by
  cases h with
  | entry _ _ hoffends => cases hoffends <;> rfl
  | unprobed => rfl
  | refused => rfl

/-- A run whose assembly fails is over whatever happens afterwards. -/
theorem runWith_of_error (hresolve : (resolve m a).result = .ok s) {trouble : Trouble}
    (hassemble : (assemble m now s).result = .error trouble) :
    ∃ shown complaints, ∀ tick bound,
      runWith ⟨m, now, tick⟩ bound a = some (trouble.outcome shown complaints) := by
  let chosen := Filter.choose (m.variableValue Filter.variableName) a.level
  refine ⟨chosen.1.texts (prepare m a).events ++ chosen.1.texts (assemble m now s).events,
    chosen.2.map Filter.Ignored.text, fun tick bound => ?_⟩
  simp only [runWith, prepare, hresolve, hassemble, chosen]

/-- A run whose assembly succeeds is not over before its first turn. -/
theorem runWith_of_ok (hresolve : (resolve m a).result = .ok s) {assembly : Assembly}
    (hassemble : (assemble m now s).result = .ok assembly) (tick : Nat → List String → Tick) :
    runWith ⟨m, now, tick⟩ 0 a = none := by
  simp only [runWith, prepare, hresolve, hassemble, turns]
  rfl

end Runs

/-- A run over valid settings gets to its loop exactly when everything is in order.
Then no unit was produced yet, and the server runs if there is a health check. If
something is not in order, the assembly fails with the first trouble there is. Then
nothing is listened to: the machine refused, or closed the listener again for want of
what a server needs, or what it would have said does not matter. The run ends with this
trouble before any turn, whatever the turns would have been. -/
theorem loop_reached_iff (m : Machine) (now : Duration) (s : Settings)
    (hvalid : validate s = .ok ()) :
    ((∃ assembly, (assemble m now s).result = .ok assembly) ↔ Admitted m s) ∧
    (∀ trouble, (assemble m now s).result = .error trouble ↔ Blocked m s trouble) ∧
    (∀ assembly, (assemble m now s).result = .ok assembly →
      assembly.pipeline.emitted = 0 ∧
        assembly.supervisor.isRunning = s.healthCheck.enabled ∧
        ∀ a, (resolve m a).result = .ok s → ∀ tick, runWith ⟨m, now, tick⟩ 0 a = none) ∧
    ∀ trouble, (assemble m now s).result = .error trouble →
      Unheard (assemble m now s).events ∧
        (∀ address, m.listen s.healthCheck.bindAddress = .bound address →
          ∀ m', (assemble m' now s).result = .error trouble) ∧
        ∀ a, (resolve m a).result = .ok s → ∃ shown complaints,
          (trouble.outcome shown complaints).exit = 1 ∧
            ∀ tick bound, runWith ⟨m, now, tick⟩ bound a =
              some (trouble.outcome shown complaints) := by
  refine ⟨⟨fun ⟨assembly, h⟩ => admitted_of_ok hvalid h, fun h => ?_⟩,
    fun trouble => assemble_eq_error_iff hvalid, fun assembly h => ?_, fun trouble h => ?_⟩
  · obtain ⟨assembly, events, hassemble, -, -⟩ := assemble_of_admitted hvalid h now
    exact ⟨assembly, by rw [hassemble]⟩
  · obtain ⟨made, events, hassemble, hunused, hrunning⟩ :=
      assemble_of_admitted hvalid (admitted_of_ok hvalid h) now
    obtain rfl : made = assembly := by
      rw [hassemble] at h
      exact Except.ok.inj h
    exact ⟨hunused, hrunning, fun a hresolve tick => runWith_of_ok hresolve h tick⟩
  · have hblocked : Blocked m s trouble := (assemble_eq_error_iff hvalid).1 h
    obtain ⟨events, hassemble, hquiet⟩ := assemble_of_blocked hvalid hblocked now
    refine ⟨by rw [hassemble]; exact hquiet, fun address hlisten m' => ?_, fun a hresolve => ?_⟩
    · exact (assemble_eq_error_iff hvalid).2 (hblocked.of_bound hlisten m')
    · obtain ⟨shown, complaints, hrun⟩ := runWith_of_error hresolve h
      exact ⟨shown, complaints, hblocked.exit_eq shown complaints, hrun⟩

/-- Settings with a tracker for each probe. -/
def watchedSettings (points : List String) : Settings where
  healthCheck := { HealthSettings.default with enabled := true, binding := .perProbe }
  pipeline := { PipelineSettings.default with observe := points }

/-- A run with two points that have a pad, and a run whose second and third points are
not in order, which fails for the second one. -/
theorem loop_reached_two_pads :
    (∃ assembly, (assemble (localMachine []) .zero (watchedSettings ["src:src", "sink"])).result =
      .ok assembly) ∧
    (assemble (localMachine []) .zero (watchedSettings ["sink", "nowhere", "a:b:c"])).result =
      .error (ofFailure "Failed to add probe at nowhere" (.elementNotFound "nowhere")) := by
  have hpasses : ∀ {text : String} (point : Point), Point.ofText? text = some point →
      (point.element, point.pad) ∈ Pipeline.pads → Passes true text :=
    fun point htext hpad => ⟨point, htext, fun _ => hpad⟩
  have hsink : Passes true "sink" := hpasses ⟨"sink", "sink"⟩ (by decide +kernel) (by decide)
  have hsource : Passes true "src:src" := hpasses ⟨"src", "src"⟩ (by decide +kernel) (by decide)
  have hnowhere : Point.ofText? "nowhere" = some ⟨"nowhere", "sink"⟩ := by decide +kernel
  have hadmitted : Admitted (localMachine []) (watchedSettings ["src:src", "sink"]) :=
    ⟨List.forall_mem_cons.2 ⟨hsource, List.forall_mem_singleton.2 hsink⟩,
      fun _ _ => List.cons_ne_nil _ _, fun _ => ⟨_, rfl⟩⟩
  have hblocked : Blocked (localMachine []) (watchedSettings ["sink", "nowhere", "a:b:c"])
      (ofFailure "Failed to add probe at nowhere" (.elementNotFound "nowhere")) :=
    .entry rfl (List.forall_mem_singleton.2 hsink) (.element hnowhere rfl (by decide))
  exact ⟨(loop_reached_iff _ .zero _ (eq_ok_of_toOption (by decide +kernel))).1.2 hadmitted,
    ((loop_reached_iff _ .zero _ (eq_ok_of_toOption (by decide +kernel))).2.1 _).2 hblocked⟩

end Daemon

end FlowWatch
