import FlowWatch.Proofs.Supervisor.Placement
import FlowWatch.Proofs.Supervisor.Record

/-!
# The trackers agree with the history

As long as the clock does not wrap and its readings fit in a signed word, every
tracker of the supervisor remembers the account that the history gives of it. The
probes on the pads are those that the monitor had and those that the supervisor
added; the former feed none of its trackers.
-/

namespace FlowWatch.Supervisor

/-- An advance that takes the clock past the end of its word. -/
def Operation.wraps (clock : ManualClock) : Operation → Bool
  | .advance step => 18446744073709551616 ≤ clock.elapsed.nanos + step.nanos
  | _ => false

/-- Of values that are numbered in order, only the one at a place has its number.
Behind the first value all numbers are greater. -/
theorem countP_numbered {α : Type} (number : α → Nat) (test : α → Bool) {xs : List α}
    {first i : Nat} {x : α} (hnumbers : xs.map number = List.range' first xs.length)
    (hx : xs[i]? = some x) :
    (xs.countP fun y => number y = first + i && test y) = if test x = true then 1 else 0 := by
  induction xs generalizing first i with
  | nil => simp at hx
  | cons y rest ih =>
    rw [List.map_cons, List.length_cons, List.range'_succ] at hnumbers
    obtain ⟨hy, hrest⟩ := List.cons.inj hnumbers
    rw [List.countP_cons, hy]
    cases i with
    | zero =>
      obtain rfl := Option.some.inj hx
      have hnone : (rest.countP fun z => number z = first + 0 && test z) = 0 := by
        rw [List.countP_eq_zero]
        intro z hz hsame
        have hmem : number z ∈ List.range' (first + 1) rest.length :=
          hrest ▸ List.mem_map_of_mem hz
        have hle := (List.mem_range'_1.1 hmem).1
        have heq := of_decide_eq_true (Bool.and_eq_true_iff.1 hsame).1
        omega
      rw [hnone]
      simp
    | succ j =>
      have hnext : first + (j + 1) = first + 1 + j := by omega
      have hhead : decide (first = first + 1 + j) = false := by simp; omega
      rw [hnext, ih hrest hx, hhead]
      simp

namespace Session

/-- Throughout a run the readings of the clock fit in a signed word, and no
advance wraps. -/
def Steady (s : Session) : List Operation → Prop
  | [] => s.now ≤ Duration.greatestSigned
  | operation :: rest => s.now ≤ Duration.greatestSigned ∧ operation.wraps s.clock = false ∧
    (s.step operation).session.Steady rest

/-- Steadiness is decided along the run. -/
instance decideSteady (s : Session) : (operations : List Operation) →
    Decidable (s.Steady operations)
  | [] => inferInstanceAs (Decidable (s.now ≤ Duration.greatestSigned))
  | operation :: rest =>
    have := decideSteady (s.step operation).session rest
    inferInstanceAs (Decidable (_ ∧ _ ∧ _))

/-- A steady run starts within the signed word. -/
theorem Steady.now_le {s : Session} {operations : List Operation} (h : s.Steady operations) :
    s.now ≤ Duration.greatestSigned := by
  cases operations with
  | nil => exact h
  | cons operation rest => exact h.1

/-- A steady run ends within the signed word. -/
theorem Steady.now_run_le {s : Session} {operations : List Operation} (h : s.Steady operations) :
    (s.run operations).1.now ≤ Duration.greatestSigned := by
  induction operations generalizing s with
  | nil => exact h
  | cons operation rest ih => exact ih h.2.2

/-- A request does not move the clock. -/
theorem request_clock (s : Session) (request : Endpoint.Request) (reaches : Bool) :
    (s.request request reaches).session.clock = s.clock := by
  unfold Session.request
  split
  · rfl
  · split
    · rfl
    · cases s.state.serve s.now request <;> rfl

/-- An operation that does not wrap the clock does not take it back. -/
theorem now_le_step {s : Session} {operation : Operation} (h : operation.wraps s.clock = false) :
    s.now ≤ (s.step operation).session.now := by
  cases operation with
  | addProbe text =>
    have hclock : (s.addProbe text).session.clock = s.clock := by
      unfold addProbe
      split <;> rfl
    show s.now ≤ (s.addProbe text).session.clock.elapsed
    rw [hclock]
    exact Nat.le_refl _
  | request request reaches =>
    show s.now ≤ (s.request request reaches).session.clock.elapsed
    rw [request_clock]
    exact Nat.le_refl _
  | advance step =>
    have hfits : s.clock.elapsed.nanos + step.nanos < 18446744073709551616 := by
      have hnot := of_decide_eq_false h
      omega
    show s.clock.elapsed.nanos ≤ (s.clock.advance step).elapsed.nanos
    rw [s.clock.advance_nanos step hfits]
    exact Nat.le_add_right _ _
  | set target => exact s.clock.elapsed_le_set target
  | start outcome => exact Nat.le_refl _
  | stop => exact Nat.le_refl _
  | debug => exact Nat.le_refl _
  | push element pad => exact Nat.le_refl _
  | observers element pad => exact Nat.le_refl _

/-- How a session agrees with what was written down of it. The monitor had some
trackers and probes before; with shared binding the tracker was made at a given
reading. -/
structure Agrees (settings : HealthSettings) (base : Monitor) (made : Duration) (s : Session)
    (history : List Occurrence) : Prop where
  /-- Trackers, probes and server agree with each other. -/
  linked : s.Linked settings base.trackers.length
  /-- The probes are those that were written down. -/
  points : s.state.supervisor.probes.map (·.point) = (watches history).map (·.point)
  /-- The session is on the monitor that was there before. -/
  rooted : s.Rooted base
  /-- What was written down is not later than now. -/
  past : ∀ a ∈ accounts settings.binding made (watches history),
    a.made ≤ s.now ∧ ∀ r ∈ a.feeds, r ≤ s.now
  /-- The trackers remember their accounts, in order. -/
  remembered : ∀ i a, (accounts settings.binding made (watches history))[i]? = some a →
    ∃ t, s.state.monitor.trackers[base.trackers.length + i]? = some t ∧
      t.Remembers settings.idleThreshold a

/-- Of the probes at a point only those that the supervisor added feed its
trackers, since the others feed trackers below its first. -/
theorem Rooted.countP_probesAt {base : Monitor} {s : Session} (h : s.Rooted base)
    (hclosed : base.Closed) (element pad : String) (i : Nat) :
    (s.state.monitor.topology.probesAt element pad).countP
        (·.tracker = base.trackers.length + i) =
      s.state.supervisor.probes.countP fun probe =>
        probe.tracker = base.trackers.length + i && probe.point = ⟨element, pad⟩ := by
  have hnone : (base.topology.probesAt element pad).countP
      (·.tracker = base.trackers.length + i) = 0 := by
    rw [List.countP_eq_zero]
    intro probe hprobe hsame
    have hlt := hclosed.tracker_lt hprobe
    have heq := of_decide_eq_true hsame
    omega
  rw [h.placed, List.countP_append, hnone, Nat.zero_add, List.countP_filter]

section Changes

variable {settings : HealthSettings} {base : Monitor} {made : Duration} {s s' : Session}
  {history : List Occurrence}

/-- A new session agrees with an empty history. -/
theorem agrees_fresh (henabled : settings.enabled = true)
    (hthreshold : settings.idleThreshold ≤ Duration.greatestSigned) (clock : ManualClock)
    (hnow : clock.elapsed ≤ Duration.greatestSigned) :
    (fresh settings base clock).Agrees settings base clock.elapsed [] := by
  have hlinked := linked_fresh settings base clock
  cases hbinding : settings.binding with
  | shared =>
    have hstate : (fresh settings base clock).state =
        ⟨⟨settings, [base.trackers.length], [], none⟩,
          base.addTracker settings.idleThreshold clock.elapsed⟩ := by
      simp [fresh, Supervisor.make, henabled, hbinding]
    refine ⟨hlinked, ?_, rooted_fresh settings base clock, ?_, ?_⟩
    · rw [hstate]
      rfl
    · rw [hbinding]
      intro a ha
      obtain rfl := List.mem_singleton.1 ha
      exact ⟨Nat.le_refl _, fun r hr => absurd hr List.not_mem_nil⟩
    · rw [hbinding, hstate]
      intro i a ha
      obtain ⟨rfl, rfl⟩ : i = 0 ∧ a = ⟨clock.elapsed, []⟩ := by
        simpa [accounts, watches, List.getElem?_singleton, eq_comm] using ha
      exact ⟨_, List.getElem?_concat_length, Tracker.remembers_fresh hthreshold hnow⟩
  | perProbe =>
    have hstate : (fresh settings base clock).state = ⟨⟨settings, [], [], none⟩, base⟩ := by
      simp [fresh, Supervisor.make, hbinding]
    refine ⟨hlinked, ?_, rooted_fresh settings base clock, ?_, ?_⟩
    · rw [hstate]
      rfl
    · rw [hbinding]
      intro a ha
      exact absurd ha List.not_mem_nil
    · rw [hbinding]
      intro i a ha
      simp [accounts, watches] at ha

/-- The trackers of the supervisor are numbered in the order of their accounts. -/
theorem Agrees.trackers_eq (h : s.Agrees settings base made history)
    (henabled : settings.enabled = true) :
    s.state.supervisor.trackers = List.range' base.trackers.length
      (accounts settings.binding made (watches history)).length := by
  cases hbinding : settings.binding with
  | shared => exact (h.linked.shared henabled hbinding).1
  | perProbe =>
    have hprobes := congrArg List.length h.points
    rw [List.length_map, List.length_map] at hprobes
    rw [(h.linked.perProbe henabled hbinding).1, hprobes, accounts, List.length_map]

/-- What is not later than an earlier reading is not later than a later one. -/
theorem Agrees.past_mono (h : s.Agrees settings base made history) (hnow : s.now ≤ s'.now) :
    ∀ a ∈ accounts settings.binding made (watches history),
      a.made ≤ s'.now ∧ ∀ r ∈ a.feeds, r ≤ s'.now := by
  intro a ha
  obtain ⟨hmade, hfeeds⟩ := h.past a ha
  exact ⟨Nat.le_trans hmade hnow, fun r hr => Nat.le_trans (hfeeds r hr) hnow⟩

/-- A change of neither probes nor pads, by which no tracker forgets anything,
keeps the agreement. -/
theorem Agrees.of_same (h : s.Agrees settings base made history)
    (hlinked : s'.Linked settings base.trackers.length) (hrooted : s'.Rooted base)
    (hnow : s.now ≤ s'.now)
    (hprobes : s'.state.supervisor.probes = s.state.supervisor.probes)
    (htrackers : ∀ (k : Nat) (t : Tracker), s.state.monitor.trackers[k]? = some t →
      ∃ t', s'.state.monitor.trackers[k]? = some t' ∧
        ∀ a, t.Remembers settings.idleThreshold a → t'.Remembers settings.idleThreshold a) :
    s'.Agrees settings base made history := by
  refine ⟨hlinked, ?_, hrooted, h.past_mono hnow, fun i a ha => ?_⟩
  · rw [hprobes, h.points]
  · obtain ⟨t, ht, hremembers⟩ := h.remembered i a ha
    obtain ⟨t', ht', hkeeps⟩ := htrackers _ t ht
    exact ⟨t', ht', hkeeps a hremembers⟩

/-- The points of the probes after one more was attached. -/
theorem Agrees.points_attached (h : s.Agrees settings base made history) (prepared : Monitor)
    (trackers : List Nat) (probe : Probe) :
    (s.state.attached prepared trackers probe).supervisor.probes.map (·.point) =
      (watches (history ++ [.probed probe.point s.now])).map (·.point) := by
  show (s.state.supervisor.probes ++ [probe]).map _ = _
  rw [watches_append_probed, List.map_append, List.map_append, h.points]
  rfl

/-- A probe on the shared tracker keeps the agreement: it has seen nothing. -/
theorem Agrees.joined (h : s.Agrees settings base made history) {point : Point} {tracker : Nat}
    (hlinked : (s.withState (s.state.attached s.state.monitor s.state.supervisor.trackers
      ⟨point, tracker⟩)).Linked settings base.trackers.length)
    (hbinding : settings.binding = .shared)
    (hpad : (s.state.monitor.topology.pad? point.element point.pad).isSome = true) :
    (s.withState (s.state.attached s.state.monitor s.state.supervisor.trackers
      ⟨point, tracker⟩)).Agrees settings base made (history ++ [.probed point s.now]) := by
  have hpoints :=
    h.points_attached s.state.monitor s.state.supervisor.trackers ⟨point, tracker⟩
  have hrooted := h.rooted.attached s.state.monitor rfl s.state.supervisor.trackers
    ⟨point, tracker⟩ hpad
  have hsame : accounts settings.binding made (watches (history ++ [.probed point s.now])) =
      accounts settings.binding made (watches history) := by
    rw [hbinding, watches_append_probed]
    simp only [accounts, List.flatMap_append, List.flatMap_cons, List.flatMap_nil, List.append_nil]
  refine ⟨hlinked, hpoints, hrooted, ?_, ?_⟩
  · rw [hsame]
    exact h.past
  · rw [hsame]
    exact h.remembered

/-- A probe with a tracker made for it keeps the agreement: both are new. -/
theorem Agrees.added (h : s.Agrees settings base made history) {point : Point}
    (hlinked : (s.withState (s.state.attached
      (s.state.monitor.addTracker s.state.supervisor.settings.idleThreshold s.now)
      (s.state.supervisor.trackers ++ [s.state.monitor.trackers.length])
      ⟨point, s.state.monitor.trackers.length⟩)).Linked settings base.trackers.length)
    (henabled : settings.enabled = true) (hbinding : settings.binding = .perProbe)
    (hthreshold : settings.idleThreshold ≤ Duration.greatestSigned)
    (hnow : s.now ≤ Duration.greatestSigned)
    (hpad : (s.state.monitor.topology.pad? point.element point.pad).isSome = true) :
    (s.withState (s.state.attached
      (s.state.monitor.addTracker s.state.supervisor.settings.idleThreshold s.now)
      (s.state.supervisor.trackers ++ [s.state.monitor.trackers.length])
      ⟨point, s.state.monitor.trackers.length⟩)).Agrees settings base made
        (history ++ [.probed point s.now]) := by
  have hpoints := h.points_attached
    (s.state.monitor.addTracker s.state.supervisor.settings.idleThreshold s.now)
    (s.state.supervisor.trackers ++ [s.state.monitor.trackers.length])
    ⟨point, s.state.monitor.trackers.length⟩
  have hrooted := h.rooted.attached
    (s.state.monitor.addTracker s.state.supervisor.settings.idleThreshold s.now) rfl
    (s.state.supervisor.trackers ++ [s.state.monitor.trackers.length])
    ⟨point, s.state.monitor.trackers.length⟩ hpad
  have hmore : accounts settings.binding made (watches (history ++ [.probed point s.now])) =
      accounts settings.binding made (watches history) ++ [⟨s.now, []⟩] := by
    rw [hbinding, watches_append_probed]
    exact List.map_append
  have hlength : s.state.supervisor.trackers.length =
      (accounts settings.binding made (watches history)).length := by
    rw [h.trackers_eq henabled, List.length_range']
  have hstored := h.linked.stored
  refine ⟨hlinked, hpoints, hrooted, ?_, ?_⟩
  · rw [hmore, List.forall_mem_append, List.forall_mem_singleton]
    exact ⟨h.past, Nat.le_refl _, fun r hr => absurd hr List.not_mem_nil⟩
  · rw [hmore]
    intro i a ha
    show ∃ t, (s.state.monitor.trackers ++ [Tracker.fresh _ _])[base.trackers.length + i]? =
      some t ∧ _
    by_cases hlast : i < (accounts settings.binding made (watches history)).length
    · rw [List.getElem?_append_left hlast] at ha
      obtain ⟨t, ht, hremembers⟩ := h.remembered i a ha
      refine ⟨t, ?_, hremembers⟩
      rw [List.getElem?_append_left (by omega)]
      exact ht
    · obtain ⟨hin, -⟩ := List.getElem?_eq_some_iff.1 ha
      rw [List.length_append, List.length_singleton] at hin
      have hi : i = (accounts settings.binding made (watches history)).length := by omega
      rw [hi, List.getElem?_concat_length] at ha
      obtain rfl := Option.some.inj ha
      have hplace : base.trackers.length + i = s.state.monitor.trackers.length := by omega
      rw [hplace, List.getElem?_concat_length, h.linked.configured]
      exact ⟨_, rfl, Tracker.remembers_fresh hthreshold hnow⟩

/-- Looking at trackers keeps the agreement. -/
theorem Agrees.looked (h : s.Agrees settings base made history) (watched : List Nat)
    (hlinked : (s.withMonitor (s.state.monitor.recordAll s.now watched)).Linked settings
      base.trackers.length) :
    (s.withMonitor (s.state.monitor.recordAll s.now watched)).Agrees settings base made
      history := by
  have hrooted : (s.withMonitor (s.state.monitor.recordAll s.now watched)).Rooted base :=
    h.rooted.of_same rfl (Monitor.recordAll_topology _ _ _)
  refine h.of_same hlinked hrooted (Nat.le_refl _) rfl ?_
  intro k t ht
  refine ⟨if k ∈ watched then t.recordIdle s.now else t, ?_, fun a hremembers => ?_⟩
  · show (s.state.monitor.recordAll s.now watched).trackers[k]? = _
    rw [Monitor.recordAll_getElem?, ht]
    rfl
  · split
    · exact hremembers.recordIdle s.now
    · exact hremembers

/-- After data passed a point, every account has one more feed for each probe
there that feeds its tracker. -/
theorem Agrees.accounts_after (h : s.Agrees settings base made history)
    (henabled : settings.enabled = true) (point : Point) (now : Duration) {i : Nat}
    {after : Account} (hafter : (accounts settings.binding made
      (watches (history ++ [.passed point now])))[i]? = some after) :
    ∃ a, (accounts settings.binding made (watches history))[i]? = some a ∧ after.made = a.made ∧
      (List.replicate (s.state.supervisor.probes.countP fun probe =>
        probe.tracker = base.trackers.length + i && probe.point = point) now ++ a.feeds).Perm
          after.feeds := by
  rw [watches_append_passed] at hafter
  cases hbinding : settings.binding with
  | shared =>
    rw [hbinding] at hafter
    obtain ⟨rfl, rfl⟩ : i = 0 ∧
        after = ⟨made, ((watches history).map (·.after point now)).flatMap (·.account.feeds)⟩ := by
      simpa [accounts, List.getElem?_singleton, eq_comm] using hafter
    obtain ⟨-, hall⟩ := h.linked.shared henabled hbinding
    have hcount : (s.state.supervisor.probes.countP fun probe =>
        probe.tracker = base.trackers.length + 0 && probe.point = point) =
          (watches history).countP fun w => w.point = point := by
      have hmap := congrArg (List.countP fun q => decide (q = point)) h.points
      rw [List.countP_map, List.countP_map] at hmap
      refine Eq.trans (List.countP_congr fun probe hprobe => ?_) hmap
      simp [hall probe hprobe]
    refine ⟨⟨made, (watches history).flatMap (·.account.feeds)⟩, rfl, rfl, ?_⟩
    rw [hcount]
    exact flatMap_after_perm (watches history) point now
  | perProbe =>
    rw [hbinding] at hafter
    simp only [accounts, List.getElem?_map, Option.map_map, Option.map_eq_some_iff] at hafter
    obtain ⟨w, hw, rfl⟩ := hafter
    obtain ⟨hrange, hmap⟩ := h.linked.perProbe henabled hbinding
    have hpoint := congrArg (·[i]?) h.points
    simp only [List.getElem?_map, hw, Option.map_some, Option.map_eq_some_iff] at hpoint
    obtain ⟨probe, hprobe, hsame⟩ := hpoint
    have hcount := countP_numbered Probe.tracker (fun probe => decide (probe.point = point))
      (hmap.trans hrange) hprobe
    refine ⟨w.account, ?_, rfl, ?_⟩
    · simp only [accounts, List.getElem?_map, hw, Option.map_some]
    · rw [hcount, hsame]
      show List.Perm _ (w.account.feeds ++ if w.point = point then [now] else [])
      by_cases hhere : w.point = point
      · have hswap : ([now] ++ w.account.feeds).Perm (w.account.feeds ++ [now]) :=
          List.perm_append_comm
        simpa [hhere] using hswap
      · simp [hhere]

/-- Data that passes a point keeps the agreement: what each tracker is fed is
what its account gets. -/
theorem Agrees.passed (h : s.Agrees settings base made history) (hclosed : base.Closed)
    (henabled : settings.enabled = true) (hnow : s.now ≤ Duration.greatestSigned)
    (element pad : String)
    (hlinked : (s.withMonitor (s.state.monitor.push s.now element pad).monitor).Linked settings
      base.trackers.length) :
    (s.withMonitor (s.state.monitor.push s.now element pad).monitor).Agrees settings base made
      (history ++ [.passed ⟨element, pad⟩ s.now]) := by
  have hrooted : (s.withMonitor (s.state.monitor.push s.now element pad).monitor).Rooted base :=
    h.rooted.of_same rfl (Monitor.push_topology _ _ _ _)
  refine ⟨hlinked, ?_, hrooted, ?_, fun i after hafter => ?_⟩
  · show s.state.supervisor.probes.map (·.point) = _
    rw [h.points, watches_append_passed, List.map_map]
    rfl
  · intro after hafter
    obtain ⟨i, hi⟩ := List.mem_iff_getElem?.1 hafter
    obtain ⟨a, ha, hmade, hperm⟩ := h.accounts_after henabled ⟨element, pad⟩ s.now hi
    obtain ⟨hpast, hfeeds⟩ := h.past a (List.mem_of_getElem? ha)
    refine ⟨hmade ▸ hpast, fun r hr => ?_⟩
    rcases List.mem_append.1 (hperm.mem_iff.2 hr) with hnew | hold
    · rw [List.eq_of_mem_replicate hnew]
      exact Nat.le_refl _
    · exact hfeeds r hold
  · obtain ⟨a, ha, hmade, hperm⟩ := h.accounts_after henabled ⟨element, pad⟩ s.now hafter
    obtain ⟨t, ht, hremembers⟩ := h.remembered i a ha
    obtain ⟨-, hfeeds⟩ := h.past a (List.mem_of_getElem? ha)
    have hfed := (hremembers.feed hnow hfeeds _).perm hperm
    rw [← hmade] at hfed
    refine ⟨_, ?_, hfed⟩
    show (s.state.monitor.push s.now element pad).monitor.trackers[_]? = _
    rw [Monitor.push_getElem?, ht, h.rooted.countP_probesAt hclosed]
    rfl

/-- Every effect keeps the agreement. -/
theorem Agrees.moves {occurrences : List Occurrence} (h : s.Agrees settings base made history)
    (hclosed : base.Closed) (henabled : settings.enabled = true)
    (hthreshold : settings.idleThreshold ≤ Duration.greatestSigned)
    (hnow : s.now ≤ Duration.greatestSigned) (hlater : s.now ≤ s'.now)
    (hmoves : s.Moves occurrences s') : s'.Agrees settings base made (history ++ occurrences) := by
  have hlinked := h.linked.moves hmoves
  have hrooted := h.rooted.moves hmoves
  have hsame : ∀ (k : Nat) (t : Tracker), s.state.monitor.trackers[k]? = some t →
      ∃ t', s.state.monitor.trackers[k]? = some t' ∧
        ∀ a, t.Remembers settings.idleThreshold a → t'.Remembers settings.idleThreshold a :=
    fun k t ht => ⟨t, ht, fun _ => id⟩
  cases hmoves with
  | still =>
    rw [List.append_nil]
    exact h
  | moved clock =>
    rw [List.append_nil]
    exact h.of_same hlinked hrooted hlater rfl hsame
  | joined _ hbinding _ _ hpad => exact h.joined hlinked (h.linked.configured ▸ hbinding) hpad
  | added _ hbinding _ hpad =>
    exact h.added hlinked henabled (h.linked.configured ▸ hbinding) hthreshold hnow hpad
  | started address =>
    rw [List.append_nil]
    exact h.of_same hlinked hrooted hlater rfl hsame
  | noted =>
    rw [List.append_nil]
    exact h.of_same hlinked hrooted hlater rfl hsame
  | halted =>
    rw [List.append_nil]
    exact h.of_same hlinked hrooted hlater rfl hsame
  | passed element pad => exact h.passed hclosed henabled hnow element pad hlinked
  | looked hserver =>
    rw [List.append_nil]
    exact h.looked _ hlinked

end Changes

/-- Every steady run keeps the agreement. -/
theorem Agrees.run {settings : HealthSettings} {base : Monitor} {made : Duration}
    (hclosed : base.Closed) (henabled : settings.enabled = true)
    (hthreshold : settings.idleThreshold ≤ Duration.greatestSigned) {s : Session}
    {history : List Occurrence} (h : s.Agrees settings base made history)
    {operations : List Operation} (hsteady : s.Steady operations) :
    (s.run operations).1.Agrees settings base made (history ++ s.history operations) := by
  induction operations generalizing s history with
  | nil =>
    show s.Agrees settings base made (history ++ [])
    rw [List.append_nil]
    exact h
  | cons operation rest ih =>
    obtain ⟨hnow, hwraps, hrest⟩ := hsteady
    have hstep := h.moves hclosed henabled hthreshold hnow (now_le_step hwraps)
      (s.step_moves operation)
    have hrun := ih hstep hrest
    rw [List.append_assoc] at hrun
    exact hrun

end Session

end FlowWatch.Supervisor
