import FlowWatch.Proofs.Monitor.Layout
import FlowWatch.Proofs.Monitor.Reads

/-!
# Where a new probe goes

A point is looked up in one way only, whether data is let pass it, its probes are
counted, or a probe is attached to it: the first element of the name, and in it the first
pad of the name. So a probe is attached exactly where data finds a pad, and nothing else
in the topology changes, not even another pad or element of the same names. The probes
that were there stay ahead of the new one, and data reaches it last. If there is no such
pad nothing changes, and the failure names what the look-up does not find.
-/

namespace FlowWatch

/-- What is changed is the first member that satisfies the test, where it stands. -/
theorem changeFirst_append {α : Type} {test : α → Bool} {change : α → α} {before after : List α}
    {x : α} (hbefore : ∀ y ∈ before, test y = false) (hx : test x = true) :
    changeFirst test change (before ++ x :: after) = before ++ change x :: after := by
  induction before with
  | nil => simp only [List.nil_append, changeFirst, hx, if_true]
  | cons y rest ih =>
    have hy := hbefore y List.mem_cons_self
    have hrest := ih fun z hz => hbefore z (List.mem_cons_of_mem y hz)
    simp only [List.cons_append, changeFirst, hy, Bool.false_eq_true, if_false, hrest]

namespace Topology

/-- Two topologies that differ in one pad only, which is the first of its name in the
first element of its name, so that its point leads to it. -/
inductive Replaced (point : Point) (old new : Pad) : Topology → Topology → Prop
  /-- Everything before and behind the pad, and behind its element, is the same. -/
  | intro {before after : List Element} {first last : List Pad}
      (helement : ∀ e ∈ before, e.name ≠ point.element)
      (hpad : ∀ p ∈ first, p.name ≠ point.pad) (hname : old.name = point.pad) :
      Replaced point old new
        ⟨before ++ ⟨point.element, first ++ old :: last⟩ :: after⟩
        ⟨before ++ ⟨point.element, first ++ new :: last⟩ :: after⟩

/-- No element has the name that the point asks for. -/
def LacksElement (t : Topology) (point : Point) : Prop :=
  ∀ e ∈ t.elements, e.name ≠ point.element

/-- Whether an element is missing is decided by their names. -/
instance (t : Topology) (point : Point) : Decidable (t.LacksElement point) :=
  inferInstanceAs (Decidable (∀ e ∈ t.elements, e.name ≠ point.element))

/-- Some element has the name that the point asks for, but the first of them has no such
pad, whatever the others have. -/
def LacksPad (t : Topology) (point : Point) : Prop :=
  ∃ before e after, t.elements = before ++ e :: after ∧
    (∀ other ∈ before, other.name ≠ point.element) ∧ e.name = point.element ∧
      ∀ p ∈ e.pads, p.name ≠ point.pad

/-- The element of a name is the first one that has it. -/
theorem element?_eq_some_iff {t : Topology} {name : String} {e : Element} :
    t.element? name = some e ↔
      e.name = name ∧ ∃ before after, t.elements = before ++ e :: after ∧
        ∀ other ∈ before, other.name ≠ name := by
  simp only [element?, List.find?_eq_some_iff_append, beq_iff_eq, Bool.not_eq_true',
    beq_eq_false_iff_ne, ne_eq]

/-- The element is missing exactly if no element has its name. -/
theorem missing_element_iff {t : Topology} {point : Point} :
    t.Missing point (.elementNotFound point.element) ↔ t.LacksElement point := by
  have hnone : t.element? point.element = none ↔ t.LacksElement point := by
    simp only [element?, List.find?_eq_none, beq_iff_eq, LacksElement, ne_eq]
  constructor
  · intro h
    cases h with
    | element helement => exact hnone.1 helement
  · intro h
    exact .element (hnone.2 h)

/-- The pad is missing exactly if the first element of the name has none. -/
theorem missing_pad_iff {t : Topology} {point : Point} :
    t.Missing point (.padNotFound point.element point.pad) ↔ t.LacksPad point := by
  have hnone : ∀ e : Element, e.pads.find? (·.name == point.pad) = none ↔
      ∀ p ∈ e.pads, p.name ≠ point.pad := by
    intro e
    simp only [List.find?_eq_none, beq_iff_eq, ne_eq]
  constructor
  · intro h
    cases h with
    | @pad e helement hpad =>
      rw [pad?, helement, Option.bind_some] at hpad
      obtain ⟨hname, before, after, helements, hbefore⟩ := element?_eq_some_iff.1 helement
      exact ⟨before, e, after, helements, hbefore, hname, (hnone e).1 hpad⟩
  · rintro ⟨before, e, after, helements, hbefore, hname, hpads⟩
    have helement : t.element? point.element = some e :=
      element?_eq_some_iff.2 ⟨hname, before, after, helements, hbefore⟩
    refine .pad helement ?_
    rw [pad?, helement, Option.bind_some]
    exact (hnone e).2 hpads

/-- A probe that is placed goes behind the others on the pad that its point leads to, and
nothing else changes. -/
theorem replaced_place {t : Topology} {probe : Probe} {p : Pad}
    (h : t.pad? probe.point.element probe.point.pad = some p) :
    Replaced probe.point p (p.place probe) t (t.place probe) := by
  obtain ⟨e, helement, hpad⟩ := Option.bind_eq_some_iff.1 h
  obtain ⟨hname, before, after, helements, hbefore⟩ := element?_eq_some_iff.1 helement
  obtain ⟨hpadName, first, last, hpads, hfirst⟩ := List.find?_eq_some_iff_append.1 hpad
  have hother : ∀ q ∈ first, q.name ≠ probe.point.pad := fun q hq => by
    simpa using hfirst q hq
  obtain ⟨elements⟩ := t
  obtain ⟨name, pads⟩ := e
  dsimp only at hname helements hpads
  subst hname helements hpads
  have hplaced : Topology.place ⟨before ++ ⟨probe.point.element, first ++ p :: last⟩ :: after⟩
      probe = ⟨before ++ ⟨probe.point.element, first ++ p.place probe :: last⟩ :: after⟩ := by
    unfold place
    rw [changeFirst_append (fun other hmem => beq_false_of_ne (hbefore other hmem)) (by simp)]
    unfold Element.place
    rw [changeFirst_append (fun other hmem => beq_false_of_ne (hother other hmem)) hpadName]
  rw [hplaced]
  exact .intro hbefore hother (eq_of_beq hpadName)

end Topology

namespace Monitor

/-- Data passes two lists of probes one after the other. -/
theorem notifyAll_append (m : Monitor) (now : Duration) (xs ys : List Probe) :
    m.notifyAll now (xs ++ ys) =
      (((m.notifyAll now xs).1.notifyAll now ys).1,
        (m.notifyAll now xs).2 ++ ((m.notifyAll now xs).1.notifyAll now ys).2) := by
  induction xs generalizing m with
  | nil => rfl
  | cons probe rest ih => simp only [List.cons_append, notifyAll, ih, List.append_assoc]

/-- What a push logs is what the probes at its point log. -/
theorem push_events (m : Monitor) (now : Duration) (element pad : String) :
    (m.push now element pad).events =
      (m.notifyAll now (m.topology.probesAt element pad)).2 := by
  unfold push Topology.probesAt
  cases m.topology.pad? element pad <;> rfl

/-- Probes do their work on whatever topology they are. -/
theorem notifyAll_withTopology (m : Monitor) (topology : Topology) (now : Duration)
    (probes : List Probe) :
    Monitor.notifyAll { m with topology := topology } now probes =
      ({ (m.notifyAll now probes).1 with topology := topology },
        (m.notifyAll now probes).2) := by
  induction probes generalizing m with
  | nil => rfl
  | cons probe rest ih =>
    have hhere : Monitor.notify { m with topology := topology } now probe =
        ({ (m.notify now probe).1 with topology := topology }, (m.notify now probe).2) := rfl
    simp only [notifyAll, hhere, ih]

/-- Data at the point of a placed probe does to the trackers what it would have done before,
and after that it passes the probe. -/
theorem push_placed {m : Monitor} {probe : Probe}
    (hpad : (m.topology.pad? probe.point.element probe.point.pad).isSome = true)
    (now : Duration) :
    let before := m.push now probe.point.element probe.point.pad
    let last := before.monitor.notify now probe
    let pushed := Monitor.push { m with topology := m.topology.place probe } now
      probe.point.element probe.point.pad
    pushed.monitor.trackers = last.1.trackers ∧ pushed.events = before.events ++ last.2 := by
  have hprobes := Topology.probesAt_place hpad probe.point.element probe.point.pad
  rw [if_pos rfl] at hprobes
  have hmonitor := m.push_monitor now probe.point.element probe.point.pad
  have hevents := m.push_events now probe.point.element probe.point.pad
  have happend := m.notifyAll_append now
    (m.topology.probesAt probe.point.element probe.point.pad) [probe]
  rw [← hmonitor, ← hevents] at happend
  intro before last pushed
  constructor
  · have hpushed : pushed.monitor.trackers = (m.notifyAll now
        (m.topology.probesAt probe.point.element probe.point.pad ++ [probe])).1.trackers := by
      rw [← hprobes, push_monitor, notifyAll_withTopology]
    rw [hpushed, happend]
    rfl
  · have hpushed : pushed.events = (m.notifyAll now
        (m.topology.probesAt probe.point.element probe.point.pad ++ [probe])).2 := by
      rw [← hprobes, push_events, notifyAll_withTopology]
    rw [hpushed, happend]
    exact congrArg (before.events ++ ·) (List.append_nil last.2)

/-- Registering places the probe where its point leads to a pad. -/
theorem register_of_pad {m : Monitor} {point : Point}
    (hpad : (m.topology.pad? point.element point.pad).isSome = true) (tracker : Nat) :
    m.register point tracker =
      .ok ({ m with topology := m.topology.place ⟨point, tracker⟩ }, .probeRegistered point) := by
  have hattach : m.topology.attach ⟨point, tracker⟩ = .ok (m.topology.place ⟨point, tracker⟩) :=
    Topology.attach_eq_ok_iff.2 ⟨hpad, rfl⟩
  simp only [register, hattach]

/-- Registering fails for what is missing at the point. -/
theorem register_eq_error_iff {m : Monitor} {point : Point} {tracker : Nat}
    {failure : Failure} :
    m.register point tracker = .error failure ↔ m.topology.Missing point failure := by
  have hattach : m.topology.attach ⟨point, tracker⟩ = .error failure ↔
      m.topology.Missing point failure := Topology.attach_eq_error_iff
  rw [← hattach, register]
  cases m.topology.attach ⟨point, tracker⟩ <;> simp

namespace Session

/-- The answer to a question about the probes at a point. -/
def count (s : Session) (point : Point) : Answer :=
  (s.step (.observers point.element point.pad)).answer

/-- The session after an attached probe: there is one more probe behind the others on the
pad of its point, and apart from this all is as it was. -/
structure Gains (s : Session) (probe : Probe) (after : Session) : Prop where
  /-- The probe is behind the others on the pad of its point. -/
  replaced : ∃ p, s.monitor.topology.Replaced probe.point p (p.place probe)
    after.monitor.topology
  /-- The clock and the trackers are as they were. -/
  kept : after = s.withMonitor { s.monitor with topology := after.monitor.topology }
  /-- There is one more probe at the point, and as many as before at all others. -/
  counted : ∀ point n, s.count point = .count n →
    after.count point = .count (n + if point = probe.point then 1 else 0)
  /-- Data at the point passes the probes that were there, in their order, and then the
  new one. -/
  notified : let pushed := after.step (.push probe.point.element probe.point.pad)
    (pushed.session.monitor, pushed.events) = after.monitor.notifyAll s.now
      (s.monitor.topology.probesAt probe.point.element probe.point.pad ++ [probe])
  /-- So it does to the trackers what it would have done before, and after that it passes
  the new probe. -/
  followed : let before := s.step (.push probe.point.element probe.point.pad)
    let pushed := after.step (.push probe.point.element probe.point.pad)
    let last := before.session.monitor.notify s.now probe
    pushed.session.monitor.trackers = last.1.trackers ∧ pushed.events = before.events ++ last.2

section Attach

variable {s : Session} {point : Point} {tracker : Nat} {fed : Tracker}

/-- A probe that feeds an existing tracker is attached if its point leads to a pad. -/
theorem attach_of_pad (hfed : s.monitor.trackers[tracker]? = some fed)
    (hpad : (s.monitor.topology.pad? point.element point.pad).isSome = true) :
    s.attach point tracker =
      ⟨s.withMonitor { s.monitor with topology := s.monitor.topology.place ⟨point, tracker⟩ },
        .registered point fed.updates, [.probeRegistered point]⟩ := by
  simp only [attach, hfed, Monitor.register_of_pad hpad]
  rfl

/-- A probe is refused for what is missing at its point, and nothing changes. -/
theorem attach_of_missing (hfed : s.monitor.trackers[tracker]? = some fed) {failure : Failure}
    (hmissing : s.monitor.topology.Missing point failure) :
    s.attach point tracker = s.unchanged (.failed failure) := by
  simp only [attach, hfed, register_eq_error_iff.2 hmissing]

/-- The failure of a probe that is refused names what is missing. -/
theorem attach_failed_iff (hfed : s.monitor.trackers[tracker]? = some fed) {failure : Failure} :
    (s.attach point tracker).answer = .failed failure ↔
      s.monitor.topology.Missing point failure := by
  have hregister : s.monitor.register point tracker = .error failure ↔
      s.monitor.topology.Missing point failure := Monitor.register_eq_error_iff
  rw [← hregister]
  simp only [attach, hfed]
  cases s.monitor.register point tracker with
  | error other => simp [unchanged]
  | ok registered => simp

/-- A probe is attached exactly if its point leads to a pad. -/
theorem attach_registered_iff (hfed : s.monitor.trackers[tracker]? = some fed) :
    (s.attach point tracker).answer = .registered point fed.updates ↔
      (s.monitor.topology.pad? point.element point.pad).isSome = true := by
  constructor
  · intro hanswer
    rcases s.monitor.topology.pad_or_missing point with hpad | ⟨failure, hmissing⟩
    · exact hpad
    · rw [attach_of_missing hfed hmissing] at hanswer
      cases hanswer
  · intro hpad
    rw [attach_of_pad hfed hpad]

/-- An attached probe is gained. -/
theorem gains_of_pad {probe : Probe}
    (hpad : (s.monitor.topology.pad? probe.point.element probe.point.pad).isSome = true) :
    s.Gains probe
      (s.withMonitor { s.monitor with topology := s.monitor.topology.place probe }) := by
  obtain ⟨p, hp⟩ := Option.isSome_iff_exists.1 hpad
  have hprobes := Topology.probesAt_place hpad
  have hlast := hprobes probe.point.element probe.point.pad
  rw [if_pos rfl] at hlast
  refine ⟨⟨p, Topology.replaced_place hp⟩, rfl, fun point n hcount => ?_, ?_,
    Monitor.push_placed hpad s.now⟩
  · obtain rfl := Answer.count.inj hcount
    show Answer.count ((s.monitor.topology.place probe).probesAt _ _).length = _
    rw [hprobes, List.length_append]
    by_cases hpoint : point = probe.point
    · rw [if_pos hpoint.symm, if_pos hpoint]
      rfl
    · rw [if_neg (Ne.symm hpoint), if_neg hpoint]
      rfl
  · intro pushed
    rw [← hlast]
    exact Prod.ext (Monitor.push_monitor ..) (Monitor.push_events ..)

end Attach

/-- For every session, whatever elements and pads share their names and whatever probes
there are, and every point, with a tracker to feed. A probe is attached there exactly if a
push there finds a pad. It is refused for its element exactly if no element has the name,
and for its pad exactly if the first element of the name has no such pad, even if a later
one has it. An attached probe is one more at its point and nowhere else, behind those
that were there, and in this order data passes them. A refused one changes nothing. -/
theorem attach_meets_push (s : Session) (point : Point) {tracker : Nat} {fed : Tracker}
    (hfed : s.monitor.trackers[tracker]? = some fed) :
    let attached := s.step (.attach point tracker)
    (attached.answer = .registered point fed.updates ↔
        (s.step (.push point.element point.pad)).answer = .truth true) ∧
      (attached.answer = .failed (.elementNotFound point.element) ↔
        s.monitor.topology.LacksElement point) ∧
      (attached.answer = .failed (.padNotFound point.element point.pad) ↔
        s.monitor.topology.LacksPad point) ∧
      (attached.answer = .registered point fed.updates →
        s.Gains ⟨point, tracker⟩ attached.session) ∧
      (attached.answer ≠ .registered point fed.updates → attached.session = s) := by
  intro attached
  have hpush : (s.step (.push point.element point.pad)).answer =
      .truth (s.monitor.topology.pad? point.element point.pad).isSome :=
    congrArg Answer.truth (Monitor.push_found ..)
  have hregistered : attached.answer = .registered point fed.updates ↔
      (s.monitor.topology.pad? point.element point.pad).isSome = true :=
    attach_registered_iff hfed
  refine ⟨?_, (attach_failed_iff hfed).trans Topology.missing_element_iff,
    (attach_failed_iff hfed).trans Topology.missing_pad_iff, fun hanswer => ?_, fun hanswer => ?_⟩
  · rw [hpush, hregistered, Answer.truth.injEq]
  · have hpad := hregistered.1 hanswer
    have hattached : attached = _ := attach_of_pad hfed hpad
    have hgains : s.Gains ⟨point, tracker⟩ _ := gains_of_pad hpad
    rw [hattached]
    exact hgains
  · rcases s.monitor.topology.pad_or_missing point with hpad | ⟨failure, hmissing⟩
    · exact absurd (hregistered.2 hpad) hanswer
    · have hattached : attached = _ := attach_of_missing hfed hmissing
      rw [hattached]
      rfl

/-- Two cameras of one name of which only the later one has a sink, and a mixer with two
inputs of one name that has a probe. -/
def doubled : List Operation :=
  [.addElement "camera" ["src"], .addElement "camera" ["sink"], .addElement "mixer" ["in", "in"],
    .addTracker Duration.zero, .attach ⟨"mixer", "in"⟩ 0]

/-- The sink of the later camera is not found. A second probe at the mixer counts for the
input that already has one, and it is refused where there is no element. -/
theorem doubled_attach :
    let s := (empty.run doubled).1
    let fed := Tracker.fresh Duration.zero Duration.zero
    let attached := s.step (.attach ⟨"mixer", "in"⟩ 0)
    s.monitor.trackers[0]? = some fed ∧
      (s.step (.attach ⟨"camera", "sink"⟩ 0)).answer = .failed (.padNotFound "camera" "sink") ∧
      (s.step (.attach ⟨"hub", "src"⟩ 0)).answer = .failed (.elementNotFound "hub") ∧
      attached.answer = .registered ⟨"mixer", "in"⟩ 0 ∧
      attached.session.count ⟨"mixer", "in"⟩ = .count 2 := by
  intro s fed attached
  have hfed : s.monitor.trackers[0]? = some fed := by decide
  obtain ⟨-, -, hlacksPad, -, -⟩ := attach_meets_push s ⟨"camera", "sink"⟩ hfed
  obtain ⟨-, hlacksElement, -, -, -⟩ := attach_meets_push s ⟨"hub", "src"⟩ hfed
  obtain ⟨hregistered, -, -, hgains, -⟩ := attach_meets_push s ⟨"mixer", "in"⟩ hfed
  have hattached : attached.answer = .registered ⟨"mixer", "in"⟩ 0 := hregistered.2 (by decide)
  refine ⟨hfed, hlacksPad.2 ?_, hlacksElement.2 (by decide), hattached,
    (hgains hattached).counted ⟨"mixer", "in"⟩ 1 (by decide)⟩
  exact ⟨[], ⟨"camera", [⟨"src", []⟩]⟩, s.monitor.topology.elements.tail, by decide,
    by decide, rfl, by decide⟩

end Session

end Monitor

end FlowWatch
