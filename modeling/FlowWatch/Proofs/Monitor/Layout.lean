import FlowWatch.Proofs.Monitor.Attachment

/-!
# Elements and pads without their probes

Whether a probe can be attached, and which name is missing if not, is decided by
the names of elements and pads alone. Attaching a probe leaves these as they are.
So two topologies that differ in their probes only accept and refuse the same
points.
-/

namespace FlowWatch

/-- A view that does not see a change sees a list with a changed member as it was. -/
theorem map_changeFirst {α β : Type} (test : α → Bool) (change : α → α) (view : α → β)
    (hview : ∀ x, view (change x) = view x) (xs : List α) :
    (changeFirst test change xs).map view = xs.map view := by
  induction xs with
  | nil => rfl
  | cons x rest ih =>
    by_cases h : test x = true
    · simp [changeFirst, h, hview]
    · simp [changeFirst, h, ih]

/-- The pad without its probes. -/
def Pad.bare (p : Pad) : Pad := { p with probes := [] }

/-- The element with its pads, but without their probes. -/
def Element.bare (e : Element) : Element := { e with pads := e.pads.map Pad.bare }

/-- A probe on an element does not show without probes. -/
theorem Element.bare_place (e : Element) (probe : Probe) : (e.place probe).bare = e.bare := by
  have hpads : (e.place probe).pads.map Pad.bare = e.pads.map Pad.bare :=
    map_changeFirst _ (fun p : Pad => p.place probe) _ (fun _ => rfl) _
  unfold Element.bare
  rw [hpads]
  rfl

/-- The first pad of a name, without its probes. -/
theorem Element.find?_bare (e : Element) (pad : String) :
    e.bare.pads.find? (·.name == pad) = (e.pads.find? (·.name == pad)).map Pad.bare :=
  List.find?_map

/-- An element has a pad of each of its names. -/
theorem Element.isSome_find?_iff (e : Element) {pad : String} :
    (e.pads.find? (·.name == pad)).isSome = true ↔ pad ∈ e.pads.map (·.name) := by
  simp only [List.find?_isSome, beq_iff_eq, List.mem_map]

namespace Topology

/-- There is an element of each of its names. -/
theorem element?_eq_none_iff (t : Topology) {name : String} :
    t.element? name = none ↔ name ∉ t.elements.map (·.name) := by
  simp only [element?, List.find?_eq_none, beq_iff_eq, List.mem_map, not_exists, not_and]

/-- The topology without its probes. -/
def bare (t : Topology) : Topology := ⟨t.elements.map Element.bare⟩

/-- An attached probe does not show without probes. -/
theorem bare_place (t : Topology) (probe : Probe) : (t.place probe).bare = t.bare :=
  congrArg Topology.mk <|
    map_changeFirst _ (fun e : Element => e.place probe) _ (fun e => e.bare_place probe) _

/-- The first element of a name, without its probes. -/
theorem element?_bare (t : Topology) (name : String) :
    t.bare.element? name = (t.element? name).map Element.bare :=
  List.find?_map

/-- The first pad of two names, without its probes. -/
theorem pad?_bare (t : Topology) (element pad : String) :
    t.bare.pad? element pad = (t.pad? element pad).map Pad.bare := by
  unfold pad?
  rw [element?_bare]
  cases t.element? element with
  | none => rfl
  | some e => exact e.find?_bare pad

variable {t t' : Topology}

/-- Topologies that differ in their probes only have the same pads. -/
theorem isSome_pad?_of_bare (h : t.bare = t'.bare) (element pad : String) :
    (t.pad? element pad).isSome = (t'.pad? element pad).isSome := by
  have hsame := congrArg (fun u : Topology => (u.pad? element pad).isSome) h
  simpa only [pad?_bare, Option.isSome_map] using hsame

/-- What the topology does not have at a point: the element, or a pad in it. -/
inductive Missing (t : Topology) (point : Point) : Failure → Prop
  /-- There is no element of that name. -/
  | element (h : t.element? point.element = none) :
      t.Missing point (.elementNotFound point.element)
  /-- The first element of that name has no such pad. -/
  | pad {e : Element} (helement : t.element? point.element = some e)
      (hpad : t.pad? point.element point.pad = none) :
      t.Missing point (.padNotFound point.element point.pad)

/-- Attaching fails for what is missing at the point. -/
theorem attach_eq_error_iff {t : Topology} {probe : Probe} {failure : Failure} :
    t.attach probe = .error failure ↔ t.Missing probe.point failure := by
  constructor
  · intro h
    unfold attach at h
    cases helement : t.element? probe.point.element with
    | none =>
      rw [helement] at h
      cases h
      exact .element helement
    | some e =>
      cases hpad : e.pads.find? (·.name == probe.point.pad) with
      | none =>
        simp only [helement, hpad] at h
        cases h
        refine .pad helement ?_
        rw [pad?, helement]
        exact hpad
      | some p => simp [helement, hpad] at h
  · intro h
    unfold attach
    cases h with
    | element helement => rw [helement]
    | @pad e helement hpad =>
      rw [pad?, helement, Option.bind_some] at hpad
      simp only [helement, hpad]

/-- A point has its pad, or something is missing. -/
theorem pad_or_missing (t : Topology) (point : Point) :
    (t.pad? point.element point.pad).isSome = true ∨ ∃ failure, t.Missing point failure := by
  cases hattach : t.attach ⟨point, 0⟩ with
  | error failure => exact .inr ⟨failure, attach_eq_error_iff.1 hattach⟩
  | ok after => exact .inl (attach_eq_ok_iff.1 hattach).1

/-- Probes do not change what is missing. -/
theorem Missing.of_bare {point : Point} {failure : Failure} (h : t.Missing point failure)
    (hbare : t.bare = t'.bare) : t'.Missing point failure := by
  have helement : (t.element? point.element).map Element.bare =
      (t'.element? point.element).map Element.bare := by
    simpa only [element?_bare] using congrArg (·.element? point.element) hbare
  cases h with
  | element hnone =>
    rw [hnone] at helement
    exact .element (Option.map_eq_none_iff.1 helement.symm)
  | @pad e hsome hpad =>
    rw [hsome] at helement
    obtain ⟨e', hsome', -⟩ := Option.map_eq_some_iff.1 helement.symm
    have hpad' : (t'.pad? point.element point.pad).isSome = false := by
      rw [← isSome_pad?_of_bare hbare, hpad]
      rfl
    exact .pad hsome' (Option.not_isSome_iff_eq_none.1 (Bool.eq_false_iff.1 hpad'))

/-- Topologies that differ in their probes only refuse a probe for the same reason,
or both have it attached. -/
theorem attach_cases_of_bare (h : t.bare = t'.bare) (point : Point) (tracker tracker' : Nat) :
    (∃ failure, t.attach ⟨point, tracker⟩ = .error failure ∧
        t'.attach ⟨point, tracker'⟩ = .error failure) ∨
      t.attach ⟨point, tracker⟩ = .ok (t.place ⟨point, tracker⟩) ∧
        t'.attach ⟨point, tracker'⟩ = .ok (t'.place ⟨point, tracker'⟩) := by
  rcases t.pad_or_missing point with hpad | ⟨failure, hmissing⟩
  · have hpad' : (t'.pad? point.element point.pad).isSome = true :=
      (isSome_pad?_of_bare h _ _).symm.trans hpad
    exact .inr ⟨attach_eq_ok_iff.2 ⟨hpad, rfl⟩, attach_eq_ok_iff.2 ⟨hpad', rfl⟩⟩
  · exact .inl ⟨failure, attach_eq_error_iff.2 hmissing,
      attach_eq_error_iff.2 (hmissing.of_bare h)⟩

end Topology

end FlowWatch
