import FlowWatch.Monitor.Topology

/-!
# Where an attached probe is found

Attaching puts the probe behind those on its pad and changes what is found at no
other point, whatever names occur more than once. Look-up and attachment take
the same first element and the same first pad.
-/

namespace FlowWatch.Topology

/-- The pads of an element after a probe was placed on it. -/
theorem find?_place (e : Element) (probe : Probe) (pad : String) :
    (e.place probe).pads.find? (·.name == pad) =
      if probe.point.pad = pad then (e.pads.find? (·.name == pad)).map (·.place probe)
      else e.pads.find? (·.name == pad) := by
  by_cases hpad : probe.point.pad = pad
  · rw [if_pos hpad, Element.place, hpad]
    exact find?_changeFirst (·.name == pad) (·.place probe) (fun _ h => h) e.pads
  · rw [if_neg hpad]
    apply find?_changeFirst_of_disjoint
    intro x hx
    have hother : (x.name == pad) = false :=
      beq_false_of_ne fun hsame => hpad ((eq_of_beq hx).symm.trans hsame)
    exact ⟨hother, hother⟩

/-- The element of a name after a probe was placed. -/
theorem element?_place (t : Topology) (probe : Probe) (element : String) :
    (t.place probe).element? element =
      if probe.point.element = element then (t.element? element).map (·.place probe)
      else t.element? element := by
  by_cases helement : probe.point.element = element
  · rw [if_pos helement, element?, place, helement]
    exact find?_changeFirst (·.name == element) (·.place probe) (fun _ h => h) t.elements
  · rw [if_neg helement]
    apply find?_changeFirst_of_disjoint
    intro x hx
    have hother : (x.name == element) = false :=
      beq_false_of_ne fun hsame => helement ((eq_of_beq hx).symm.trans hsame)
    exact ⟨hother, hother⟩

/-- The pad of two names after a probe was placed. -/
theorem pad?_place (t : Topology) (probe : Probe) (element pad : String) :
    (t.place probe).pad? element pad =
      if probe.point = ⟨element, pad⟩ then (t.pad? element pad).map (·.place probe)
      else t.pad? element pad := by
  rw [pad?, element?_place, pad?]
  by_cases helement : probe.point.element = element
  · rw [if_pos helement, Option.bind_map]
    by_cases hpad : probe.point.pad = pad
    · have hpoint : probe.point = ⟨element, pad⟩ := by rw [← helement, ← hpad]
      rw [if_pos hpoint]
      cases t.element? element with
      | none => rfl
      | some e => exact (find?_place e probe pad).trans (if_pos hpad)
    · have hpoint : probe.point ≠ ⟨element, pad⟩ := fun h => hpad (congrArg Point.pad h)
      rw [if_neg hpoint]
      cases t.element? element with
      | none => rfl
      | some e => exact (find?_place e probe pad).trans (if_neg hpad)
  · have hpoint : probe.point ≠ ⟨element, pad⟩ := fun h => helement (congrArg Point.element h)
    rw [if_neg helement, if_neg hpoint]

/-- The probes at a point after one more was placed on an existing pad. -/
theorem probesAt_place {t : Topology} {probe : Probe}
    (hpad : (t.pad? probe.point.element probe.point.pad).isSome = true) (element pad : String) :
    (t.place probe).probesAt element pad =
      t.probesAt element pad ++ if probe.point = ⟨element, pad⟩ then [probe] else [] := by
  rw [probesAt, pad?_place, probesAt]
  by_cases hpoint : probe.point = ⟨element, pad⟩
  · rw [if_pos hpoint, if_pos hpoint]
    rw [hpoint] at hpad
    obtain ⟨p, hp⟩ := Option.isSome_iff_exists.1 hpad
    rw [hp]
    rfl
  · rw [if_neg hpoint, if_neg hpoint, List.append_nil]

/-- If the probes at a point are earlier ones and those of a list, they still are once
one more probe is placed and listed. -/
theorem probesAt_place_listed {t : Topology} {probe : Probe} {element pad : String}
    {earlier listed : List Probe}
    (hpad : (t.pad? probe.point.element probe.point.pad).isSome = true)
    (hlisted : t.probesAt element pad =
      earlier ++ listed.filter fun other => other.point = ⟨element, pad⟩) :
    (t.place probe).probesAt element pad =
      earlier ++ (listed ++ [probe]).filter fun other => other.point = ⟨element, pad⟩ := by
  rw [probesAt_place hpad, hlisted, List.filter_append, List.append_assoc]
  congr 2
  by_cases hpoint : probe.point = ⟨element, pad⟩ <;> simp [hpoint]

/-- A probe that is found at a point is on some pad of some element. -/
theorem exists_pad_of_mem_probesAt {t : Topology} {element pad : String} {probe : Probe}
    (h : probe ∈ t.probesAt element pad) :
    ∃ e ∈ t.elements, ∃ p ∈ e.pads, probe ∈ p.probes := by
  unfold probesAt at h
  split at h
  · rename_i p hpad
    obtain ⟨e, helement, hfound⟩ := Option.bind_eq_some_iff.1 hpad
    exact ⟨e, List.mem_of_find?_eq_some helement, p, List.mem_of_find?_eq_some hfound, h⟩
  · simp at h

/-- Attaching succeeds exactly on an existing pad, and places the probe there. -/
theorem attach_eq_ok_iff {t after : Topology} {probe : Probe} :
    t.attach probe = .ok after ↔
      (t.pad? probe.point.element probe.point.pad).isSome = true ∧ after = t.place probe := by
  unfold attach pad?
  cases t.element? probe.point.element with
  | none => simp
  | some e =>
    cases hfound : e.pads.find? (·.name == probe.point.pad) with
    | none => simp [hfound]
    | some p => simp [hfound, eq_comm]

end FlowWatch.Topology
