import FlowWatch.Failure
import FlowWatch.Monitor.Point

/-!
# Elements, pads and the probes on them

A topology is a list of named elements with named pads, and each pad has the
probes attached to it. Names may occur more than once; every look-up takes the
first element of a name and in it the first pad of a name. Attaching a probe
changes that pad only, and fails without a change if there is none.
-/

namespace FlowWatch

/-- A probe: the point it is attached to and the tracker it feeds, by number. -/
structure Probe where
  /-- Where the probe is attached. -/
  point : Point
  /-- The number of its tracker. -/
  tracker : Nat
  deriving DecidableEq, Repr

/-- A pad of an element. -/
structure Pad where
  /-- The name of the pad. -/
  name : String
  /-- The probes on the pad, in the order they were attached. -/
  probes : List Probe
  deriving DecidableEq

/-- An element of a pipeline. -/
structure Element where
  /-- The name of the element. -/
  name : String
  /-- Its pads. -/
  pads : List Pad
  deriving DecidableEq

/-- The elements of a pipeline, in the order they were added. -/
structure Topology where
  /-- The elements. -/
  elements : List Element
  deriving DecidableEq

/-- The pad with one more probe behind the others. -/
def Pad.place (p : Pad) (probe : Probe) : Pad := { p with probes := p.probes ++ [probe] }

/-- The list with its first member that satisfies a test changed. -/
def changeFirst {α : Type} (test : α → Bool) (change : α → α) : List α → List α
  | [] => []
  | x :: rest => if test x then change x :: rest else x :: changeFirst test change rest

/-- The first member that satisfies the test is the changed one, if the change
does not spoil the test. -/
theorem find?_changeFirst {α : Type} (test : α → Bool) (change : α → α)
    (keeps : ∀ x, test x = true → test (change x) = true) (xs : List α) :
    (changeFirst test change xs).find? test = (xs.find? test).map change := by
  induction xs with
  | nil => rfl
  | cons x rest ih =>
    by_cases h : test x = true
    · simp [changeFirst, h, keeps x h]
    · simp [changeFirst, h, ih]

/-- Another test finds what it found before, if it never holds together with
the first one and the change does not make it hold. -/
theorem find?_changeFirst_of_disjoint {α : Type} (test other : α → Bool) (change : α → α)
    (disjoint : ∀ x, test x = true → other x = false ∧ other (change x) = false) (xs : List α) :
    (changeFirst test change xs).find? other = xs.find? other := by
  induction xs with
  | nil => rfl
  | cons x rest ih =>
    by_cases h : test x = true
    · simp [changeFirst, h, disjoint x h]
    · by_cases ho : other x = true
      · simp [changeFirst, h, ho]
      · simp [changeFirst, h, ho, ih]

/-- The element with one more probe on the first pad that the probe names. -/
def Element.place (e : Element) (probe : Probe) : Element :=
  { e with pads := changeFirst (·.name == probe.point.pad) (·.place probe) e.pads }

namespace Topology

/-- No elements at all. -/
def empty : Topology := ⟨[]⟩

/-- The topology with one more element, whose pads have no probes. -/
def addElement (t : Topology) (name : String) (pads : List String) : Topology :=
  ⟨t.elements ++ [⟨name, pads.map fun pad => ⟨pad, []⟩⟩]⟩

/-- The first element of a name. -/
def element? (t : Topology) (name : String) : Option Element :=
  t.elements.find? (·.name == name)

/-- The first pad of a name in the first element of a name. -/
def pad? (t : Topology) (element pad : String) : Option Pad :=
  (t.element? element).bind fun e => e.pads.find? (·.name == pad)

/-- The probes on a pad, in order; none if there is no such pad. -/
def probesAt (t : Topology) (element pad : String) : List Probe :=
  match t.pad? element pad with
  | some p => p.probes
  | none => []

/-- The topology with one more probe on an existing pad. -/
def place (t : Topology) (probe : Probe) : Topology :=
  ⟨changeFirst (·.name == probe.point.element) (·.place probe) t.elements⟩

/-- Attaches a probe to its point, if the point exists. -/
def attach (t : Topology) (probe : Probe) : Except Failure Topology :=
  match t.element? probe.point.element with
  | none => .error (.elementNotFound probe.point.element)
  | some e => match e.pads.find? (·.name == probe.point.pad) with
    | none => .error (.padNotFound probe.point.element probe.point.pad)
    | some _ => .ok (t.place probe)

end Topology

end FlowWatch
