import FlowWatch.Failure
import FlowWatch.Text.Blank

/-!
# Observation points

An observation point names an element of a pipeline and one of its pads. Its
text joins the two by a colon. Reading takes blanks around each part away, and
an element alone stands for its `sink` pad.
-/

namespace FlowWatch

/-- An element and one of its pads. -/
structure Point where
  /-- The name of the element. -/
  element : String
  /-- The name of the pad. -/
  pad : String
  deriving DecidableEq, Repr

namespace Point

open FlowWatch.Text

/-- The pad that an element alone stands for. -/
def defaultPad : String := "sink"

/-- The point in one text. -/
def text (p : Point) : String := p.element ++ ":" ++ p.pad

/-- What stands before the first colon and what stands behind it, if there is one. -/
def splitColon (cs : List Char) : List Char × Option (List Char) :=
  match cs.dropWhile (· != ':') with
  | [] => (cs, none)
  | _ :: rest => (cs.takeWhile (· != ':'), some rest)

/-- Reads a point. Both parts need a character that is not blank, and a second
colon is refused. -/
def ofText? (s : String) : Option Point :=
  let (element, pad) := match splitColon s.toList with
    | (element, some pad) => (trimBlanks element, trimBlanks pad)
    | (element, none) => (trimBlanks element, defaultPad.toList)
  if element.isEmpty || pad.isEmpty || pad.contains ':' then none
  else some ⟨String.ofList element, String.ofList pad⟩

/-- Reads a point, with the failure of a text that does not name one. -/
def ofText (s : String) : Except Failure Point :=
  match ofText? s with
  | some point => .ok point
  | none => .error (.invalidPoint s)

example : ofText? " a : b " = some ⟨"a", "b"⟩ := by decide +kernel
example : ofText? "a" = some ⟨"a", "sink"⟩ := by decide +kernel
example : ofText? "a:b:c" = none := by decide +kernel
example : ofText? " :b" = none := by decide +kernel

end Point

end FlowWatch
