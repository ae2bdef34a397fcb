import FlowWatch.Binary64.Shortest
import FlowWatch.Config.Shape

/-!
# Names selected by structured values

One of several names can also be selected from a structured value of another
format, which has a value for nothing. It is selected by a text, or by a table
with the name as its only key and nothing under it.
-/

namespace FlowWatch.Config.Selection

/-- As much of a structured value as a selection looks at. -/
inductive Shape
  /-- Nothing. -/
  | null
  /-- A truth value. -/
  | truth (b : Bool)
  /-- A whole number. -/
  | integer (i : Int)
  /-- A floating-point number. -/
  | real (x : Binary64)
  /-- A text. -/
  | text (s : String)
  /-- Values in order. -/
  | sequence
  /-- Named values in order. -/
  | table (entries : List (String × Shape))

/-- A value as messages show what was found. -/
def Shape.found : Shape → String
  | .null => "null"
  | .truth b => s!"boolean \x60{b}\x60"
  | .integer i => s!"integer \x60{i}\x60"
  | .real x => s!"floating point \x60{x.compactText}\x60"
  | .text s => "string " ++ Text.quote s
  | .sequence => "sequence"
  | .table _ => "map"

/-- The choice of a name, or what is wrong with it. -/
def ofName {α : Type} (all : List α) (name : α → String) (text : String) : Except String α :=
  match all.find? (name · == text) with
  | some choice => .ok choice
  | none => .error (unknownNameText text (all.map name))

/-- The choice of a value, or what is wrong with it. -/
def ofShape {α : Type} (all : List α) (name : α → String) : Shape → Except String α
  | .text s => ofName all name s
  | .table [(key, content)] => do
    let choice ← ofName all name key
    match content with
    | .null => pure choice
    | content => .error s!"invalid type: {content.found}, expected unit"
  | .table _ => .error "invalid value: map, expected map with a single key"
  | shape => .error s!"invalid type: {shape.found}, expected string or map"

end FlowWatch.Config.Selection
