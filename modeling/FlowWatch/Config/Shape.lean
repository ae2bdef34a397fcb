import FlowWatch.Binary64.Shortest
import FlowWatch.Time.DurationText
import FlowWatch.Toml.Place

/-!
# Values of the right shape

A setting is read from a value of a document. This module says for each kind of
setting which values it takes, and what is wrong with the others, where in the
value. A message names what was found and what was expected, without the place.
-/

namespace FlowWatch.Config

open FlowWatch.Toml

/-- What is wrong with a value. -/
inductive ShapeFault
  /-- It has another type. -/
  | wrongType (found : Value) (expected : String)
  /-- It is a whole number out of bounds. -/
  | outOfBounds (found : Int) (expected : String)
  /-- It is a name that is none of the known ones. -/
  | unknownName (name : String) (known : List String)
  /-- It is a table in place of a name, but without a single entry. -/
  | notSingle (entries : Nat)
  /-- The entry of a table in place of a name has content. -/
  | hasContent (content : Value)
  /-- It is neither a name nor a table. -/
  | notName
  /-- It is not a duration. -/
  | duration (fault : DurationText.Fault)

/-- A value as messages show what was found. -/
def foundText : Value → String
  | .text s => "string " ++ Text.quote s
  | .integer i => s!"integer \x60{i}\x60"
  | .real x => s!"floating point \x60{x.positionalText}\x60"
  | .truth b => s!"boolean \x60{b}\x60"
  | .dateTime | .table _ => "map"
  | .array _ | .rows _ => "sequence"

/-- The name of a type of values. -/
def typeName : Value → String
  | .text _ => "string"
  | .integer _ => "integer"
  | .real _ => "float"
  | .truth _ => "boolean"
  | .dateTime => "datetime"
  | .array _ => "array"
  | .rows _ => "array of tables"
  | .table _ => "table"

/-- The known names as messages list them. -/
def namesText (known : List String) : String :=
  match known with
  | [only] => s!"\x60{only}\x60"
  | [first, second] => s!"\x60{first}\x60 or \x60{second}\x60"
  | _ => "one of " ++ String.intercalate ", " (known.map fun name => s!"\x60{name}\x60")

/-- A name that is none of the known ones, as messages say it. -/
def unknownNameText (name : String) (known : List String) : String :=
  s!"unknown variant \x60{name}\x60, expected {namesText known}"

/-- The wording of the fault, except where a duration has none. -/
def ShapeFault.message? : ShapeFault → Option String
  | .wrongType found expected => some s!"invalid type: {foundText found}, expected {expected}"
  | .outOfBounds found expected =>
    some s!"invalid value: integer \x60{found}\x60, expected {expected}"
  | .unknownName name known => some (unknownNameText name known)
  | .notSingle 0 => some "wanted exactly 1 element, found 0 elements"
  | .notSingle _ => some "wanted exactly 1 element, more than 1 element"
  | .hasContent (.table _) | .hasContent (.array _) => some "expected empty table"
  | .hasContent (.rows _) => some "expected empty array"
  | .hasContent content => some s!"expected table, found {typeName content}"
  | .notName => some "wanted string or table"
  | .duration fault => fault.message?

/-- A truth value. -/
def asTruth : Value → Except ShapeFault Bool
  | .truth b => .ok b
  | v => .error (.wrongType v "a boolean")

/-- A text. -/
def asText : Value → Except ShapeFault String
  | .text s => .ok s
  | v => .error (.wrongType v "a string")

/-- A count below a limit, whose type the message calls by the given name. -/
def asCount (limit : Nat) (expected : String) : Value → Except ShapeFault Nat
  | .integer i =>
    if 0 ≤ i && i < limit then .ok i.toNat else .error (.outOfBounds i expected)
  | v => .error (.wrongType v expected)

/-- A duration. -/
def asDuration (v : Value) : Except ShapeFault Duration := do
  match DurationText.read (← asText v) with
  | .ok d => .ok d
  | .error fault => .error (.duration fault)

/-- What is wrong, and where in a value. -/
structure Misfit where
  /-- What is wrong. -/
  fault : ShapeFault
  /-- Where it is wrong. -/
  place : Place

/-- A result whose fault is about the whole value. -/
def ofWhole {α : Type} (result : Except ShapeFault α) : Except Misfit α :=
  result.mapError fun fault => ⟨fault, .whole⟩

/-- A result about a part of a value, seen from the value. -/
def below {α : Type} (step : Step) (result : Except Misfit α) : Except Misfit α :=
  result.mapError fun m => { m with place := m.place.below step }

/-- The members of a list of texts, the first of which has the given number. -/
def asTextsFrom : Nat → List Value → Except Misfit (List String)
  | _, [] => .ok []
  | index, v :: rest => do
    let text ← below (.member index) (ofWhole (asText v))
    let texts ← asTextsFrom (index + 1) rest
    pure (text :: texts)

/-- A list of texts. -/
def asTexts : Value → Except Misfit (List String)
  | .array items | .rows items => asTextsFrom 0 items
  | v => .error ⟨.wrongType v "a sequence", .whole⟩

/-- The choice of a name. -/
def choose {α : Type} (all : List α) (name : α → String) (text : String) : Except ShapeFault α :=
  match all.find? (name · == text) with
  | some choice => .ok choice
  | none => .error (.unknownName text (all.map name))

/-- One of several names, written as a text, or as a table with the name as its
only key and nothing in it. -/
def asChoice {α : Type} (all : List α) (name : α → String) : Value → Except Misfit α
  | .text s => ofWhole (choose all name s)
  | .table [(key, content)] => do
    let choice ← (choose all name key).mapError fun fault =>
      ⟨fault, ⟨[.entry key], .name⟩⟩
    match content with
    | .table [] | .array [] | .rows [] => pure choice
    | content => .error ⟨.hasContent content, ⟨[.entry key], .content⟩⟩
  | .table entries => .error ⟨.notSingle entries.length, .whole⟩
  | _ => .error ⟨.notName, .whole⟩

end FlowWatch.Config
