import FlowWatch.Log.Directive

/-!
# Which events are shown

A filter is a list of directives, written with commas between them. Of those
that are about an event, the most specific one decides how much is shown, and
the last one of several equals. Without any directive only errors are shown.
-/

namespace FlowWatch.Log

/-- A filter. -/
structure Filter where
  /-- Its directives. -/
  directives : List Directive
  deriving DecidableEq, Repr

namespace Filter

/-- The texts between the commas, without empty ones. -/
def pieces (text : String) : List String := (text.splitOn ",").filter fun piece => !piece.isEmpty

/-- The filter of some parts. Only errors are shown if there is no part. -/
def ofParts (parts : List DirectivePart) : Filter :=
  if parts.isEmpty then ⟨[⟨none, none, 1⟩]⟩
  else ⟨parts.filterMap fun
    | .rule directive => some directive
    | .context => none⟩

/-- The filter of a text whose pieces are all directives. -/
def ofText? (text : String) : Option Filter :=
  match (pieces text).mapM DirectivePart.read with
  | .ok parts => some (ofParts parts)
  | .error _ => none

/-- A piece of a filter that is left out, and why. -/
structure Ignored where
  /-- The text of the piece. -/
  piece : String
  /-- Why it is no directive. -/
  fault : DirectiveFault
  deriving DecidableEq, Repr

/-- The text that tells of a piece that is left out. -/
def Ignored.text (i : Ignored) : String :=
  "ignoring \x60" ++ i.piece ++ "\x60: " ++ i.fault.message

/-- The filter of the directives among the pieces of a text, and the others. -/
def ofTextLossy (text : String) : Filter × List Ignored :=
  let read := (pieces text).map fun piece => (piece, DirectivePart.read piece)
  (ofParts (read.filterMap fun (_, part) => part.toOption),
    read.filterMap fun (piece, part) => match part with
      | .ok _ => none
      | .error fault => some ⟨piece, fault⟩)

/-- The directive that decides among some that are about one event. -/
def deciding : List Directive → Option Directive
  | [] => none
  | d :: rest => match deciding rest with
    | none => some d
    | some other => some (if d.yieldsTo other then other else d)

/-- Whether an event is shown. -/
def allows (f : Filter) (e : Event) : Bool :=
  match deciding (f.directives.filter (·.concerns e)) with
  | none => false
  | some d => e.level.verbosity ≤ d.verbosity

/-- The texts of the events that are shown. -/
def texts (f : Filter) (events : List Event) : List String :=
  (events.filter f.allows).map Event.text

/-- The variable of the environment that holds a filter. -/
def variableName : String := "RUST_LOG"

/-- The components that the level of the command line sets. -/
def ownTargets : List String :=
  ["liveness_daemon", "liveness_http", "liveness_monitor", "liveness_common"]

/-- The filter of a program: the one of the environment if it is complete, and
otherwise the level of the command line for the program's own components. -/
def choose (environment : Option String) (level : String) : Filter × List Ignored :=
  match environment.bind ofText? with
  | some filter => (filter, [])
  | none => ofTextLossy (String.intercalate "," (ownTargets.map fun t => t ++ "=" ++ level))

end Filter

end FlowWatch.Log
