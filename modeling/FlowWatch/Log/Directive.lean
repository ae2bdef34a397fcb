import FlowWatch.Log.Event
import FlowWatch.Log.Pattern
import FlowWatch.Text.Alphanumeric
import FlowWatch.Text.Blank
import FlowWatch.Text.Numeral

/-!
# Directives of a filter

A directive sets how much is shown of some events: of all, of those whose
component starts with its target, or of those that have a certain field. It is
written as a level, as a target, or as a target and a level with an equals sign
between them. Behind the target, brackets may hold the name of a context, and
braces within them the name of a field, perhaps with a value.

Nothing here has contexts, and no value is ever compared. So a directive with
the name of a context, or with a value, concerns no event; it only keeps a
filter from being empty.

Blanks around a directive are not part of its form. Yet its parts are cut out of
the text with the blanks, at the places that they have without them; a directive
with blanks in front is so cut in the wrong places.
-/

namespace FlowWatch.Log

open FlowWatch.Text

/-- A rule about some events. -/
structure Directive where
  /-- The start of the names of the components; none for all of them. -/
  target : Option String
  /-- The name of a field that the events have; none for all of them. -/
  field : Option String
  /-- How much is shown: nothing for zero, everything for five. -/
  verbosity : Nat
  deriving DecidableEq, Repr

/-- What a text between two commas stands for. -/
inductive DirectivePart
  /-- A rule. -/
  | rule (directive : Directive)
  /-- A rule about contexts or values, which concerns no event here. -/
  | context
  deriving DecidableEq, Repr

/-- Why a text is not a directive. -/
inductive DirectiveFault
  /-- It has another form. -/
  | malformed
  /-- Its level is unknown. -/
  | unknownLevel
  /-- The value of its field is none. -/
  | noValue (fault : Pattern.Fault)
  deriving DecidableEq, Repr

/-- The wording of the fault. -/
def DirectiveFault.message : DirectiveFault → String
  | .malformed => "invalid filter directive"
  | .unknownLevel =>
    "error parsing level filter: expected one of \"off\", \"error\", \"warn\", \"info\", " ++
      "\"debug\", \"trace\", or a number 0-5"
  | .noValue .refused => "invalid field filter: error building NFA"
  | .noValue .wordEdges =>
    "invalid field filter: unsupported regex feature for DFAs: cannot build DFAs for regexes " ++
      "with Unicode word boundaries; switch to ASCII word boundaries, or heuristically enable " ++
      "Unicode word boundaries or use a different regex engine"

/-- The names of the levels, the least verbose first. -/
def levelNames : List String := ["off", "error", "warn", "info", "debug", "trace"]

/-- The verbosity of everything. -/
def fullVerbosity : Nat := 5

/-- The verbosity of a level, given by its number or its name in any case. The
empty name stands for errors. -/
def verbosity? (text : String) : Option Nat :=
  match readUnsigned fullVerbosity text.toList with
  | .ok n => some n
  | .error _ =>
    if text.isEmpty then some 1
    else levelNames.findIdx? (· == lowerAscii text)

/-- The verbosity behind an equals sign, where nothing stands for everything. -/
def verbosityAfterSign (cs : List Char) : Except DirectiveFault Nat :=
  if cs.isEmpty then .ok fullVerbosity
  else match verbosity? (String.ofList cs) with
    | some n => .ok n
    | none => .error .unknownLevel

/-- Whether the name of a component may start with the character. -/
def isTargetStart (c : Char) : Bool :=
  c == '-' || c == ':' || c == '_' || isAlphanumeric c

/-- The number of bytes of a text. -/
def width (cs : List Char) : Nat := (cs.map Char.utf8Size).foldr (· + ·) 0

/-- Splits a text behind a number of bytes; nothing if that is not between two
characters. -/
def splitAtByte (bytes : Nat) : List Char → Option (List Char × List Char)
  | [] => if bytes = 0 then some ([], []) else none
  | c :: rest =>
    if bytes = 0 then some ([], c :: rest)
    else if bytes < c.utf8Size then none
    else (splitAtByte (bytes - c.utf8Size) rest).map fun (before, behind) => (c :: before, behind)

/-- The text from a byte on, up to a number of bytes behind that. -/
def slice (text : List Char) (start length : Nat) : Except DirectiveFault (List Char) :=
  match (splitAtByte start text).bind fun (_, rest) => splitAtByte length rest with
  | some (part, _) => .ok part
  | none => .error .malformed

/-- The text from a byte on. -/
def sliceFrom (text : List Char) (start : Nat) : Except DirectiveFault (List Char) :=
  match splitAtByte start text with
  | some (_, rest) => .ok rest
  | none => .error .malformed

/-- The verbosity behind brackets: of everything if nothing follows them, else
that behind an equals sign. -/
def readVerbosity (text : List Char) (start : Nat) :
    List Char → Except DirectiveFault Nat
  | [] => .ok fullVerbosity
  | '=' :: _ => do verbosityAfterSign (← sliceFrom text (start + 1))
  | _ => .error .malformed

/-- The name of a field, which is nothing for a field with a value. -/
def readField (field : List Char) : Except DirectiveFault (Option String) :=
  match field.dropWhile (· != '=') with
  | [] => .ok (some (String.ofList field))
  | _ :: value =>
    match Pattern.fault? (value.takeWhile (· != '=')) with
    | none => .ok none
    | some fault => .error (.noValue fault)

/-- A directive behind its opening bracket, from the given byte on. -/
def readBracketed (target : Option String) (text : List Char) (start : Nat) (cs : List Char) :
    Except DirectiveFault DirectivePart := do
  let name := cs.takeWhile fun c => c != ']' && c != '\x7b'
  let behind := start + width name + 1
  match cs.drop name.length with
  | ']' :: rest =>
    let _ ← readVerbosity text behind rest
    pure .context
  | _ :: rest =>
    let braced := rest.takeWhile (· != '\x7d')
    match braced, rest.drop braced.length with
    | _ :: _, '\x7d' :: rest =>
      let field ← readField (← slice text behind (width braced))
      match rest with
      | ']' :: rest =>
        let verbosity ← readVerbosity text (behind + width braced + 2) rest
        match name, field with
        | [], some field => pure (.rule ⟨target, some field, verbosity⟩)
        | _, _ => pure .context
      | _ => throw .malformed
    | _, _ => throw .malformed
  | [] => throw .malformed

/-- Reads a directive. -/
def DirectivePart.read (piece : String) : Except DirectiveFault DirectivePart := do
  let text := piece.toList
  let cs := trimBlanks text
  match cs with
  | [] => throw .malformed
  | '[' :: rest => readBracketed none text 1 rest
  | first :: _ =>
    if !isTargetStart first then throw .malformed
    let name := cs.takeWhile fun c => c != '=' && c != '['
    match cs.drop name.length with
    | [] => match verbosity? piece with
      | some n => pure (.rule ⟨none, none, n⟩)
      | none => pure (.rule ⟨some piece, none, fullVerbosity⟩)
    | sign :: rest =>
      let target := String.ofList (← slice text 0 (width name))
      if sign = '[' then readBracketed target text (width name + 1) rest
      else
        let verbosity ← verbosityAfterSign (← sliceFrom text (width name + 1))
        pure (.rule ⟨some target, none, verbosity⟩)

/-- Whether the directive is about an event. -/
def Directive.concerns (d : Directive) (e : Event) : Bool :=
  (match d.target with
    | none => true
    | some target => target.toList.isPrefixOf e.component.target.toList) &&
  match d.field with
  | none => true
  | some field => e.hasField field

/-- Whether a directive yields to another one that is about the same event. The
one with the longer target decides, then one with a field, then the one whose
field has the greater name. A directive yields to one that differs in nothing of
that. -/
def Directive.yieldsTo (d other : Directive) : Bool :=
  match compare (d.target.map String.utf8ByteSize) (other.target.map String.utf8ByteSize) with
  | .lt => true
  | .gt => false
  | .eq => match d.field, other.field with
    | none, _ => true
    | some _, none => false
    | some field, some otherField => field ≤ otherField

/-- A level alone is about everything. -/
example : (DirectivePart.read "warn").toOption = some (.rule ⟨none, none, 2⟩) := by
  decide +kernel

/-- A field asks for events that have it. -/
example : (DirectivePart.read "a[\x7bb\x7d]=info").toOption =
    some (.rule ⟨some "a", some "b", 3⟩) := by
  decide +kernel

end FlowWatch.Log
