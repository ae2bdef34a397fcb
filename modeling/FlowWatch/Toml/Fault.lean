/-!
# Faults in documents

A text that is no document is at fault at one place. What is known about it is
what was being read there, what could have stood there instead, and why what
does stand there will not do. Each of the three may be missing.

A fault is final if what was read before it leaves no other way to go on. Of a
fault that is not final nothing may become known, for then the text is read as
something else.
-/

namespace FlowWatch.Toml

/-- What was being read. -/
inductive Construct
  | key
  | tableHeader
  | text
  | basicText
  | basicLines
  | literalText
  | literalLines
  | escape
  | shortCode
  | longCode
  | array
  | inlineTable
  | integer
  | hexadecimal
  | octal
  | binary
  | real
  | dateTime
  | time
  | offset
  deriving DecidableEq, Repr

/-- The name of what was being read. -/
def Construct.name : Construct → String
  | .key => "key"
  | .tableHeader => "table header"
  | .text => "string"
  | .basicText => "basic string"
  | .basicLines => "multiline basic string"
  | .literalText => "literal string"
  | .literalLines => "multiline literal string"
  | .escape => "escape sequence"
  | .shortCode => "unicode 4-digit hex code"
  | .longCode => "unicode 8-digit hex code"
  | .array => "array"
  | .inlineTable => "inline table"
  | .integer => "integer"
  | .hexadecimal => "hexadecimal integer"
  | .octal => "octal integer"
  | .binary => "binary integer"
  | .real => "floating-point number"
  | .dateTime => "date-time"
  | .time => "time"
  | .offset => "time offset"

/-- What could have stood somewhere. -/
inductive Expected
  /-- A given text. -/
  | mark (text : String)
  /-- A line end. -/
  | lineEnd
  /-- A digit. -/
  | digit
  /-- A digit in front. -/
  | leadingDigit
  deriving DecidableEq, Repr

/-- What could have stood somewhere, as messages name it. -/
def Expected.shown : Expected → String
  | .mark text => "\x60" ++ text ++ "\x60"
  | .lineEnd => "newline"
  | .digit => "digit"
  | .leadingDigit => "leading digit"

/-- Why what stands somewhere will not do. -/
inductive Reason
  /-- A number is none of those that are possible there. -/
  | outOfRange
  /-- A whole number is too large. -/
  | tooLarge
  /-- A whole number is too small. -/
  | tooSmall
  /-- The nesting is too deep. -/
  | tooDeep
  /-- A name is already taken, perhaps with the path of the table where. -/
  | taken (name : String) (table : Option (List String))
  /-- A path leads through a value that is no table. -/
  | noTable (path : List String) (kind : String)
  deriving DecidableEq, Repr

/-- The wording of a reason. -/
def Reason.message : Reason → String
  | .outOfRange => "value is out of range"
  | .tooLarge => "number too large to fit in target type"
  | .tooSmall => "number too small to fit in target type"
  | .tooDeep => "recursion limit exceeded"
  | .taken name none => "duplicate key \x60" ++ name ++ "\x60"
  | .taken name (some []) => "duplicate key \x60" ++ name ++ "\x60 in document root"
  | .taken name (some table) =>
    "duplicate key \x60" ++ name ++ "\x60 in table \x60" ++ String.intercalate "." table ++ "\x60"
  | .noTable path kind =>
    "dotted key \x60" ++ String.intercalate "." path ++
      "\x60 attempted to extend non-table type (" ++ kind ++ ")"

/-- What is known about a fault. -/
structure Cause where
  /-- What was being read. -/
  construct : Option Construct
  /-- What could have stood there. -/
  expected : List Expected
  /-- Why what stands there will not do. -/
  reason : Option Reason
  deriving DecidableEq, Repr

namespace Cause

/-- Nothing is known. -/
def unknown : Cause := ⟨none, [], none⟩

/-- Only what was being read is known. -/
def invalid (construct : Construct) : Cause := ⟨some construct, [], none⟩

/-- Only what could have stood there is known. -/
def missing (expected : List Expected) : Cause := ⟨none, expected, none⟩

/-- Only the reason is known. -/
def because (reason : Reason) : Cause := ⟨none, [], some reason⟩

/-- The cause within something larger, which is named if nothing smaller is. -/
def within (construct : Construct) (c : Cause) : Cause :=
  { c with construct := c.construct.or (some construct) }

/-- The lines that tell of the cause; none if nothing is known. -/
def lines (c : Cause) : List String :=
  (c.construct.map fun construct => "invalid " ++ construct.name).toList ++
    (if c.expected.isEmpty then []
      else ["expected " ++ String.intercalate ", " (c.expected.map Expected.shown)]) ++
    (c.reason.map Reason.message).toList

/-- The wording of the cause. -/
def message (c : Cause) : String := String.intercalate "\n" c.lines

end Cause

/-- A fault of a text. -/
structure Fault where
  /-- What is known about it. -/
  cause : Cause
  /-- The number of characters from its place to the end of the text. -/
  left : Nat
  /-- Whether there is no other way to go on. -/
  isFinal : Bool
  deriving DecidableEq, Repr

/-- A fault in front of a text that leaves other ways to go on. -/
def Fault.before (rest : List Char) (cause : Cause) : Fault := ⟨cause, rest.length, false⟩

/-- A final fault in front of a text. -/
def Fault.final (rest : List Char) (cause : Cause) : Fault := ⟨cause, rest.length, true⟩

/-- The fault within something larger. -/
def Fault.within (construct : Construct) (f : Fault) : Fault :=
  { f with cause := f.cause.within construct }

/-- Reads something at the start of a text and gives what follows it, or the
fault of the text. -/
abbrev Reader (α : Type) := List Char → Except Fault (α × List Char)

/-- A result behind which there is no other way to go on. -/
def final {α : Type} (result : Except Fault α) : Except Fault α :=
  result.mapError fun f => { f with isFinal := true }

/-- A result within something larger. -/
def within {α : Type} (construct : Construct) (result : Except Fault α) : Except Fault α :=
  result.mapError (·.within construct)

/-- What is read, or nothing if the text is to be read as something else. -/
def attempt {α : Type} (result : Except Fault α) : Except Fault (Option α) :=
  match result with
  | .ok a => .ok (some a)
  | .error f => if f.isFinal then .error f else .ok none

/-- A cause may be known in part. -/
example : (Cause.missing [.mark ".", .mark "="]).message = "expected \x60.\x60, \x60=\x60" := by
  decide +kernel

/-- Of what was being read, the smallest is named. -/
example : ((Cause.invalid .key).within .tableHeader).message = "invalid key" := by decide +kernel

end FlowWatch.Toml
