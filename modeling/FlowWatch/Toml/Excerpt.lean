import FlowWatch.Toml.Place

/-!
# Excerpts

An excerpt shows the line on which a part of a text starts, under its number,
and marks the part by carets. The carets do not go past the line; their number
counts bytes, as the width of the line does. The column counts characters, or
bytes if the part starts with a character beyond ASCII. The end of a text counts
as the place behind its last character, also if that is a line feed.
-/

namespace FlowWatch.Toml

/-- A text of blanks. -/
def blanks (n : Nat) : String := String.ofList (List.replicate n ' ')

/-- The number of bytes of a text. -/
def byteCount (cs : List Char) : Nat := (String.ofList cs).utf8ByteSize

/-- The position whose line is shown: the last one of the text instead of its end. -/
def shownPosition (text : List Char) (position : Nat) : Nat := min position (text.length - 1)

/-- The number of the line of a position, from zero. -/
def lineIndex (text : List Char) (position : Nat) : Nat := (text.take position).count '\n'

/-- The characters before a position on its line, the last one first. -/
def beforeOnLine (text : List Char) (position : Nat) : List Char :=
  (text.take position).reverse.takeWhile (· != '\n')

/-- The column of a position, from zero. -/
def columnIndex (text : List Char) (position : Nat) : Nat :=
  let before := beforeOnLine text (shownPosition text position)
  match text[position]? with
  | some c => if c.toNat < 0x80 then before.length else byteCount before
  | none => before.length + (position - shownPosition text position)

/-- The line of a position. -/
def lineAround (text : List Char) (position : Nat) : List Char :=
  (text.drop (position - (beforeOnLine text position).length)).takeWhile (· != '\n')

/-- The lines of the excerpt. -/
def excerpt (text : List Char) (span : Span) : List String :=
  let shown := shownPosition text span.start
  let line := lineIndex text shown + 1
  let column := columnIndex text span.start
  let content := lineAround text shown
  let size := byteCount ((text.take span.stop).drop span.start)
  let carets := max 1 (min size (byteCount content - column))
  let number := toString line
  let margin := blanks (number.length + 1) ++ "|"
  [s!"TOML parse error at line {line}, column {column + 1}", margin,
    number ++ " | " ++ String.ofList content,
    margin ++ blanks (column + 1) ++ String.ofList (List.replicate carets '^')]

/-- The place of a fault: the character there, or the end of the text. -/
def Fault.span (text : List Char) (f : Fault) : Span :=
  ⟨text.length - f.left, min (text.length - f.left + 1) text.length⟩

/-- The second line is shown with its third word marked. -/
example : excerpt "x = 1\ny = true".toList ⟨10, 14⟩ =
    ["TOML parse error at line 2, column 5", "  |", "2 | y = true", "  |     ^^^^"] := by
  decide +kernel

/-- The end of a text is shown behind its last line. -/
example : excerpt "x = [\n".toList ⟨6, 6⟩ =
    ["TOML parse error at line 1, column 7", "  |", "1 | x = [", "  |       ^"] := by
  decide +kernel

end FlowWatch.Toml
