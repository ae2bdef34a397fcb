/-!
# Lines of a text

A line ends with a line feed, and a carriage return right in front of that
belongs to the end of the line, not to the line. Other characters that move to
a new line somewhere are ordinary characters here.
-/

namespace FlowWatch.Text

/-- The pieces of a text between its line feeds. -/
def splitAtFeeds : List Char → List (List Char)
  | [] => [[]]
  | c :: rest =>
    if c = '\n' then [] :: splitAtFeeds rest
    else match splitAtFeeds rest with
      | [] => [[c]]
      | piece :: pieces => (c :: piece) :: pieces

/-- A line without a carriage return at its end. -/
def dropReturn (line : List Char) : List Char :=
  if line.getLast? = some '\r' then line.dropLast else line

/-- The lines that a text takes when a line end follows it. -/
def lines (text : String) : List String :=
  (splitAtFeeds text.toList).map fun line => String.ofList (dropReturn line)

/-- An empty text is an empty line. -/
example : lines "" = [""] := by decide +kernel

/-- A carriage return counts as part of a line end only in front of it. -/
example : lines "a\rb\r\nc\r" = ["a\rb", "c"] := by decide +kernel

end FlowWatch.Text
