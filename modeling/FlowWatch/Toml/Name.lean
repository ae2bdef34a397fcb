import FlowWatch.Toml.Writing

/-!
# Names as they are written

A name is written bare if it consists of letters and digits of ASCII, hyphens and
underscores. Any other name is quoted: between quotes if it needs no escape
there, else between apostrophes if it needs none there, and else between quotes
with escapes.
-/

namespace FlowWatch.Toml

/-- Whether the character may stand in a name without quotes. -/
def isNameChar (c : Char) : Bool := c.isAlphanum || c == '-' || c == '_'

/-- Whether the character can only be written as an escape in a name. -/
def isNameControl (c : Char) : Bool := isControl c || c == '\n'

/-- A name as it is written. -/
def writeName (cs : List Char) : String :=
  let controls := cs.any isNameControl
  String.ofList <|
    if !cs.isEmpty && cs.all isNameChar then cs
    else if !controls && !cs.contains '\\' && !cs.contains '"' then
      '"' :: escapeAll false 0 0 cs ++ ['"']
    else if !controls && !cs.contains '\x27' then '\x27' :: cs ++ ['\x27']
    else '"' :: escapeAll false 0 0 cs ++ ['"']

/-- The empty name is quoted. -/
example : writeName [] = "\"\"" := by decide +kernel

end FlowWatch.Toml
