import FlowWatch.Text.Numeral
import FlowWatch.Toml.Value

/-!
# Writing documents

A written document consists of sections with keys, whose values are truth
values, counts, texts and lists of texts. A text is written in the plainest
quotation that needs no escape, and with escapes where every quotation needs
them. A list of two or more texts has a line for each.
-/

namespace FlowWatch.Toml

open FlowWatch.Text

/-- What decides the quotation of a text. -/
structure Traits where
  /-- The longest run of quotes. -/
  quotes : Nat
  /-- The longest run of apostrophes. -/
  apostrophes : Nat
  /-- Whether there is a control character other than tab and line feed. -/
  controls : Bool
  /-- Whether there is a backslash. -/
  backslash : Bool
  /-- Whether there is a line feed. -/
  lines : Bool
  deriving DecidableEq, Repr

/-- The longest run of a character, given the run that ends here and the longest
so far. -/
def longestRun (mark : Char) (current longest : Nat) : List Char → Nat
  | [] => longest
  | c :: rest =>
    if c = mark then longestRun mark (current + 1) (max longest (current + 1)) rest
    else longestRun mark 0 longest rest

/-- Whether the character can only be written as an escape. -/
def isControl (c : Char) : Bool :=
  (c.toNat < 0x20 && c != '\t' && c != '\n') || c.toNat == 0x7F

/-- The traits of a text. -/
def Traits.of (cs : List Char) : Traits where
  quotes := longestRun '"' 0 0 cs
  apostrophes := longestRun '\x27' 0 0 cs
  controls := cs.any isControl
  backslash := cs.contains '\\'
  lines := cs.contains '\n'

/-- A way to write a text. -/
inductive Style
  | basic
  | literal
  | basicLines
  | literalLines
  deriving DecidableEq, Repr

/-- The way to write a text with the given traits: the first that needs no
escape, or else quotes with escapes, on lines of their own if the text has any. -/
def Traits.style (t : Traits) : Style :=
  if !t.controls && !t.backslash && t.quotes = 0 && !t.lines then .basic
  else if !t.controls && t.apostrophes = 0 && !t.lines then .literal
  else if !t.controls && !t.backslash && t.quotes ≤ 2 then .basicLines
  else if !t.controls && t.apostrophes ≤ 2 then .literalLines
  else if t.lines then .basicLines
  else .basic

/-- The four hexadecimal digits of a code point, in capitals. -/
def hexCode (n : Nat) : List Char :=
  let digits := (Nat.toDigits 16 n).map Char.toUpper
  List.replicate (4 - digits.length) '0' ++ digits

/-- One character between quotes, other than a quote. -/
def escapeChar (multiline : Bool) (c : Char) : List Char :=
  if c = '\x08' then ['\\', 'b']
  else if c = '\t' then ['\\', 't']
  else if c = '\n' then if multiline then ['\n'] else ['\\', 'n']
  else if c = '\x0c' then ['\\', 'f']
  else if c = '\r' then ['\\', 'r']
  else if c = '\\' then ['\\', '\\']
  else if c.toNat < 0x20 || c.toNat = 0x7F then '\\' :: 'u' :: hexCode c.toNat
  else [c]

/-- The text between quotes. So many quotes in a row as `spare` may stand for
themselves, after which the next one is escaped and the count starts anew. -/
def escapeAll (multiline : Bool) (spare : Nat) : Nat → List Char → List Char
  | _, [] => []
  | left, c :: rest =>
    if c = '"' then
      match left with
      | 0 => '\\' :: '"' :: escapeAll multiline spare spare rest
      | left + 1 => '"' :: escapeAll multiline spare left rest
    else escapeChar multiline c ++ escapeAll multiline spare spare rest

/-- A line feed behind an opening delimiter, if the text has lines. -/
def opening (delimiter : List Char) (lines : Bool) : List Char :=
  if lines then delimiter ++ ['\n'] else delimiter

/-- A text as it is written. -/
def writeText (cs : List Char) : List Char :=
  let traits := Traits.of cs
  let quotes := ['"', '"', '"']
  let apostrophes := ['\x27', '\x27', '\x27']
  match traits.style with
  | .basic => '"' :: escapeAll false 0 0 cs ++ ['"']
  | .literal => '\x27' :: cs ++ ['\x27']
  | .basicLines => opening quotes traits.lines ++ escapeAll true 2 2 cs ++ quotes
  | .literalLines => opening apostrophes traits.lines ++ cs ++ apostrophes

/-- A value that can be written. -/
inductive Setting
  /-- A truth value. -/
  | truth (b : Bool)
  /-- A count. -/
  | count (n : Nat)
  /-- A text. -/
  | text (s : String)
  /-- Texts in order. -/
  | texts (items : List String)

/-- The value that a setting stands for. -/
def Setting.value : Setting → Value
  | .truth b => .truth b
  | .count n => .integer n
  | .text s => .text s
  | .texts items => .array (items.map .text)

/-- Texts in brackets, each on a line of its own if there are several. -/
def writeTexts (items : List String) : List Char :=
  match items with
  | [] => ['[', ']']
  | [item] => '[' :: writeText item.toList ++ [']']
  | items =>
    ['[', '\n'] ++
      items.flatMap (fun item => "    ".toList ++ writeText item.toList ++ [',', '\n']) ++ [']']

/-- A setting as it is written. -/
def Setting.write : Setting → List Char
  | .truth b => (toString b).toList
  | .count n => numeral n
  | .text s => writeText s.toList
  | .texts items => writeTexts items

/-- A section of a document. -/
structure Section where
  /-- The name in the header. -/
  name : String
  /-- The settings under it, in order. -/
  settings : List (String × Setting)

/-- A section as it is written. -/
def Section.write (s : Section) : List Char :=
  '[' :: s.name.toList ++ [']', '\n'] ++
    s.settings.flatMap fun (key, setting) => key.toList ++ " = ".toList ++ setting.write ++ ['\n']

/-- The sections of a document as they are written, with an empty line between
them. -/
def writeSections : List Section → List Char
  | [] => []
  | [s] => s.write
  | s :: rest => s.write ++ '\n' :: writeSections rest

end FlowWatch.Toml
