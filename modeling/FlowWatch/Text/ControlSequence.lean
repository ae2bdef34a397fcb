/-!
# Text without control sequences

A terminal takes some characters as orders and does not show them: the controls
of ASCII, and the sequences that an escape character opens. This module leaves
the orders out of a text and keeps all else, among it the white space of ASCII
and every character beyond ASCII. A sequence that the text breaks off is left
out as far as it goes.

White space is shown even inside a sequence of the kind that ends with its first
letter. What follows is then shown too, up to the next control; behind that the
sequence goes on. Sequences that carry a text of their own swallow white space
as well.
-/

namespace FlowWatch.Text

/-- How far a control sequence has come. -/
inductive Sequence
  /-- There is none. -/
  | none
  /-- Behind the escape character. -/
  | escape
  /-- Behind the escape character and marks that ask for one more character. -/
  | marks
  /-- In the parameters of a control. -/
  | parameters
  /-- In the parameters of an order to a device, whose text is still to come. -/
  | device
  /-- In the text of a command, which a bell ends. -/
  | command
  /-- In any other text that a sequence carries. -/
  | content
  deriving DecidableEq, Repr

/-- Whether the character is white space of ASCII. -/
def isPlainSpace (c : Char) : Bool :=
  c == ' ' || c == '\t' || c == '\n' || c == '\r' || c == '\x0C'

/-- Whether the character is shown outside of any sequence. -/
def isShown (c : Char) : Bool :=
  isPlainSpace c || (0x20 ≤ c.toNat && c.toNat != 0x7F)

/-- Whether the character is shown at a point of a sequence. -/
def Sequence.shows : Sequence → Char → Bool
  | .none, c => isShown c
  | .escape, c | .marks, c | .parameters, c => isPlainSpace c && c != ' '
  | .device, _ | .command, _ | .content, _ => false

/-- The kind of sequence that a character opens behind the escape character. -/
def Sequence.opened (c : Char) : Sequence :=
  if c == '[' then .parameters
  else if c == ']' then .command
  else if c == 'P' then .device
  else if c == 'X' || c == '\x5E' || c == '_' then .content
  else if 0x20 ≤ c.toNat && c.toNat ≤ 0x2F then .marks
  else if 0x30 ≤ c.toNat && c.toNat ≤ 0x7E then .none
  else .escape

/-- Whether a byte of the character in UTF-8 is the terminator of strings. -/
def hasTerminator (c : Char) : Bool := (String.utf8EncodeChar c).contains 0x9C

/-- Whether the character is the final letter of parameters. -/
def isFinal (c : Char) : Bool := 0x40 ≤ c.toNat && c.toNat ≤ 0x7E

/-- The sequence behind a character that is not shown. An escape character opens
a new one at any point, and the two cancelling controls end the present one. -/
def Sequence.next (s : Sequence) (c : Char) : Sequence :=
  if c == '\x1B' then .escape
  else if c == '\x18' || c == '\x1A' then .none
  else match s with
    | .none => .none
    | .escape => Sequence.opened c
    | .marks => if 0x30 ≤ c.toNat && c.toNat ≤ 0x7E then .none else .marks
    | .parameters => if isFinal c then .none else .parameters
    | .device => if isFinal c then .content else .device
    | .command => if c == '\x07' then .none else .command
    | .content => if hasTerminator c then .none else .content

/-- The shown characters of a text. The flag tells whether the character before
was shown; then the next one is as if there were no sequence. -/
def shownFrom : Sequence → Bool → List Char → List Char
  | _, _, [] => []
  | s, shown, c :: rest =>
    if (if shown then Sequence.none else s).shows c then
      c :: shownFrom (if c.toNat < 0x80 then s else .none) true rest
    else shownFrom (s.next c) false rest

/-- The text as it is shown. -/
def withoutSequences (text : String) : String := String.ofList (shownFrom .none false text.toList)

/-- Colours are left out, even where a text breaks off inside one. -/
example : withoutSequences "a\x1B[1;31mb\x1B[3" = "ab" := by decide +kernel

/-- A line end inside parameters interrupts them. -/
example : withoutSequences "\x1B[\n1\x01mx" = "\n1x" := by decide +kernel

end FlowWatch.Text
