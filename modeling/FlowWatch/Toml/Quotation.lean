import FlowWatch.Toml.Fault

/-!
# Quoted texts of documents

There are four kinds of quotation: between quotes or apostrophes, on one line
or, between three of them, on several. Quotes allow escapes, apostrophes do
not. One machine reads all four, character by character. A run of delimiters
inside a quotation of several lines belongs to the text as long as it is
shorter than three; of a longer run the last three close the quotation, and at
most two stand for themselves before them.

Every fault of a quotation is final. A wrong escape is at fault behind the
character that follows its backslash, and the digits of a code point in front of
the first one. In all else the text is at fault where the quotation stops, which
is in front of delimiters that do not close it, unless something follows them in
a quotation with escapes.
-/

namespace FlowWatch.Toml

/-- A kind of quotation. -/
structure Quotation where
  /-- The character that delimits it. -/
  delimiter : Char
  /-- Whether it may go over several lines. -/
  multiline : Bool
  /-- Whether a backslash starts an escape. -/
  escapes : Bool
  /-- What it is called. -/
  construct : Construct

namespace Quotation

/-- Between quotes. -/
def basic : Quotation := ⟨'"', false, true, .basicText⟩

/-- Between apostrophes. -/
def literal : Quotation := ⟨'\x27', false, false, .literalText⟩

/-- Between three quotes. -/
def basicLines : Quotation := ⟨'"', true, true, .basicLines⟩

/-- Between three apostrophes. -/
def literalLines : Quotation := ⟨'\x27', true, false, .literalLines⟩

/-- How many delimiters close the quotation. -/
def closing (q : Quotation) : Nat := if q.multiline then 3 else 1

/-- How many delimiters in a row end it in any case. -/
def longest (q : Quotation) : Nat := if q.multiline then 5 else 1

/-- Where the machine is. -/
inductive Mode
  /-- In the text, after a run of so many delimiters. -/
  | content (run : Nat)
  /-- After a carriage return in the text, which a line feed must follow, behind
  a run of so many delimiters. -/
  | lineEnd (run : Nat)
  /-- After a backslash. -/
  | escape
  /-- In the digits of a code point: how many there are, how many are missing, and
  the value so far. -/
  | code (count missing value : Nat)
  /-- After a backslash and so many blanks, which must lead to the end of the
  line. -/
  | seam (behind : Nat)
  /-- After a carriage return in a seam, so many characters behind the backslash. -/
  | seamEnd (behind : Nat)
  /-- After a seam, where blanks and line ends are skipped. -/
  | gap
  /-- After a carriage return in a gap. -/
  | gapEnd

/-- Whether the character may stand in a quotation as it is. -/
def isPlain (c : Char) : Bool := c == '\t' || (0x20 ≤ c.toNat && c.toNat != 0x7F)

/-- The value of a hexadecimal digit. -/
def hexValue? (c : Char) : Option Nat :=
  if c.isDigit then some (c.toNat - '0'.toNat)
  else if 'a' ≤ c && c ≤ 'f' then some (c.toNat - 'a'.toNat + 10)
  else if 'A' ≤ c && c ≤ 'F' then some (c.toNat - 'A'.toNat + 10)
  else none

/-- The character of a code point, except for surrogates and numbers beyond the
last one. -/
def charOf? (code : Nat) : Option Char :=
  if h : code.isValidChar then some (Char.ofNatAux code h) else none

/-- One character in the text, after a run of delimiters that did not close it. -/
def inContent (q : Quotation) (run : Nat) (c : Char) : Option (Mode × List Char) :=
  let before := List.replicate run q.delimiter
  if c = q.delimiter then some (.content (run + 1), [])
  else if c = '\\' && q.escapes then some (.escape, before)
  else if c = '\n' && q.multiline then some (.content 0, before ++ ['\n'])
  else if c = '\r' && q.multiline then some (.lineEnd run, before)
  else if isPlain c then some (.content 0, before ++ [c])
  else none

/-- The character after a backslash. -/
def inEscape (q : Quotation) (c : Char) : Option (Mode × List Char) :=
  match c with
  | 'b' => some (.content 0, ['\x08'])
  | 'f' => some (.content 0, ['\x0c'])
  | 'n' => some (.content 0, ['\n'])
  | 'r' => some (.content 0, ['\r'])
  | 't' => some (.content 0, ['\t'])
  | '\\' => some (.content 0, ['\\'])
  | '"' => some (.content 0, ['"'])
  | 'u' => some (.code 4 4 0, [])
  | 'U' => some (.code 8 8 0, [])
  | ' ' | '\t' => if q.multiline then some (.seam 1, []) else none
  | '\n' => if q.multiline then some (.gap, []) else none
  | '\r' => if q.multiline then some (.seamEnd 1, []) else none
  | _ => none

/-- One character of a quotation: the next mode, and what the text grows by. -/
def step (q : Quotation) : Mode → Char → Option (Mode × List Char)
  | .content run, c => q.inContent run c
  | .lineEnd _, c => if c = '\n' then some (.content 0, ['\n']) else none
  | .escape, c => q.inEscape c
  | .code count missing value, c => do
    let value := value * 16 + (← hexValue? c)
    if missing ≤ 1 then return (.content 0, [← charOf? value])
    else return (.code count (missing - 1) value, [])
  | .seam behind, c =>
    if c = ' ' || c = '\t' then some (.seam (behind + 1), [])
    else if c = '\n' then some (.gap, [])
    else if c = '\r' then some (.seamEnd (behind + 1), [])
    else none
  | .seamEnd _, c | .gapEnd, c => if c = '\n' then some (.gap, []) else none
  | .gap, c =>
    if c = ' ' || c = '\t' || c = '\n' then some (.gap, [])
    else if c = '\r' then some (.gapEnd, [])
    else q.inContent 0 c

/-- What can follow a backslash. -/
def escapeCause : Cause :=
  ⟨some .escape, ["b", "f", "n", "r", "t", "u", "U", "\\", "\""].map .mark, none⟩

/-- The fault where the machine has no way to go on, given the character there,
if any, and the number of characters from there on. -/
def fault (q : Quotation) (mode : Mode) (c : Option Char) (left : Nat) : Fault :=
  let stopped (back : Nat) : Fault := ⟨.invalid q.construct, left + back, true⟩
  match mode with
  | .content run => stopped (if q.escapes && c.isSome then 0 else run)
  | .lineEnd run => stopped (1 + if q.escapes then 0 else run)
  | .escape => match c with
    | none => stopped 1
    | some c => ⟨escapeCause, if c.toNat < 0x80 then left - 1 else left, true⟩
  | .code count missing _ =>
    let construct := if count = 4 then Construct.shortCode else .longCode
    let reason := if (c.bind hexValue?).isSome then some Reason.outOfRange else none
    ⟨⟨some construct, [], reason⟩, left + (count - missing), true⟩
  | .seam behind | .seamEnd behind => ⟨escapeCause, left + behind - 1, true⟩
  | .gap => stopped 0
  | .gapEnd => stopped 1

/-- Whether the quotation is closed, and if so, how many delimiters of the run
belong to the text. -/
def closed? (q : Quotation) : Mode → Option Char → Option Nat
  | .content run, following =>
    if run = q.longest || (q.closing ≤ run && following != some q.delimiter) then
      some (run - q.closing)
    else none
  | _, _ => none

/-- Reads a quotation to its end, from within. -/
def readBody (q : Quotation) (mode : Mode) : Reader (List Char)
  | [] => match q.closed? mode none with
    | some kept => .ok (List.replicate kept q.delimiter, [])
    | none => .error (q.fault mode none 0)
  | c :: rest => match q.closed? mode (some c) with
    | some kept => .ok (List.replicate kept q.delimiter, c :: rest)
    | none => match q.step mode c with
      | none => .error (q.fault mode (some c) (rest.length + 1))
      | some (mode, grown) => do
        let (text, left) ← q.readBody mode rest
        pure (grown ++ text, left)

/-- The text without a line end at its start. -/
def dropLineEnd : List Char → List Char
  | '\n' :: rest => rest
  | '\r' :: '\n' :: rest => rest
  | cs => cs

/-- Reads a quotation on one line. -/
def readLine : Reader (List Char)
  | '"' :: rest => basic.readBody (.content 0) rest
  | '\x27' :: rest => literal.readBody (.content 0) rest
  | cs => .error (.before cs (.invalid .text))

/-- Reads a quotation of any kind. A line end right after three delimiters does
not belong to the text. -/
def read : Reader (List Char)
  | '"' :: '"' :: '"' :: rest => basicLines.readBody (.content 0) (dropLineEnd rest)
  | '\x27' :: '\x27' :: '\x27' :: rest => literalLines.readBody (.content 0) (dropLineEnd rest)
  | cs => readLine cs

end Quotation

end FlowWatch.Toml
