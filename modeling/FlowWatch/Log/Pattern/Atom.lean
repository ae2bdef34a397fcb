import FlowWatch.Text.Blank

/-!
# Atoms of patterns

An atom is what matches at one place: a character that stands for itself, a
class of characters, or an end of a line or a word. Flags say how atoms are
read. Patterns are about characters of Unicode unless a flag restricts them to
bytes, but nothing here knows the properties of those characters: wherever a
pattern needs one, as for letters in either case, it is refused. A pattern about
bytes is refused where it could match a part of a character.
-/

namespace FlowWatch.Log.Pattern

open FlowWatch.Text

/-- How a pattern is read from some point on. -/
structure Flags where
  /-- Whether letters match in either case. -/
  caseless : Bool
  /-- Whether it is about characters of Unicode, not about bytes. -/
  unicode : Bool
  /-- Whether blanks and remarks stand between its parts. -/
  spaced : Bool
  deriving DecidableEq, Repr

/-- The flags at the beginning of a pattern. -/
def Flags.initial : Flags := ⟨false, true, false⟩

/-- The text behind blanks and remarks. A remark goes from a number sign to the
end of its line; the argument tells whether the text starts in one. -/
def skipRemarks : Bool → List Char → List Char
  | _, [] => []
  | true, c :: rest => skipRemarks (c != '\n') rest
  | false, c :: rest =>
    if isBlank c then skipRemarks false rest
    else if c = '#' then skipRemarks true rest
    else c :: rest

/-- The text from the next part on. -/
def Flags.skip (f : Flags) (cs : List Char) : List Char :=
  if f.spaced then skipRemarks false cs else cs

/-- The next character behind blanks, as far as a set looks ahead: in a remark
it finds the first character, and before blanks that nothing follows, a blank. -/
def Flags.ahead (f : Flags) (cs : List Char) : Option Char :=
  if f.spaced then
    let found := match cs.dropWhile isBlank with
      | '#' :: remark => remark.dropWhile isBlank
      | shown => shown
    found.head?.or cs.head?
  else cs.head?

/-- What matches at one place. -/
inductive Atom
  /-- A character that stands for itself, and whether it is given as a byte. -/
  | letter (c : Char) (isByte : Bool)
  /-- Any character. -/
  | any
  /-- Digits, white space or the characters of words, or all others. -/
  | properties (negated : Bool)
  /-- An end of a line or of the text. -/
  | lineEdge
  /-- An end of a word, or the contrary. -/
  | wordEdge
  deriving DecidableEq, Repr

/-- Whether an atom may stand outside of sets. -/
def Flags.allows (f : Flags) : Atom → Bool
  | .letter c isByte => if f.unicode then !f.caseless else !isByte || c.toNat < 0x80
  | .any => f.unicode
  | .properties negated => !f.unicode && !negated
  | .lineEdge | .wordEdge => true

/-- Whether a character may be a member of a set. -/
def Flags.allowsMember (f : Flags) (c : Char) : Bool :=
  if f.unicode then !f.caseless else c.toNat < 0x80

/-- Whether a set, or a class with a name in it, may be negated or not. -/
def Flags.allowsSign (f : Flags) (negated : Bool) : Bool := f.unicode || !negated

/-- The value of a hexadecimal digit. -/
def hexDigit? (c : Char) : Option Nat :=
  if c.isDigit then some (c.toNat - '0'.toNat)
  else if 'a' ≤ c && c ≤ 'f' then some (c.toNat - 'a'.toNat + 10)
  else if 'A' ≤ c && c ≤ 'F' then some (c.toNat - 'A'.toNat + 10)
  else none

/-- The value of so many hexadecimal digits, after the value so far. -/
def readHex (f : Flags) : Nat → Nat → List Char → Option (Nat × List Char)
  | 0, value, cs => some (value, cs)
  | _ + 1, _, [] => none
  | count + 1, value, c :: rest => do
    readHex f count (value * 16 + (← hexDigit? c)) (f.skip rest)

/-- The number of hexadecimal digits behind a letter that names a code point. -/
def codePointDigits : Char → Option Nat
  | 'x' => some 2
  | 'u' => some 4
  | 'U' => some 8
  | _ => none

/-- Whether the character stands for itself behind a backslash: a sign of ASCII,
except for those that are kept for other uses. -/
def isPlainEscape (c : Char) : Bool :=
  c.toNat < 0x80 && !c.isAlphanum && c != '<' && c != '>'

/-- The control that a letter stands for behind a backslash. -/
def namedControl? : Char → Option Char
  | 'a' => some '\x07'
  | 'f' => some '\x0C'
  | 'n' => some '\n'
  | 'r' => some '\r'
  | 't' => some '\t'
  | 'v' => some '\x0B'
  | _ => none

/-- The atom behind a backslash. Categories of characters are refused, and so are
numbers of groups. -/
def readEscape (f : Flags) : List Char → Option (Atom × List Char)
  | [] => none
  | c :: rest => match codePointDigits c with
    | some count => do
      let (value, left) ← readHex f count 0 (f.skip rest)
      if h : value.isValidChar then some (.letter (Char.ofNatAux value h) (c == 'x'), left)
      else none
    | none =>
      if ['d', 's', 'w'].contains c then some (.properties false, rest)
      else if ['D', 'S', 'W'].contains c then some (.properties true, rest)
      else if let some control := namedControl? c then some (.letter control false, rest)
      else if isPlainEscape c then some (.letter c false, rest)
      else if c = 'A' || c = 'z' then some (.lineEdge, rest)
      else if c = 'b' || c = 'B' || c = '<' || c = '>' then some (.wordEdge, rest)
      else none

/-- The atom at the start of a text outside of sets. -/
def readAtom (f : Flags) : List Char → Option (Atom × List Char)
  | [] => none
  | '\\' :: rest => readEscape f rest
  | '.' :: rest => some (.any, rest)
  | '\x5E' :: rest | '$' :: rest => some (.lineEdge, rest)
  | c :: rest => some (.letter c false, rest)

/-- Blanks may stand between the digits of a code point. -/
example : readEscape { Flags.initial with spaced := true } "x4 1b".toList =
    some (.letter 'A' true, ['b']) := by
  decide +kernel

end FlowWatch.Log.Pattern
