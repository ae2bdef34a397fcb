import FlowWatch.Binary64.Decimal
import FlowWatch.Toml.Quotation
import FlowWatch.Toml.Value

/-!
# Numbers of documents

Whole numbers are decimal with an optional sign, or without a sign hexadecimal,
octal or binary after a mark of their base, and must fit in 64 signed bits.
Floating-point numbers have a fraction, an exponent or both, or are one of the
words for infinity and for no number. An underscore may stand between two
digits. A decimal number has no superfluous zero in front, and a positive
number too large for a finite value is refused.

A number that cannot be represented is at fault as a whole; any other fault is
where a digit is missing. All of them are final, except that of a number without
any digit.
-/

namespace FlowWatch.Toml

/-- The cause of a missing digit behind an underscore. -/
def noDigit (construct : Construct) : Cause := ⟨some construct, [.digit], none⟩

/-- Digits, of which the first has been read, with single underscores between
them; the result leaves the underscores out. The cause is that of an underscore
that no digit follows. -/
def moreDigits (isDigit : Char → Bool) (cause : Cause) : Reader (List Char)
  | '_' :: c :: rest =>
    if isDigit c then (moreDigits isDigit cause rest).map fun (ds, left) => (c :: ds, left)
    else .error (.final (c :: rest) cause)
  | c :: rest =>
    if isDigit c then (moreDigits isDigit cause rest).map fun (ds, left) => (c :: ds, left)
    else if c = '_' then .error (.final rest cause)
    else .ok ([], c :: rest)
  | [] => .ok ([], [])

/-- At least one digit. The causes are those of a missing first digit, and of an
underscore that no digit follows. -/
def readDigits (isDigit : Char → Bool) (first more : Cause) : Reader (List Char)
  | c :: rest =>
    if isDigit c then (moreDigits isDigit more rest).map fun (ds, left) => (c :: ds, left)
    else .error (.before (c :: rest) first)
  | [] => .error (.before [] first)

/-- The digits of a decimal number before its point: a zero alone, or digits
that do not start with one. -/
def readWhole : Reader (List Char)
  | '0' :: rest => .ok (['0'], rest)
  | cs => readDigits Char.isDigit (.invalid .integer) (noDigit .integer) cs

/-- An optional sign. -/
def readSign : List Char → List Char × List Char
  | '+' :: rest => (['+'], rest)
  | '-' :: rest => (['-'], rest)
  | cs => ([], cs)

/-- A fraction, if the text starts with a point. Behind an underscore in it, both
the digit and the fraction lack a digit. -/
def readFraction : Reader (List Char)
  | '.' :: rest =>
    (final (readDigits Char.isDigit (noDigit .real) ⟨some .real, [.digit, .digit], none⟩ rest)).map
      fun (ds, left) => ('.' :: ds, left)
  | cs => .ok ([], cs)

/-- An exponent, if the text starts with its letter. -/
def readExponent : Reader (List Char)
  | c :: rest =>
    if c = 'e' || c = 'E' then
      let (sign, digits) := readSign rest
      (final (readDigits Char.isDigit (.invalid .real) (noDigit .real) digits)).map
        fun (ds, left) => ('e' :: sign ++ ds, left)
    else .ok ([], c :: rest)
  | [] => .ok ([], [])

/-- The value of digits in a base. -/
def valueIn (base : Nat) (digits : List Char) : Nat :=
  digits.foldl (fun acc c => acc * base + (Quotation.hexValue? c).getD 0) 0

/-- A whole number as a value, if it fits in 64 signed bits. -/
def integer? (i : Int) : Except Cause Value :=
  if i < -9223372036854775808 then .error (.because .tooSmall)
  else if 9223372036854775808 ≤ i then .error (.because .tooLarge)
  else .ok (.integer i)

/-- A floating-point number as a value, unless it is positive and too large. -/
def real? (text : List Char) : Except Cause Value :=
  match Binary64.ofText text with
  | .ok (.infinite false) | .error _ => .error (.invalid .real)
  | .ok x => .ok (.real x)

/-- The number that a whole text starts with, or the final fault of that text. -/
def finish (text : List Char) (value : Except Cause Value) : Except Fault Value :=
  value.mapError (Fault.final text)

/-- A whole number in a base, whose mark of two characters starts the text. -/
def readBased (construct : Construct) (base : Nat) (isDigit : Char → Bool) : Reader Value :=
  fun cs => do
    let (digits, rest) ←
      final (readDigits isDigit (.invalid construct) (noDigit construct) (cs.drop 2))
    pure (← finish cs (integer? (valueIn base digits)), rest)

/-- A decimal number. -/
def readPlain : Reader Value := fun cs => do
  let (sign, rest) := readSign cs
  let (whole, rest) ← readWhole rest
  let (fraction, rest) ← readFraction rest
  let (exponent, rest) ← readExponent rest
  if fraction.isEmpty && exponent.isEmpty then
    let size : Int := valueIn 10 whole
    pure (← finish cs (integer? (if sign = ['-'] then -size else size)), rest)
  else pure (← finish cs (real? (sign ++ whole ++ fraction ++ exponent)), rest)

/-- One of the words for values without digits, after an optional sign. -/
def readWord? (cs : List Char) : Option (Value × List Char) :=
  let (sign, rest) := readSign cs
  match rest with
  | 'i' :: 'n' :: 'f' :: rest => some (.real (.infinite (sign = ['-'])), rest)
  | 'n' :: 'a' :: 'n' :: rest => some (.real .nan, rest)
  | _ => none

/-- Whether the character is a digit of base eight. -/
def isOctal (c : Char) : Bool := '0' ≤ c && c ≤ '7'

/-- Whether the character is a digit of base two. -/
def isBinary (c : Char) : Bool := c == '0' || c == '1'

/-- Whether the character is a digit of base sixteen. -/
def isHex (c : Char) : Bool := (Quotation.hexValue? c).isSome

/-- Reads a number. -/
def readNumber : Reader Value
  | '0' :: 'x' :: rest => readBased .hexadecimal 16 isHex ('0' :: 'x' :: rest)
  | '0' :: 'o' :: rest => readBased .octal 8 isOctal ('0' :: 'o' :: rest)
  | '0' :: 'b' :: rest => readBased .binary 2 isBinary ('0' :: 'b' :: rest)
  | cs => match readWord? cs with
    | some result => .ok result
    | none => readPlain cs

end FlowWatch.Toml
