/-!
# Decimal numerals

Writing counts in decimal, with or without leading zeros, and reading an
unsigned count that must not exceed a given limit. The reader works from the
left and stops at the first fault, so that of two faults the earlier one is
reported, and a character that is no digit counts before an overflow at the
same place.
-/

namespace FlowWatch.Text

/-- The decimal numeral of a count, without leading zeros. -/
def numeral (n : Nat) : List Char := Nat.toDigits 10 n

/-- The decimal numeral with leading zeros up to the given width. -/
def padded (width n : Nat) : List Char :=
  List.replicate (width - (numeral n).length) '0' ++ numeral n

/-- The decimal numeral of a signed number, with a minus sign if it is negative. -/
def signedNumeral (i : Int) : List Char :=
  if i < 0 then '-' :: numeral i.natAbs else numeral i.natAbs

/-- The value of a decimal digit. -/
def digitValue (c : Char) : Nat := c.toNat - '0'.toNat

/-- Why a text is not an unsigned decimal number within the limit. -/
inductive NumeralError
  /-- There is no text at all. -/
  | empty
  /-- Some character is not a digit. -/
  | invalidDigit
  /-- The number exceeds the limit. -/
  | tooLarge
  deriving DecidableEq, Repr

/-- The wording of the fault. -/
def NumeralError.message : NumeralError → String
  | .empty => "cannot parse integer from empty string"
  | .invalidDigit => "invalid digit found in string"
  | .tooLarge => "number too large to fit in target type"

/-- Reads digits to the end, on top of the value of the digits before them. -/
def readDigits (limit : Nat) : Nat → List Char → Except NumeralError Nat
  | acc, [] => .ok acc
  | acc, c :: rest =>
    if c.isDigit then
      let next := acc * 10 + digitValue c
      if next ≤ limit then readDigits limit next rest else .error .tooLarge
    else .error .invalidDigit

/-- Reads an unsigned number of at most `limit`. A plus sign may stand before
the digits; a sign without digits is an invalid digit. -/
def readUnsigned (limit : Nat) : List Char → Except NumeralError Nat
  | [] => .error .empty
  | ['+'] => .error .invalidDigit
  | '+' :: rest => readDigits limit 0 rest
  | cs => readDigits limit 0 cs

end FlowWatch.Text
