import FlowWatch.Binary64.Basic
import FlowWatch.Text.Numeral

/-!
# Decimal texts of binary64 numbers

A text is an optional sign, then digits with at most one point among or beside
them and at least one digit in all, then optionally an exponent; or one of the
words for infinity and for no number, in any case. The value is the nearest
one. Exponents that leave no doubt are decided without computing powers, so
that reading stays short for every text.
-/

namespace FlowWatch.Binary64

open FlowWatch.Text

/-- Why a text is not a floating-point number. -/
inductive DecimalError
  /-- There is no text at all. -/
  | empty
  /-- The text has another form. -/
  | invalid
  deriving DecidableEq, Repr

/-- The wording of the fault. -/
def DecimalError.message : DecimalError → String
  | .empty => "cannot parse float from empty string"
  | .invalid => "invalid float literal"

/-- Digits at the start of a text, and what follows them. -/
def spanDigits (cs : List Char) : List Char × List Char :=
  (cs.takeWhile Char.isDigit, cs.dropWhile Char.isDigit)

/-- The whole number written by digits. -/
def digitsValue (digits : List Char) : Nat :=
  digits.foldl (fun acc c => acc * 10 + digitValue c) 0

/-- A decimal number: `digits * 10 ^ exponent`. -/
structure Decimal where
  /-- The digits, leading zeros included. -/
  digits : List Char
  /-- The power of ten of the last digit. -/
  exponent : Int

/-- The nearest value. A first digit above `10 ^ 400` makes it infinite, one
below `10 ^ -400` makes it zero, and only between them are powers computed. -/
def Decimal.value (negative : Bool) (d : Decimal) : Binary64 :=
  let significant := d.digits.dropWhile (· == '0')
  if significant.isEmpty then zero negative
  else
    let top : Int := significant.length + d.exponent
    if 400 < top then .infinite negative
    else if top < -400 then zero negative
    else
      ofRatio negative (digitsValue significant * Nat.pow 10 d.exponent.toNat)
        (Nat.pow 10 (-d.exponent).toNat)

/-- An exponent at the end of a number: nothing, or a letter e, an optional
sign and digits to the end. -/
def readExponent : List Char → Option Int
  | [] => some 0
  | c :: rest =>
    if c = 'e' || c = 'E' then
      let (negative, digits) : Bool × List Char := match rest with
        | '-' :: more => (true, more)
        | '+' :: more => (false, more)
        | more => (false, more)
      if digits.isEmpty || !digits.all Char.isDigit then none
      else
        let size : Int := digitsValue digits
        some (if negative then -size else size)
    else none

/-- A number without its sign. -/
def readDecimal (cs : List Char) : Option Decimal :=
  let (whole, rest) := spanDigits cs
  let (fraction, rest) := match rest with
    | '.' :: more => spanDigits more
    | more => ([], more)
  if whole.isEmpty && fraction.isEmpty then none
  else (readExponent rest).map fun e => ⟨whole ++ fraction, e - (fraction.length : Int)⟩

/-- The words that stand for values without digits. -/
def readWord (negative : Bool) (cs : List Char) : Option Binary64 :=
  let word := cs.map Char.toLower
  if word = "inf".toList || word = "infinity".toList then some (.infinite negative)
  else if word = "nan".toList then some .nan
  else none

/-- Reads a whole text as a floating-point number. -/
def ofText (cs : List Char) : Except DecimalError Binary64 :=
  let (negative, body) : Bool × List Char := match cs with
    | '-' :: rest => (true, rest)
    | '+' :: rest => (false, rest)
    | rest => (false, rest)
  if cs.isEmpty then .error .empty
  else match readDecimal body with
    | some d => .ok (d.value negative)
    | none => match readWord negative body with
      | some value => .ok value
      | none => .error .invalid

end FlowWatch.Binary64
