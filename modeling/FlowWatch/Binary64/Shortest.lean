import FlowWatch.Binary64.Basic
import FlowWatch.Text.Numeral

/-!
# Shortest decimal texts of binary64 numbers

The digits of a finite value are the fewest that read back as it, and of those
the nearest. They are found grid by grid: with one digit, with two, and so on
up to seventeen, the two neighbours of the value among the decimals with that
many digits are tried, in exact arithmetic. Of two equally near ones the layout
decides. Two layouts write the digits: one is always positional and takes the
greater one, the other turns to an exponent for large and small values and takes
the even one.
-/

namespace FlowWatch.Binary64

open FlowWatch.Text

/-- Which of two equally near decimals is taken. -/
inductive Tie
  /-- The greater one. -/
  | up
  /-- The one with an even last digit. -/
  | even
  deriving DecidableEq, Repr

/-- Whether a tie goes from a last digit to the next one. -/
def Tie.leaves (tie : Tie) (below : Nat) : Bool := tie == .up || below % 2 == 1

/-- The reals that round to a positive finite value, all scaled by the same
whole number so that the bounds are whole. -/
structure RoundingInterval where
  /-- The value itself. -/
  value : Nat
  /-- The lower end. -/
  lower : Nat
  /-- The upper end. -/
  upper : Nat
  /-- The common scale of the three. -/
  scale : Nat
  /-- Whether the ends themselves round to the value. -/
  closed : Bool

/-- The interval of a significand and an exponent. Below a power of two the
neighbour is half as far away. -/
def roundingInterval (significand : Nat) (exponent : Int) : RoundingInterval :=
  let up := Nat.pow 2 exponent.toNat
  let narrow := significand = leadingBit && minExponent < exponent
  { value := 4 * significand * up
    lower := (4 * significand - if narrow then 1 else 2) * up
    upper := (4 * significand + 2) * up
    scale := 4 * Nat.pow 2 (-exponent).toNat
    closed := significand % 2 == 0 }

/-- Whether the decimal `d * 10 ^ k` rounds to the value. -/
def RoundingInterval.contains (r : RoundingInterval) (d : Nat) (k : Int) : Bool :=
  let here := d * Nat.pow 10 k.toNat * r.scale
  let unit := Nat.pow 10 (-k).toNat
  if r.closed then r.lower * unit ≤ here && here ≤ r.upper * unit
  else r.lower * unit < here && here < r.upper * unit

/-- The number of decimal digits before the point of `num / den`, zero or less
if the first digit stands behind it. The first guess is from the digit counts. -/
def decimalTop (num den : Nat) : Int :=
  let guess : Int := (numeral num).length - (numeral den).length
  if den * Nat.pow 10 guess.toNat ≤ num * Nat.pow 10 (-guess).toNat then guess + 1 else guess

/-- The nearest decimal with exactly the given number of digits that rounds to
the value, if there is one. -/
def RoundingInterval.onGrid (r : RoundingInterval) (tie : Tie) (count : Nat) :
    Option (Nat × Int) :=
  let k := decimalTop r.value r.scale - count
  let below := (r.value * Nat.pow 10 (-k).toNat) / (r.scale * Nat.pow 10 k.toNat)
  let twice := 2 * r.value * Nat.pow 10 (-k).toNat
  let middle := (2 * below + 1) * r.scale * Nat.pow 10 k.toNat
  match r.contains below k, r.contains (below + 1) k with
  | true, true =>
    let above := middle < twice || (middle = twice && tie.leaves below)
    some (if above then below + 1 else below, k)
  | true, false => some (below, k)
  | false, true => some (below + 1, k)
  | false, false => none

/-- The first grid with a hit, from the given digit count on. -/
def RoundingInterval.search (r : RoundingInterval) (tie : Tie) : Nat → Nat → Nat × Int
  | 0, count => (r.onGrid tie count).getD (0, 0)
  | left + 1, count => match r.onGrid tie count with
    | some hit => hit
    | none => r.search tie left (count + 1)

/-- The shortest digits of a positive finite value and the power of ten of the
last one, without zeros at the end. -/
def shortestDigits (tie : Tie) (significand : Nat) (exponent : Int) : List Char × Int :=
  let (d, k) := (roundingInterval significand exponent).search tie 16 1
  let digits := numeral d
  let kept := (digits.reverse.dropWhile (· == '0')).reverse
  (kept, k + (digits.length - kept.length : Nat))

/-- The digits of a value around a decimal point, with a zero where a side
would be empty. -/
def layPositional (digits : List Char) (k : Int) : List Char :=
  let top : Int := digits.length + k
  if 0 ≤ k then digits ++ List.replicate k.toNat '0' ++ ['.', '0']
  else if 0 < top then digits.take top.toNat ++ '.' :: digits.drop top.toNat
  else ['0', '.'] ++ List.replicate (-top).toNat '0' ++ digits

/-- The digits of a value with an exponent of ten, which always has its sign. -/
def layScientific (digits : List Char) (k : Int) : List Char :=
  let top : Int := digits.length + k
  let mantissa := match digits with
    | first :: second :: rest => first :: '.' :: second :: rest
    | short => short
  mantissa ++ 'e' :: (if 0 < top then ['+'] else []) ++ signedNumeral (top - 1)

/-- The sign of a written value. -/
def signText (negative : Bool) : List Char := if negative then ['-'] else []

/-- A value written positionally, however long that is. -/
def positionalText : Binary64 → String
  | .nan => "NaN"
  | .infinite negative => if negative then "-inf" else "inf"
  | .finite negative significand exponent =>
    let body := if significand = 0 then ['0', '.', '0']
      else let (digits, k) := shortestDigits .up significand exponent
        layPositional digits k
    String.ofList (signText negative ++ body)

/-- A value written positionally from a hundred-thousandth up to sixteen digits
before the point, and with an exponent beyond. -/
def compactText : Binary64 → String
  | .nan => "NaN"
  | .infinite negative => if negative then "-inf" else "inf"
  | .finite negative significand exponent =>
    let body := if significand = 0 then ['0', '.', '0']
      else
        let (digits, k) := shortestDigits .even significand exponent
        let top : Int := digits.length + k
        if -5 < top && top ≤ 16 then layPositional digits k else layScientific digits k
    String.ofList (signText negative ++ body)

/-- One tenth is its one digit. -/
example : (ofRatio false 1 10).positionalText = "0.1" := by decide +kernel

/-- A quarter behind sixteen digits is as near to two tenths as to three. -/
example : ((ofRatio false 4503599627370497 4).positionalText,
    (ofRatio false 4503599627370497 4).compactText) =
      ("1125899906842624.3", "1125899906842624.2") := by
  decide +kernel

/-- The least positive value has a single digit too. -/
example : (Binary64.finite false 1 minExponent).compactText = "5e-324" := by decide +kernel

end FlowWatch.Binary64
