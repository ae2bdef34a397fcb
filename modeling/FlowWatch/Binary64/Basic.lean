import FlowWatch.Binary64.Rounding

/-!
# Binary floating-point numbers of 64 bits

A number is a sign, a significand and a binary exponent, or an infinity, or no
number. Every operation here is exact on whole numbers and rounds once at the
end, so that results can be reasoned about without any opaque arithmetic. The
interchange encoding is only written, never read.
-/

namespace FlowWatch

/-- A binary64 value. The finite constructor stands for
`± significand * 2 ^ exponent`. -/
inductive Binary64
  /-- The result of an operation without a value. -/
  | nan
  /-- A value beyond every finite one. -/
  | infinite (negative : Bool)
  /-- A finite value, zero included. -/
  | finite (negative : Bool) (significand : Nat) (exponent : Int)
  deriving DecidableEq, Repr

namespace Binary64

/-- The least exponent of a finite value. -/
def minExponent : Int := -1074

/-- The greatest exponent of a finite value. -/
def maxExponent : Int := 971

/-- One more than the largest significand. -/
def significandLimit : Nat := 9007199254740992

/-- The least significand of 53 bits, which is its leading bit. -/
def leadingBit : Nat := 4503599627370496

/-- Zero with the given sign. -/
def zero (negative : Bool) : Binary64 := .finite negative 0 minExponent

/-- The exponent at which `num / den` has a significand of 53 bits, or the
least exponent if the quotient is too small for that. -/
def exponentFor (num den : Nat) : Int :=
  let low : Int := (num.log2 : Int) - (den.log2 : Int) - 53
  let quotient := (num * Nat.pow 2 (-low).toNat) / (den * Nat.pow 2 low.toNat)
  let fitted := if significandLimit ≤ quotient then low + 1 else low
  max fitted minExponent

/-- The value nearest to `± num / den`, from the middle the one with an even
significand. Quotients beyond the finite values become infinite. -/
def ofRatio (negative : Bool) (num den : Nat) : Binary64 :=
  if num = 0 then zero negative
  else
    let exponent := exponentFor num den
    let rounded :=
      roundQuotient (num * Nat.pow 2 (-exponent).toNat) (den * Nat.pow 2 exponent.toNat)
    let carried := rounded = significandLimit
    let significand := if carried then significandLimit / 2 else rounded
    let final := if carried then exponent + 1 else exponent
    if maxExponent < final then .infinite negative else .finite negative significand final

/-- The value nearest to a whole number. -/
def ofInt (i : Int) : Binary64 := ofRatio (i < 0) i.natAbs 1

/-- The value nearest to `± significand * 2 ^ exponent`. -/
def ofDyadic (negative : Bool) (significand : Nat) (exponent : Int) : Binary64 :=
  ofRatio negative (significand * Nat.pow 2 exponent.toNat) (Nat.pow 2 (-exponent).toNat)

/-- The significand with the sign of the value. -/
def signedSignificand (negative : Bool) (significand : Nat) : Int :=
  if negative then -(significand : Int) else significand

/-- The rounded sum. Opposite infinities have none, and a sum of zero is
negative only if both terms are. -/
def add : Binary64 → Binary64 → Binary64
  | .nan, _ => .nan
  | _, .nan => .nan
  | .infinite s, .infinite t => if s = t then .infinite s else .nan
  | .infinite s, .finite .. => .infinite s
  | .finite .., .infinite t => .infinite t
  | .finite s m e, .finite t n f =>
    let low := min e f
    let sum := signedSignificand s m * Nat.pow 2 (e - low).toNat +
      signedSignificand t n * Nat.pow 2 (f - low).toNat
    if sum = 0 then zero (s && t) else ofDyadic (sum < 0) sum.natAbs low

/-- Whether the value is neither infinite nor missing. -/
def isFinite : Binary64 → Bool
  | .finite .. => true
  | _ => false

/-- Whether the value is greater than zero. -/
def isPositive : Binary64 → Bool
  | .finite negative significand _ => !negative && significand != 0
  | .infinite negative => !negative
  | .nan => false

/-- The whole number nearest to the value times a factor, for a value that is
finite and not negative. -/
def scaledRound? (factor : Nat) : Binary64 → Option Nat
  | .finite false significand exponent =>
    some (roundQuotient (significand * factor * Nat.pow 2 exponent.toNat)
      (Nat.pow 2 (-exponent).toNat))
  | _ => none

/-- The bit of the sign in the encoding. -/
def signBit : Nat := 0x8000000000000000

/-- The interchange encoding: one bit of sign, eleven of exponent, fifty-two of
significand without its leading one. -/
def encode : Binary64 → Nat
  | .nan => 0x7FF8000000000000
  | .infinite negative => (if negative then signBit else 0) + 0x7FF0000000000000
  | .finite negative significand exponent =>
    (if negative then signBit else 0) +
      if significand < leadingBit then significand
      else (exponent + 1075).toNat * leadingBit + (significand - leadingBit)

/-- One is encoded by its exponent alone. -/
example : (ofInt 1).encode = 0x3FF0000000000000 := by decide +kernel

/-- A third ends in an odd digit of its binary expansion, cut off below. -/
example : (ofRatio false 1 3).encode = 0x3FD5555555555555 := by decide +kernel

/-- The least positive value. -/
example : (ofRatio false 5 (Nat.pow 10 324)).encode = 1 := by decide +kernel

/-- The quotient beyond the last finite value is infinite. -/
example : ofRatio true (Nat.pow 10 309) 1 = .infinite true := by decide +kernel

end Binary64

end FlowWatch
