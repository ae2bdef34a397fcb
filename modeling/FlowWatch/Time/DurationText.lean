import FlowWatch.Text.Blank
import FlowWatch.Text.Quoted
import FlowWatch.Time.Duration

/-!
# Durations as texts with units

A duration in a configuration is a sum of terms such as `1h 30m` or `2.5s`.
The writer splits a length into years of 365.25 days, months of 30.44 days,
days, and the smaller units, and leaves out the parts that are zero. The
reader walks over the characters once. It takes any units in any order and
number, keeps whole seconds and nanoseconds in two counts of 64 bits, and
refuses any sum or product that leaves them.

Places in messages count bytes of UTF-8 from the start of the text. One sum has
no message: when the last carry of nanoseconds takes the seconds out of
their 64 bits, reading cannot go on and there is no result.
-/

namespace FlowWatch.DurationText

open FlowWatch.Text

/-- A unit of time. -/
inductive TimeUnit
  | nanosecond
  | microsecond
  | millisecond
  | second
  | minute
  | hour
  | day
  | week
  | month
  | year
  deriving DecidableEq, Repr

/-- The accepted spellings of each unit. -/
def TimeUnit.spellings : List (TimeUnit × List String) :=
  [(.nanosecond, ["nanos", "nsec", "ns"]),
   (.microsecond, ["usec", "us", "µs"]),
   (.millisecond, ["millis", "msec", "ms"]),
   (.second, ["seconds", "second", "secs", "sec", "s"]),
   (.minute, ["minutes", "minute", "min", "mins", "m"]),
   (.hour, ["hours", "hour", "hr", "hrs", "h"]),
   (.day, ["days", "day", "d"]),
   (.week, ["weeks", "week", "wk", "wks", "w"]),
   (.month, ["months", "month", "M"]),
   (.year, ["years", "year", "yr", "yrs", "y"])]

/-- The unit with the given spelling. -/
def TimeUnit.ofSpelling? (name : String) : Option TimeUnit :=
  (spellings.find? fun entry => entry.2.contains name).map Prod.fst

/-- Seconds in a minute. -/
def minuteSeconds : Nat := 60

/-- Seconds in an hour. -/
def hourSeconds : Nat := 3600

/-- Seconds in a day. -/
def daySeconds : Nat := 86400

/-- Seconds in a month of 30.44 days. -/
def monthSeconds : Nat := 2630016

/-- Seconds in a year of 365.25 days. -/
def yearSeconds : Nat := 31557600

/-- A number of seconds and a number of nanoseconds, kept apart. -/
structure Amount where
  /-- The seconds. -/
  seconds : Nat
  /-- The nanoseconds, which may exceed a second. -/
  nanos : Nat

/-- How a number of some unit counts: every one of them as so many seconds or
as so many nanoseconds. -/
inductive Scale
  /-- Each is this many seconds. -/
  | seconds (each : Nat)
  /-- Each is this many nanoseconds. -/
  | nanos (each : Nat)

/-- How a whole number of the unit counts. -/
def TimeUnit.scale : TimeUnit → Scale
  | .nanosecond => .nanos 1
  | .microsecond => .nanos 1000
  | .millisecond => .nanos 1000000
  | .second => .seconds 1
  | .minute => .seconds minuteSeconds
  | .hour => .seconds hourSeconds
  | .day => .seconds daySeconds
  | .week => .seconds (7 * daySeconds)
  | .month => .seconds monthSeconds
  | .year => .seconds yearSeconds

/-- How a fraction of the unit counts. Fractions of the units up to a minute
count as nanoseconds, of the greater ones as seconds; a nanosecond has none. -/
def TimeUnit.fractionScale : TimeUnit → Option Scale
  | .nanosecond => none
  | .second => some (.nanos 1000000000)
  | .minute => some (.nanos 60000000000)
  | unit => some unit.scale

/-- A decimal fraction: `numerator / denominator`. -/
structure Fraction where
  /-- The digits behind the point as a number. -/
  numerator : Nat
  /-- Ten to the number of those digits. -/
  denominator : Nat

/-- Why a text is not a duration. -/
inductive Fault
  /-- A character that cannot stand at this place. -/
  | invalidCharacter (place : Nat)
  /-- No number follows where the search for one began. -/
  | numberExpected (place : Nat)
  /-- The unit is unknown, or missing after the number. -/
  | unknownUnit (name : String) (number : Nat)
  /-- A number or a sum left its 64 bits, or a fraction is not whole. -/
  | overflow
  /-- There is no term at all. -/
  | empty
  /-- The last carry left the 64 bits of the seconds; there is no message. -/
  | lostCarry
  deriving DecidableEq, Repr

/-- The wording of the fault, except for a lost carry. -/
def Fault.message? : Fault → Option String
  | .invalidCharacter place => some s!"invalid character at {place}"
  | .numberExpected place => some s!"expected number at {place}"
  | .unknownUnit name number =>
    some <| if name.isEmpty then
      s!"time unit needed, for example {number}sec or {number}ms"
    else
      "unknown time unit " ++ quote name ++ ", supported units: ns, us/µs, ms, sec, min, " ++
        "hours, days, weeks, months, years (and few variations)"
  | .overflow =>
    some ("number is too large or cannot be represented without a lack of precision " ++
      "(values below 1ns are not supported)")
  | .empty => some "value was empty"
  | .lostCarry => none

/-- One more than the greatest number of 64 bits. -/
def wordLimit : Nat := 18446744073709551616

/-- A number that fits in 64 bits, and otherwise an overflow. -/
def fit (n : Nat) : Except Fault Nat := if n < wordLimit then .ok n else .error .overflow

/-- Adds an amount to a length. A carry is taken only from more than a whole
second of nanoseconds; exactly one second is carried at the very end, where
nothing checks the seconds any more. -/
def addAmount (total : Duration) (amount : Amount) : Except Fault Duration := do
  let nanos ← fit (total.subNanos + amount.nanos)
  let (seconds, nanos) ←
    if Nanos.perSecond < nanos then do
      let carried ← fit (amount.seconds + nanos / Nanos.perSecond)
      pure (carried, nanos % Nanos.perSecond)
    else pure (amount.seconds, nanos)
  let seconds ← fit (total.seconds + seconds)
  match Duration.ofNanos? (seconds * Nanos.perSecond + nanos) with
  | some sum => .ok sum
  | none => .error .lostCarry

/-- A whole number of the unit as an amount. -/
def wholeAmount (number : Nat) (unit : TimeUnit) : Except Fault Amount :=
  match unit.scale with
  | .seconds each => do return ⟨← fit (number * each), 0⟩
  | .nanos each => do return ⟨0, ← fit (number * each)⟩

/-- A product divided exactly, or an overflow. -/
def exactShare (fraction : Fraction) (each : Nat) : Except Fault Nat := do
  let product ← fit (fraction.numerator * each)
  if product % fraction.denominator = 0 then .ok (product / fraction.denominator)
  else .error .overflow

/-- A fraction of the unit as an amount. -/
def fractionAmount (fraction : Fraction) (unit : TimeUnit) : Except Fault Amount :=
  match unit.fractionScale with
  | none => .error .overflow
  | some (.seconds each) => do return ⟨← exactShare fraction each, 0⟩
  | some (.nanos each) => do return ⟨0, ← exactShare fraction each⟩

/-- A term: a whole number, perhaps a fraction, and the letters of a unit. -/
structure Term where
  /-- The whole number. -/
  number : Nat
  /-- The fraction behind a point, if there is one. -/
  fraction : Option Fraction
  /-- The letters of the unit. -/
  letters : List Char

/-- Adds a term to a length, its whole number first. -/
def addTerm (total : Duration) (term : Term) : Except Fault Duration := do
  let name := String.ofList term.letters
  match TimeUnit.ofSpelling? name with
  | none => .error (.unknownUnit name term.number)
  | some unit =>
    let total ← addAmount total (← wholeAmount term.number unit)
    match term.fraction with
    | none => pure total
    | some fraction => addAmount total (← fractionAmount fraction unit)

/-- Where the reader is within a text. -/
inductive Phase
  /-- It looks for the first digit of a term, since the given place. -/
  | seeking (since : Nat)
  /-- It is within a whole number. -/
  | whole (number : Nat)
  /-- It is behind a point. The mark is the place that a fault is reported at:
  the point itself, until a character behind it has been read. -/
  | fraction (number : Nat) (fraction : Fraction) (mark : Nat)
  /-- It is within the letters of a unit. -/
  | unit (term : Term)

/-- The state of the reader: the place of the next character, the sum of the
finished terms, whether there was any term, and the phase. -/
structure Reader where
  /-- The place of the next character. -/
  place : Nat
  /-- The sum of the terms that are finished. -/
  total : Duration
  /-- What is being read. -/
  phase : Phase

/-- The reader at the start of a text. -/
def Reader.start : Reader := ⟨0, Duration.zero, .seeking 0⟩

/-- Whether the character can stand in the name of a unit. -/
def isUnitLetter (c : Char) : Bool :=
  ('a' ≤ c && c ≤ 'z') || ('A' ≤ c && c ≤ 'Z') || c == 'µ'

/-- The fraction with one more digit. Zeros before the first other digit leave
the numerator alone. -/
def Fraction.push (f : Fraction) (digit : Nat) : Except Fault Fraction := do
  let denominator ← fit (f.denominator * 10)
  let numerator ← fit (f.numerator * 10 + digit)
  pure ⟨numerator, denominator⟩

/-- Whether any digit stands behind the point. -/
def Fraction.hasDigits (f : Fraction) : Bool := f.denominator != 1

/-- The phase and the sum after one more character. -/
def Reader.next (r : Reader) (c : Char) : Except Fault (Duration × Phase) :=
  let after := r.place + c.utf8Size
  match r.phase with
  | .seeking since =>
    if c.isDigit then .ok (r.total, .whole (digitValue c))
    else if isBlank c then .ok (r.total, .seeking since)
    else .error (.numberExpected since)
  | .whole number =>
    if c.isDigit then do return (r.total, .whole (← fit (number * 10 + digitValue c)))
    else if isBlank c then .ok (r.total, .whole number)
    else if isUnitLetter c then .ok (r.total, .unit ⟨number, none, [c]⟩)
    else if c = '.' then .ok (r.total, .fraction number ⟨0, 1⟩ r.place)
    else .error (.invalidCharacter r.place)
  | .fraction number fraction mark =>
    if c.isDigit then do
      return (r.total, .fraction number (← fraction.push (digitValue c)) after)
    else if isBlank c then .ok (r.total, .fraction number fraction after)
    else if isUnitLetter c then
      if fraction.hasDigits then .ok (r.total, .unit ⟨number, some fraction, [c]⟩)
      else .error (.invalidCharacter mark)
    else .error (.invalidCharacter mark)
  | .unit term =>
    if c.isDigit then do return (← addTerm r.total term, .whole (digitValue c))
    else if isBlank c then do return (← addTerm r.total term, .seeking after)
    else if isUnitLetter c then
      .ok (r.total, .unit { term with letters := term.letters ++ [c] })
    else .error (.invalidCharacter r.place)

/-- The reader after one more character. -/
def Reader.push (r : Reader) (c : Char) : Except Fault Reader := do
  let (total, phase) ← r.next c
  pure ⟨r.place + c.utf8Size, total, phase⟩

/-- The length at the end of a text. -/
def Reader.finish (r : Reader) : Except Fault Duration :=
  match r.phase with
  | .seeking _ => .ok r.total
  | .whole number => addTerm r.total ⟨number, none, []⟩
  | .fraction number fraction mark =>
    if fraction.hasDigits then addTerm r.total ⟨number, some fraction, []⟩
    else .error (.invalidCharacter mark)
  | .unit term => addTerm r.total term

/-- Reads a duration. A lone zero needs no unit, and a text of blanks is empty. -/
def read (text : String) : Except Fault Duration :=
  if text = "0" then .ok Duration.zero
  else if text.toList.all isBlank then .error .empty
  else do (← text.toList.foldlM Reader.push Reader.start).finish

/-- The number and the name of a part, or nothing if the number is zero. -/
def part (number : Nat) (name : String) : List String :=
  if number = 0 then [] else [String.ofList (numeral number) ++ name]

/-- As `part`, with a plural from two on. -/
def pluralPart (number : Nat) (name : String) : List String :=
  part number (if 1 < number then name ++ "s" else name)

/-- The parts of a length that are not zero, from the greatest unit down. -/
def parts (d : Duration) : List String :=
  let inYear := d.seconds % yearSeconds
  let inMonth := inYear % monthSeconds
  let inDay := inMonth % daySeconds
  let sub := d.subNanos
  pluralPart (d.seconds / yearSeconds) "year" ++ pluralPart (inYear / monthSeconds) "month" ++
    pluralPart (inMonth / daySeconds) "day" ++ part (inDay / hourSeconds) "h" ++
    part (inDay % hourSeconds / minuteSeconds) "m" ++ part (inDay % minuteSeconds) "s" ++
    part (sub / 1000000) "ms" ++ part (sub / 1000 % 1000) "us" ++ part (sub % 1000) "ns"

/-- Writes a length as its parts, separated by blanks. -/
def write (d : Duration) : String :=
  if d.nanos = 0 then "0s" else String.intercalate " " (parts d)

end FlowWatch.DurationText
