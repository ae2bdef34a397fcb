import FlowWatch.Text.Numeral
import FlowWatch.Time.Calendar
import FlowWatch.Toml.Fault
import FlowWatch.Toml.Value

/-!
# Date-times of documents

A date-time is a date, a time of day, or a date and a time of day, and then
perhaps an offset from UTC. The day must exist, and a minute may have a
sixtieth second. Only the form is checked; the value is not kept.

What starts with a year and a hyphen can only be a date, and what starts with an
hour and a colon only a time of day; from there on every fault is final. An hour
that a day does not have starts no time of day.
-/

namespace FlowWatch.Toml

open FlowWatch.Text

/-- Exactly so many digits, as a number. -/
def leadingNumber? (count : Nat) (cs : List Char) : Option Nat :=
  let digits := cs.take count
  if digits.length = count && digits.all Char.isDigit then
    some (digits.foldl (fun acc c => acc * 10 + digitValue c) 0)
  else none

/-- A number of two digits within bounds. -/
def readBounded (low high : Nat) : Reader Nat := fun cs =>
  match leadingNumber? 2 cs with
  | none => .error (.final cs .unknown)
  | some value =>
    if low ≤ value && value ≤ high then .ok (value, cs.drop 2)
    else .error (.final cs (.because .outOfRange))

/-- One given character. -/
def readMark (mark : Char) : Reader Unit
  | c :: rest =>
    if c = mark then .ok ((), rest) else .error (.final (c :: rest) .unknown)
  | [] => .error (.final [] .unknown)

/-- The rest of a date behind the year and a hyphen. -/
def readDay (year : Nat) : Reader Unit := fun cs => do
  let (month, cs) ← readBounded 1 12 cs
  let ((), day) ← readMark '-' cs
  let (number, rest) ← readBounded 1 31 day
  if number ≤ Calendar.daysInMonth year month then pure ((), rest)
  else .error (.final day (.because .outOfRange))

/-- The text behind the fraction of a second, if it starts with one. -/
def skipFraction : List Char → List Char
  | '.' :: rest =>
    if (rest.takeWhile Char.isDigit).isEmpty then '.' :: rest
    else rest.dropWhile Char.isDigit
  | cs => cs

/-- The rest of a time of day behind the hour and a colon. -/
def readMinute : Reader Unit := fun cs => do
  let (_, cs) ← readBounded 0 59 cs
  let ((), cs) ← readMark ':' cs
  let (_, cs) ← readBounded 0 60 cs
  pure ((), skipFraction cs)

/-- The text behind an hour and a colon. -/
def afterHour? (cs : List Char) : Option (List Char) :=
  match leadingNumber? 2 cs, cs.drop 2 with
  | some hour, ':' :: rest => if hour ≤ 23 then some rest else none
  | _, _ => none

/-- An offset from UTC, if the text starts with one. -/
def readOffset : Reader Unit
  | c :: rest =>
    if c = 'Z' || c = 'z' then .ok ((), rest)
    else if c = '+' || c = '-' then within .offset do
      let (_, cs) ← readBounded 0 23 rest
      let ((), cs) ← readMark ':' cs
      let (_, cs) ← readBounded 0 59 cs
      pure ((), cs)
    else .ok ((), c :: rest)
  | [] => .ok ((), [])

/-- A time of day behind a date, if there is one. -/
def readClock (cs : List Char) : Except Fault (Unit × List Char) :=
  match cs with
  | c :: rest =>
    if c = 'T' || c = 't' || c = ' ' then
      match afterHour? rest with
      | some minute => do
        let ((), left) ← readMinute minute
        readOffset left
      | none => .ok ((), cs)
    else .ok ((), cs)
  | [] => .ok ((), [])

/-- Reads a date-time, if the text starts like one. -/
def readDateTime? (cs : List Char) : Option (Except Fault (Value × List Char)) :=
  match leadingNumber? 4 cs, cs.drop 4 with
  | some year, '-' :: rest => some <| within .dateTime do
    let ((), rest) ← readDay year rest
    let ((), rest) ← readClock rest
    pure (.dateTime, rest)
  | _, _ => (afterHour? cs).map fun minute => within .time do
    let ((), rest) ← readMinute minute
    pure (.dateTime, rest)

end FlowWatch.Toml
