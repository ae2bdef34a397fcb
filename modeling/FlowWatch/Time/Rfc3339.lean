import FlowWatch.Time.Calendar
import FlowWatch.Time.Nanos

/-!
# Date-times in the form of RFC 3339

A date-time such as `2021-01-02T22:57:10.49Z` is read from the left in fields
of fixed width, then a fraction of any length, then an offset from UTC. The
order of the checks is part of the meaning, since it decides which of several
faults is reported: the text is long enough, each field is well formed up to
the day, the day exists, the time of day is well formed, the time of day
exists, the offset is well formed, nothing follows it, and it is less than a
day. A sixtieth second counts as one second more of nanoseconds after the
fifty-ninth.
-/

namespace FlowWatch.Rfc3339

open FlowWatch.Calendar FlowWatch.Text

/-- Why a text is not a date-time. -/
inductive Fault
  /-- The text ends too early. -/
  | tooShort
  /-- A character does not fit its place. -/
  | invalid
  /-- A field has a value that no date-time has. -/
  | outOfRange
  /-- Something follows the offset. -/
  | tooLong
  deriving DecidableEq, Repr

/-- The wording of the fault. -/
def Fault.message : Fault → String
  | .tooShort => "premature end of input"
  | .invalid => "input contains invalid characters"
  | .outOfRange => "input is out of range"
  | .tooLong => "trailing input"

/-- Reads exactly `count` digits on top of a value, and gives what follows. -/
def readField : Nat → Nat → List Char → Except Fault (Nat × List Char)
  | 0, value, cs => .ok (value, cs)
  | _ + 1, _, [] => .error .tooShort
  | count + 1, value, c :: cs =>
    if c.isDigit then readField count (value * 10 + digitValue c) cs else .error .invalid

/-- Reads one of the allowed characters, and gives what follows. -/
def readMark (allowed : List Char) : List Char → Except Fault (List Char)
  | [] => .error .tooShort
  | c :: cs => if allowed.contains c then .ok cs else .error .invalid

/-- Reads a date that the calendar has. -/
def readDate (cs : List Char) : Except Fault (Date × List Char) := do
  let (year, cs) ← readField 4 0 cs
  let cs ← readMark ['-'] cs
  let (month, cs) ← readField 2 0 cs
  let cs ← readMark ['-'] cs
  let (day, cs) ← readField 2 0 cs
  let date : Date := ⟨year, month, day⟩
  if date.exists then pure (date, cs) else throw .outOfRange

/-- The nanoseconds of a fraction: at least one digit, of which nine count. -/
def readFraction (cs : List Char) : Except Fault (Nat × List Char) :=
  match cs with
  | [] => .error .tooShort
  | _ =>
    let digits := cs.takeWhile Char.isDigit
    if digits.isEmpty then .error .invalid
    else
      let kept := digits.take 9
      let value := kept.foldl (fun acc c => acc * 10 + digitValue c) 0
      .ok (value * Nat.pow 10 (9 - kept.length), cs.dropWhile Char.isDigit)

/-- A time of day: seconds since midnight and nanoseconds, which reach past a
second in a sixtieth second. -/
structure TimeOfDay where
  /-- The seconds since midnight. -/
  second : Nat
  /-- The nanoseconds beyond them. -/
  nano : Nat

/-- Reads a time of day, whose fields are checked once all are read. -/
def readTime (cs : List Char) : Except Fault (TimeOfDay × List Char) := do
  let (hour, cs) ← readField 2 0 cs
  let cs ← readMark [':'] cs
  let (minute, cs) ← readField 2 0 cs
  let cs ← readMark [':'] cs
  let (second, cs) ← readField 2 0 cs
  let (nano, cs) ← match cs with
    | '.' :: rest => readFraction rest
    | rest => pure (0, rest)
  let (second, nano) := if second = 60 then (59, nano + Nanos.perSecond) else (second, nano)
  if hour < 24 && minute < 60 && second < 60 then
    pure (⟨hour * 3600 + minute * 60 + second, nano⟩, cs)
  else throw .outOfRange

/-- Reads the two digits of the minutes of an offset. Two digits from sixty on
are out of range, and a text that ends within its first two bytes is too short. -/
def readOffsetMinutes : List Char → Except Fault (Nat × List Char)
  | [] => .error .tooShort
  | [c] => .error (if c.utf8Size < 2 then .tooShort else .invalid)
  | tens :: units :: rest =>
    if tens.isDigit && units.isDigit then
      if '6' ≤ tens then .error .outOfRange
      else .ok (digitValue tens * 10 + digitValue units, rest)
    else .error .invalid

/-- Reads an offset from UTC in seconds: the letter Z, or a sign, hours, a
colon and minutes. -/
def readOffset (cs : List Char) : Except Fault (Int × List Char) :=
  match cs with
  | [] => .error .tooShort
  | c :: rest =>
    if c = 'Z' || c = 'z' then .ok (0, rest)
    else if c = '+' || c = '-' || c = '\u2212' then do
      if (String.ofList rest).utf8ByteSize < 2 then throw .tooShort
      let (hours, rest) ← readField 2 0 rest
      let rest ← readMark [':'] rest
      let (minutes, rest) ← readOffsetMinutes rest
      let size : Int := hours * 3600 + minutes * 60
      pure (if c = '+' then size else -size, rest)
    else .error .invalid

/-- A date-time as it was written. -/
structure Written where
  /-- The local date. -/
  date : Date
  /-- The local time of day. -/
  time : TimeOfDay
  /-- The offset from UTC in seconds. -/
  offset : Int

/-- Nanoseconds since the Unix epoch, of any size. -/
def Written.unixNanos (w : Written) : Int :=
  let days := w.date.dayNumber - unixEpochDay
  (days * daySeconds + w.time.second - w.offset) * Nanos.perSecond + w.time.nano

/-- The least length of a date-time in bytes, without an offset. -/
def minBytes : Nat := 19

/-- Reads a whole text as a date-time. -/
def read (text : String) : Except Fault Written := do
  if text.utf8ByteSize < minBytes then throw .tooShort
  let (date, cs) ← readDate text.toList
  let cs ← readMark ['T', 't', ' '] cs
  let (time, cs) ← readTime cs
  let (offset, cs) ← readOffset cs
  if !cs.isEmpty then throw .tooLong
  if daySeconds ≤ offset.natAbs then throw .outOfRange
  pure ⟨date, time, offset⟩

end FlowWatch.Rfc3339
