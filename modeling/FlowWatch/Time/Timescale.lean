import FlowWatch.Text.Blank
import FlowWatch.Time.Nanos

/-!
# Timescales of capture clocks

Capture sources count nanoseconds from different origins, with or without leap
seconds. Every timescale differs from international atomic time, counted from
1970, by a constant number of seconds, since the leap seconds so far are taken
as fixed.
-/

namespace FlowWatch

/-- Seconds by which atomic time is ahead of UTC since 2017. -/
def leapSeconds : Nat := 37

/-- Seconds from the first of January 1900 to the first of January 1970:
seventy years with seventeen leap days. -/
def ntpEpochSeconds : Nat := (70 * 365 + 17) * 24 * 60 * 60

/-- What a raw nanosecond count is counted in. -/
inductive Timescale
  /-- Atomic time since 1970, leap seconds included. -/
  | tai
  /-- UTC since 1900, without leap seconds, as network cameras report it. -/
  | ntp
  /-- UTC since 1970, without leap seconds, as computers keep it. -/
  | unixUtc
  deriving DecidableEq, Repr

namespace Timescale

/-- The name of the timescale in configurations and messages. -/
def name : Timescale → String
  | .tai => "tai"
  | .ntp => "ntp"
  | .unixUtc => "unix_utc"

/-- All timescales, in the order in which messages list them. -/
def all : List Timescale := [.tai, .ntp, .unixUtc]

/-- What is added to a count to give atomic time since 1970, in nanoseconds. -/
def toTai : Timescale → Int
  | .tai => 0
  | .ntp => ((leapSeconds : Int) - ntpEpochSeconds) * Nanos.perSecond
  | .unixUtc => (leapSeconds : Int) * Nanos.perSecond

/-- The timescale of a name in any case, with two short names and a hyphen
allowed for the computer clock; otherwise the name in small letters. -/
def ofText (text : String) : Except String Timescale :=
  let name := Text.lowerAscii text
  if name = "tai" then .ok .tai
  else if name = "ntp" then .ok .ntp
  else if ["unix_utc", "unix-utc", "unix", "utc"].contains name then .ok .unixUtc
  else .error name

/-- The epochs are 2208988800 seconds apart. -/
example : ntpEpochSeconds = 2208988800 := rfl

end Timescale

end FlowWatch
