import FlowWatch.Time.Timescale

/-!
# How raw timestamps are meant

Three modes take raw timestamps in a known timescale. The other two take only
their differences as meaningful and shift all of them by one offset, which the
first unit decides.
-/

namespace FlowWatch

/-- How the raw timestamps of a source are meant. -/
inductive InputMode
  /-- Counts of the network timescale. -/
  | ntp
  /-- Counts of atomic time. -/
  | tai
  /-- Counts of the computer clock. -/
  | unixUtc
  /-- The first unit is now. -/
  | startAtCurrentTime
  /-- The first unit is at a given time. -/
  | startAtFixedTime
  deriving DecidableEq, Repr

namespace InputMode

/-- All modes, in the order in which messages list them. -/
def all : List InputMode := [.ntp, .tai, .unixUtc, .startAtCurrentTime, .startAtFixedTime]

/-- The name of the mode in configurations and messages. -/
def name : InputMode → String
  | .ntp => "ntp"
  | .tai => "tai"
  | .unixUtc => "unix_utc"
  | .startAtCurrentTime => "start_at_current_time"
  | .startAtFixedTime => "start_at_fixed_time"

/-- The timescale of a mode that takes raw timestamps as they are. -/
def scale? : InputMode → Option Timescale
  | .ntp => some .ntp
  | .tai => some .tai
  | .unixUtc => some .unixUtc
  | .startAtCurrentTime | .startAtFixedTime => none

end InputMode

end FlowWatch
