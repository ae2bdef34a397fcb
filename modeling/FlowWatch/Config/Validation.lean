import FlowWatch.Config.Reading
import FlowWatch.Text.Blank

/-!
# Settings that can be used

Settings of the right shape may still be unusable: a threshold of nothing, no
host, a start time that is missing. The checks come in a fixed order and the
first one that fails is reported.
-/

namespace FlowWatch.Config

open FlowWatch.Text

/-- A length of time must not be empty. -/
def notZero : String := "must be greater than zero"

/-- The checks of the health check: a threshold that is positive and that the
idle clock can hold, and a host. -/
def validateHealth (h : HealthSettings) : Except Error Unit :=
  if h.idleThreshold.nanos = 0 then .error (.invalid "health_check.idle_threshold" notZero)
  else if Duration.greatestSigned < h.idleThreshold then
    .error (.invalid "health_check.idle_threshold"
      ("must not exceed " ++ DurationText.write Duration.greatestSigned))
  else if (trimBlanks h.bindHost.toList).isEmpty then
    .error (.invalid "health_check.bind_host" "must not be empty")
  else .ok ()

/-- The start of the pipeline, with its fault as an error. -/
def startTimestamp (p : PipelineSettings) : Except Error Timestamp :=
  match p.startTimestamp with
  | .ok t => .ok t
  | .error fault => .error (.invalid "pipeline.start_utc" fault.message)

/-- The checks of the pipeline: a positive interval, a start where the mode needs
one, late timestamps only in the mode that has them, and a start that can be
read. -/
def validatePipeline (p : PipelineSettings) : Except Error Unit :=
  if p.unitInterval.nanos = 0 then .error (.invalid "pipeline.unit_interval" notZero)
  else if p.timestampMode = .startAtFixedTime && p.startUtc.isNone then
    .error (.invalid "pipeline.start_utc"
      "required when timestamp_mode is start_at_fixed_time")
  else if 0 < p.invalidWarmupUnits && p.timestampMode ≠ .ntp then
    .error (.invalid "pipeline.invalid_warmup_units"
      ("only supported with timestamp_mode ntp, not " ++ p.timestampMode.name))
  else (startTimestamp p).map fun _ => ()

/-- All checks. -/
def validate (s : Settings) : Except Error Unit := do
  validateHealth s.healthCheck
  validatePipeline s.pipeline

end FlowWatch.Config
