import FlowWatch.Config.Settings
import FlowWatch.Time.DurationText
import FlowWatch.Toml.Writing

/-!
# Settings as documents

Every setting is written under its key in a fixed order, the defaults included.
Only what is absent is left out.
-/

namespace FlowWatch.Config

open FlowWatch.Toml

/-- A setting that may be absent. -/
def optional (key : String) : Option String → List (String × Setting)
  | some text => [(key, .text text)]
  | none => []

/-- The section of the health check. -/
def healthSection (h : HealthSettings) : Section where
  name := "health_check"
  settings :=
    [("enabled", .truth h.enabled),
     ("idle_threshold", .text (DurationText.write h.idleThreshold)),
     ("bind_host", .text h.bindHost),
     ("bind_port", .count h.bindPort.toNat),
     ("binding", .text h.binding.name)]

/-- The section of the pipeline. -/
def pipelineSection (p : PipelineSettings) : Section where
  name := "pipeline"
  settings :=
    [("observe", .texts p.observe),
     ("unit_interval", .text (DurationText.write p.unitInterval)),
     ("timestamp_mode", .text p.timestampMode.name)] ++
    optional "start_utc" p.startUtc ++
    optional "stall_after" (p.stallAfter.map DurationText.write) ++
    [("invalid_warmup_units", .count p.invalidWarmupUnits.toNat)]

/-- The settings as sections. -/
def sections (s : Settings) : List Section :=
  [healthSection s.healthCheck, pipelineSection s.pipeline]

/-- The settings as the text of a document. -/
def write (s : Settings) : String := String.ofList (writeSections (sections s))

end FlowWatch.Config
