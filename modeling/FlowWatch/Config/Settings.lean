import FlowWatch.Normalizer.Mode
import FlowWatch.Time.Duration
import FlowWatch.Time.Timestamp

/-!
# Settings and their defaults

The settings have two sections: the health check, and the simulated pipeline
that it watches. This module holds their types, the values that stand for
absent keys, and what can be read off a section without any further input.
-/

namespace FlowWatch

/-- How probes share idle trackers. -/
inductive Binding
  /-- All probes feed one tracker: data at any point counts. -/
  | shared
  /-- Every probe has a tracker of its own: data must pass every point. -/
  | perProbe
  deriving DecidableEq, Repr

namespace Binding

/-- All bindings, in the order in which messages list them. -/
def all : List Binding := [.shared, .perProbe]

/-- The name of the binding in configurations. -/
def name : Binding → String
  | .shared => "shared"
  | .perProbe => "per_probe"

/-- The label of the binding in logs. -/
def label : Binding → String
  | .shared => "Shared"
  | .perProbe => "PerProbe"

end Binding

/-- The section of the health check. -/
structure HealthSettings where
  /-- Whether there is a health check at all. -/
  enabled : Bool
  /-- The longest gap between units that counts as alive. -/
  idleThreshold : Duration
  /-- The host or address to listen on. -/
  bindHost : String
  /-- The port to listen on. -/
  bindPort : UInt16
  /-- How probes share trackers. -/
  binding : Binding
  deriving DecidableEq

namespace HealthSettings

/-- The values for absent keys: switched off, two minutes, all interfaces. -/
def default : HealthSettings where
  enabled := false
  idleThreshold := ⟨120000000000, by decide⟩
  bindHost := "0.0.0.0"
  bindPort := 8080
  binding := .shared

/-- The host and the port in one text. A host with a colon stands in brackets
unless it already does. -/
def bindAddress (h : HealthSettings) : String :=
  let host := h.bindHost.toList
  let shown :=
    if host.contains ':' && host.head? != some '[' then "[" ++ h.bindHost ++ "]" else h.bindHost
  shown ++ ":" ++ String.ofList (Text.numeral h.bindPort.toNat)

end HealthSettings

/-- The section of the simulated pipeline. -/
structure PipelineSettings where
  /-- The texts of the points to probe. -/
  observe : List String
  /-- The time between two units. -/
  unitInterval : Duration
  /-- How raw timestamps are meant. -/
  timestampMode : InputMode
  /-- The date-time of the first unit in the fixed mode. -/
  startUtc : Option String
  /-- The time after which the source produces nothing more. -/
  stallAfter : Option Duration
  /-- How many units come with times of the stream instead of the clock. -/
  invalidWarmupUnits : UInt32
  deriving DecidableEq

namespace PipelineSettings

/-- The values for absent keys: the last pad of the pipeline, 25 units a second. -/
def default : PipelineSettings where
  observe := ["sink:sink"]
  unitInterval := ⟨40000000, by decide⟩
  timestampMode := .ntp
  startUtc := none
  stallAfter := none
  invalidWarmupUnits := 0

/-- The timestamp of the configured start, or the sentinel without one. -/
def startTimestamp (p : PipelineSettings) : Except Timestamp.Fault Timestamp :=
  match p.startUtc with
  | some text => Timestamp.ofRfc3339 text
  | none => .ok Timestamp.invalid

end PipelineSettings

/-- All settings. -/
structure Settings where
  /-- The section of the health check. -/
  healthCheck : HealthSettings
  /-- The section of the pipeline. -/
  pipeline : PipelineSettings
  deriving DecidableEq

/-- The settings of an empty configuration. -/
def Settings.default : Settings := ⟨HealthSettings.default, PipelineSettings.default⟩

end FlowWatch
