import FlowWatch.Proofs.Config.Document
import FlowWatch.Proofs.Time.DurationSums

/-!
# Durations among the settings

Three settings are durations, one of which may be absent. Each is written as the text of
its length, and the text is read back as just this length, up to the greatest one there
is. Nothing overflows on the way: behind every part of the text the reader has a sum that
is at most the length.
-/

namespace FlowWatch.Config

open FlowWatch.Toml FlowWatch.DurationText

/-- What a section writes under a key changes the settings of any other section of its
kind in the given way. -/
def ReadBack {σ : Type} (fields : List (Field σ)) (s : Section) (key : String)
    (update : σ → σ) : Prop :=
  ∃ setting, (key, setting) ∈ s.settings ∧
    ∀ other, readEntry fields other (key, setting.value) = .ok (update other)

/-- The text of a duration is read back through a field that takes durations. -/
theorem readBack_of {σ : Type} {fields : List (Field σ)} {s : Section} {key : String}
    {d : Duration} (update : Duration → σ → σ)
    (hfind : fields.find? (·.key == key) = some (.of key asDuration update))
    (hwritten : (key, .text (DurationText.write d)) ∈ s.settings) :
    ReadBack fields s key (update d) :=
  ⟨_, hwritten, readEntry_of hfind (asDuration_write d)⟩

/-- Every length, from nothing up to the greatest one, is read back exactly from the text
that is written for it: as a text on its own, with no sum on the way that does not fit or
exceeds the length, and as each of the settings that are durations, the one that may be
absent included. So no other length has this text. -/
theorem written_duration_returns (d : Duration) :
    DurationText.read (DurationText.write d) = .ok d ∧
      (∀ count, ∃ r,
        ((DurationText.write d).toList.take count).foldlM Reader.push Reader.start = .ok r ∧
          r.total ≤ d) ∧
      (∀ h : HealthSettings,
        ReadBack healthFields (healthSection { h with idleThreshold := d }) "idle_threshold"
          fun other => { other with idleThreshold := d }) ∧
      (∀ p : PipelineSettings,
        ReadBack pipelineFields (pipelineSection { p with unitInterval := d }) "unit_interval"
          fun other => { other with unitInterval := d }) ∧
      (∀ p : PipelineSettings,
        ReadBack pipelineFields (pipelineSection { p with stallAfter := some d }) "stall_after"
          fun other => { other with stallAfter := some d }) ∧
      ∀ other, DurationText.write other = DurationText.write d ↔ other = d := by
  have hread := read_write d
  refine ⟨hread, exists_sum_of_read hread, fun h => ?_, fun p => ?_, fun p => ?_,
    fun other => ⟨fun hsame => ?_, congrArg DurationText.write⟩⟩
  · exact readBack_of (fun d (other : HealthSettings) => { other with idleThreshold := d }) rfl
      (by simp [healthSection])
  · exact readBack_of (fun d (other : PipelineSettings) => { other with unitInterval := d }) rfl
      (by simp [pipelineSection])
  · exact readBack_of (fun d (other : PipelineSettings) => { other with stallAfter := some d })
      rfl (by simp [pipelineSection, optional])
  · have hother := read_write other
    rw [hsame, hread] at hother
    exact (Except.ok.inj hother).symm

/-- The text of the greatest length. -/
example : DurationText.write ⟨18446744073709551615999999999, by decide⟩ =
    "584542046090years 7months 15days 17h 5m 3s 999ms 999us 999ns" := by
  decide +kernel

end FlowWatch.Config
