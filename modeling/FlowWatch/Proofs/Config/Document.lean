import FlowWatch.Config.Reading
import FlowWatch.Config.Writing
import FlowWatch.Proofs.Time.DurationText
import FlowWatch.Proofs.Toml.Document

/-!
# Settings read from their own document

Settings are written as two sections whose values are read back one by one: each
key finds its own field, and the shape of the field takes the value that was
written for it. What is absent is not written, and its field keeps the default,
which is absent too.
-/

namespace FlowWatch.Config

open FlowWatch.Toml

/-! ### Values -/

/-- A truth value has the shape of one. -/
theorem asTruth_truth (b : Bool) : asTruth (Setting.truth b).value = .ok b := rfl

/-- A text has the shape of one. -/
theorem asText_text (text : String) : asText (Setting.text text).value = .ok text := rfl

/-- A list of texts has the shape of one. -/
theorem asTexts_texts (items : List String) :
    asTexts (Setting.texts items).value = .ok items := by
  have hfrom : ∀ index, asTextsFrom index (items.map .text) = .ok items := by
    induction items with
    | nil => exact fun _ => rfl
    | cons item items ih =>
      intro index
      rw [List.map_cons, asTextsFrom, ih]
      rfl
  exact hfrom 0

/-- The text of a duration has the shape of one. -/
theorem asDuration_write (d : Duration) :
    asDuration (Setting.text (DurationText.write d)).value = .ok d := by
  rw [asDuration, asText_text, Text.ok_bind, DurationText.read_write]

/-- A count below a limit has the shape of one. -/
theorem asCount_count {limit n : Nat} (h : n < limit) (expected : String) :
    asCount limit expected (Setting.count n).value = .ok n := by
  have hlimit : (0 ≤ (n : Int) && (n : Int) < limit) = true := by
    simp only [Bool.and_eq_true, decide_eq_true_eq]
    omega
  rw [Setting.value, asCount, if_pos hlimit, Int.toNat_natCast]

/-- The name of a binding is a choice of it. -/
theorem asChoice_binding (b : Binding) :
    asChoice Binding.all Binding.name (Setting.text b.name).value = .ok b := by
  cases b <;> rfl

/-- The name of a mode is a choice of it. -/
theorem asChoice_mode (m : InputMode) :
    asChoice InputMode.all InputMode.name (Setting.text m.name).value = .ok m := by
  cases m <;> rfl

/-! ### Entries -/

section Entries

variable {σ α : Type} {fields : List (Field σ)} {key : String} {update : α → σ → σ}

/-- An entry whose value has the shape of its field changes the field. -/
theorem readEntry_ofParts {shape : Value → Except Misfit α}
    (hfind : fields.find? (·.key == key) = some (.ofParts key shape update)) {v : Value} {a : α}
    (hshape : shape v = .ok a) (s : σ) : readEntry fields s (key, v) = .ok (update a s) := by
  rw [readEntry, hfind]
  simp only [Field.ofParts, hshape]
  rfl

/-- An entry whose value has the shape of its field as a whole changes the field. -/
theorem readEntry_of {shape : Value → Except ShapeFault α}
    (hfind : fields.find? (·.key == key) = some (.of key shape update)) {v : Value} {a : α}
    (hshape : shape v = .ok a) (s : σ) : readEntry fields s (key, v) = .ok (update a s) := by
  refine readEntry_ofParts hfind ?_ s
  rw [hshape]
  rfl

/-- Entries are read one after the other. -/
theorem readEntries_cons {s t : σ} {entry : String × Value} (h : readEntry fields s entry = .ok t)
    (entries : List (String × Value)) :
    readEntries fields (entry :: entries) s = readEntries fields entries t := by
  rw [readEntries, List.foldlM_cons, h, Text.ok_bind]
  rfl

/-- An entry that may be absent changes its field or nothing. -/
theorem readEntries_optional {shape : Value → Except ShapeFault α}
    (hfind : fields.find? (·.key == key) = some (.of key shape update)) {text : α → String}
    (hshape : ∀ a, shape (Setting.text (text a)).value = .ok a) (o : Option α)
    (entries : List (String × Value)) (s : σ) :
    readEntries fields ((optional key (o.map text)).map (fun e => (e.1, e.2.value)) ++ entries) s =
      readEntries fields entries (o.elim s fun a => update a s) := by
  cases o with
  | none => rfl
  | some a => exact readEntries_cons (readEntry_of hfind (hshape a) s) entries

/-- Nothing is changed by no entries. -/
theorem readEntries_nil (fields : List (Field σ)) (s : σ) : readEntries fields [] s = .ok s := rfl

end Entries

/-- The section of the health check is read back. -/
theorem readSection_health (label : String) (h : HealthSettings) :
    readSection label healthFields HealthSettings.default (healthSection h).value.2 = .ok h := by
  have hport : h.bindPort.toNat < 65536 := h.bindPort.toNat_lt
  simp only [Section.value, healthSection, readSection, List.map_cons, List.map_nil]
  rw [readEntries_cons (readEntry_of rfl (asTruth_truth h.enabled) _),
    readEntries_cons (readEntry_of rfl (asDuration_write h.idleThreshold) _),
    readEntries_cons (readEntry_of rfl (asText_text h.bindHost) _),
    readEntries_cons (readEntry_of rfl (asCount_count hport "u16") _),
    readEntries_cons (readEntry_ofParts rfl (asChoice_binding h.binding) _),
    readEntries_nil]
  simp

/-- The section of the pipeline is read back. -/
theorem readSection_pipeline (label : String) (p : PipelineSettings) :
    readSection label pipelineFields PipelineSettings.default (pipelineSection p).value.2 =
      .ok p := by
  have hwarmup : p.invalidWarmupUnits.toNat < 4294967296 := p.invalidWarmupUnits.toNat_lt
  have hstart : optional "start_utc" p.startUtc = optional "start_utc" (p.startUtc.map id) := by
    rw [Option.map_id, id]
  simp only [Section.value, pipelineSection, readSection, List.map_append, List.map_cons,
    List.map_nil, List.append_assoc, List.cons_append, List.nil_append, hstart]
  rw [readEntries_cons (readEntry_ofParts rfl (asTexts_texts p.observe) _),
    readEntries_cons (readEntry_of rfl (asDuration_write p.unitInterval) _),
    readEntries_cons (readEntry_ofParts rfl (asChoice_mode p.timestampMode) _),
    readEntries_optional rfl (fun start => asText_text (id start)),
    readEntries_optional rfl asDuration_write,
    readEntries_cons (readEntry_of rfl (asCount_count hwarmup "u32") _),
    readEntries_nil]
  cases p with
  | mk observe unitInterval timestampMode startUtc stallAfter invalidWarmupUnits =>
    cases startUtc <;> cases stallAfter <;> simp [PipelineSettings.default]

/-! ### Documents -/

/-- A section can be read if its keys are among the bare and different keys of some
fields, and its values fit. -/
theorem wellFormed_of_fields {σ : Type} (fields : List (Field σ)) {s : Section}
    (hkeys : (s.settings.map Prod.fst).Sublist (fields.map Field.key)) (hname : Bare s.name)
    (hbare : ∀ key ∈ fields.map Field.key, Bare key) (hdistinct : (fields.map Field.key).Nodup)
    (hfits : ∀ e ∈ s.settings, e.2.Fits) : s.WellFormed where
  bare := hname
  keys e he := hbare e.1 (hkeys.subset (List.mem_map_of_mem he))
  fits := hfits
  distinct := hdistinct.sublist hkeys

/-- A setting that may be absent has its key or none. -/
theorem optional_sublist (key : String) (text : Option String) :
    ((optional key text).map Prod.fst).Sublist [key] := by
  cases text with
  | none => exact List.nil_sublist [key]
  | some text => exact List.Sublist.refl [key]

/-- A setting that may be absent fits. -/
theorem fits_optional {key : String} {text : Option String} {e : String × Setting}
    (h : e ∈ optional key text) : e.2.Fits := by
  cases text with
  | none => cases h
  | some text =>
    rw [optional, List.mem_singleton] at h
    rw [h]
    trivial

/-- The section of the health check can be read. -/
theorem wellFormed_health (h : HealthSettings) : (healthSection h).WellFormed := by
  have hport : h.bindPort.toNat < 9223372036854775808 := by
    have := h.bindPort.toNat_lt
    omega
  refine wellFormed_of_fields healthFields (List.Sublist.refl _)
    (show Bare "health_check" by decide) (by decide) (by decide) ?_
  intro e he
  simp only [healthSection, List.mem_cons, List.not_mem_nil, or_false] at he
  rcases he with rfl | rfl | rfl | rfl | rfl
  · trivial
  · trivial
  · trivial
  · exact hport
  · trivial

/-- The section of the pipeline can be read. -/
theorem wellFormed_pipeline (p : PipelineSettings) : (pipelineSection p).WellFormed := by
  have hwarmup : p.invalidWarmupUnits.toNat < 9223372036854775808 := by
    have := p.invalidWarmupUnits.toNat_lt
    omega
  refine wellFormed_of_fields pipelineFields ?_ (show Bare "pipeline" by decide) (by decide)
    (by decide) ?_
  · simp only [pipelineSection, List.map_append]
    exact ((List.Sublist.refl ["observe", "unit_interval", "timestamp_mode"]).append
      (optional_sublist "start_utc" _)).append (optional_sublist "stall_after" _) |>.append
        (List.Sublist.refl ["invalid_warmup_units"])
  · intro e he
    simp only [pipelineSection, List.mem_append, List.mem_cons, List.not_mem_nil, or_false] at he
    rcases he with (((rfl | rfl | rfl) | hstart) | hstall) | rfl
    · trivial
    · trivial
    · trivial
    · exact fits_optional hstart
    · exact fits_optional hstall
    · exact hwarmup

/-- Settings are read back from the text that is written for them. -/
theorem ofText_write (s : Settings) : ofText (write s) = .ok s := by
  have hwellFormed : ∀ t ∈ sections s, t.WellFormed := by
    simp only [sections, List.forall_mem_cons]
    exact ⟨wellFormed_health _, wellFormed_pipeline _, List.forall_mem_nil _⟩
  have hread : Toml.read (write s) = .ok ((sections s).map Section.value) :=
    read_writeSections hwellFormed (show ["health_check", "pipeline"].Nodup by decide)
  have hdocument : ofDocument ((sections s).map Section.value) = .ok s := by
    simp only [sections, List.map_cons, List.map_nil]
    rw [ofDocument,
      readEntries_cons (readEntry_ofParts rfl (readSection_health _ s.healthCheck) _),
      readEntries_cons (readEntry_ofParts rfl (readSection_pipeline _ s.pipeline) _),
      readEntries_nil]
  rw [ofText, hread]
  simp only [hdocument]

end FlowWatch.Config
