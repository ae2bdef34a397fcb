import FlowWatch.Proofs.Config.KnownKey
import FlowWatch.Proofs.Time.LostCarry

/-!
# What a document assigns

A document assigns values to known keys: a table does so under its names, an array in
place of a section by its places, and everything else it says is skipped. However the
values are nested, reading them comes to the same as making the assignments in a row, apart
from the place that a fault is put down to. This needs that no section comes up twice, for
each starts from its defaults.
-/

namespace FlowWatch.Config

open FlowWatch.Toml

/-! ### Sections -/

namespace KnownSection

/-- Both sections. -/
def all : List KnownSection := [.healthCheck, .pipeline]

/-- The name of the section in documents. -/
def name : KnownSection → String
  | .healthCheck => "health_check"
  | .pipeline => "pipeline"

/-- The keys of the section in the order of its places. -/
def keys : KnownSection → List KnownKey
  | .healthCheck => [.enabled, .idleThreshold, .bindHost, .bindPort, .binding]
  | .pipeline =>
    [.observe, .unitInterval, .timestampMode, .startUtc, .stallAfter, .invalidWarmupUnits]

/-- The settings of the section. -/
def Part : KnownSection → Type
  | .healthCheck => HealthSettings
  | .pipeline => PipelineSettings

/-- The settings of the section among all settings. -/
def part : (t : KnownSection) → Settings → t.Part
  | .healthCheck, s => s.healthCheck
  | .pipeline, s => s.pipeline

/-- All settings with those of the section replaced. -/
def replace : (t : KnownSection) → t.Part → Settings → Settings
  | .healthCheck, h, s => { s with healthCheck := h }
  | .pipeline, p, s => { s with pipeline := p }

/-- What messages call the section. -/
def label : KnownSection → String
  | .healthCheck => "struct HealthCheckConfig"
  | .pipeline => "struct PipelineConfig"

/-- The fields of the section. -/
def fields : (t : KnownSection) → List (Field t.Part)
  | .healthCheck => healthFields
  | .pipeline => pipelineFields

/-- The section as a field of all settings, which starts from its defaults. -/
def asField (t : KnownSection) : Field Settings :=
  .ofParts t.name (readSection t.label t.fields (t.part Settings.default)) t.replace

/-- The settings have both sections. -/
theorem sectionFields_eq : sectionFields = all.map asField := rfl

/-- A section is found by its name. -/
theorem find_eq_some_iff {name : String} {t : KnownSection} :
    all.find? (·.name == name) = some t ↔ t.name = name := by
  constructor
  · intro h
    have hname := List.find?_some h
    exact beq_iff_eq.1 hname
  · rintro rfl
    cases t <;> decide

/-- A key of a section is found by its name. -/
theorem find_keys_eq_some_iff {t : KnownSection} {name : String} {k : KnownKey} :
    t.keys.find? (·.name == name) = some k ↔ k ∈ t.keys ∧ k.name = name := by
  constructor
  · intro h
    have hname := List.find?_some h
    exact ⟨List.mem_of_find?_eq_some h, beq_iff_eq.1 hname⟩
  · rintro ⟨hk, rfl⟩
    revert hk
    cases t <;> cases k <;> decide

/-- No key of a section is there twice. -/
theorem nodup_keys (t : KnownSection) : t.keys.Nodup := by
  cases t <;> decide

/-- No key belongs to both sections. -/
theorem eq_of_mem_keys {t u : KnownSection} {k : KnownKey} (ht : k ∈ t.keys) (hu : k ∈ u.keys) :
    t = u := by
  revert ht hu
  cases t <;> cases u <;> cases k <;> decide

/-- A section that replaces itself changes nothing. -/
@[simp]
theorem replace_part (t : KnownSection) (s : Settings) : t.replace (t.part s) s = s := by
  cases t <;> rfl

/-- Replacing a section leaves the other one as it was. -/
theorem part_replace_of_ne {t u : KnownSection} (hne : u ≠ t) (p : t.Part) (s : Settings) :
    u.part (t.replace p s) = u.part s := by
  cases t <;> cases u <;> first | rfl | exact absurd rfl hne

end KnownSection

namespace KnownKey

/-- The key as a field of a section. -/
def asField (t : KnownSection) (k : KnownKey) : Field t.Part :=
  .ofParts k.name k.read fun a p => t.part (k.set a (t.replace p Settings.default))

/-- A key of a section sets its field there. -/
theorem replace_part_set {t : KnownSection} {k : KnownKey} (hk : k ∈ t.keys) (a : k.Value)
    (p : t.Part) (s : Settings) :
    t.replace (t.part (k.set a (t.replace p Settings.default))) s = k.set a (t.replace p s) := by
  cases t <;> cases k <;> first | rfl | exact absurd hk (by decide)

end KnownKey

/-- A field whose value is changed first is set from the changed value. -/
theorem ofParts_map {σ α β : Type} (key : String) (shape : Value → Except Misfit α) (f : α → β)
    (update : β → σ → σ) :
    Field.ofParts key shape (fun a s => update (f a) s) =
      .ofParts key (fun v => (shape v).map f) update := by
  refine congrArg (Field.mk key) (funext fun v => funext fun s => ?_)
  show (shape v).map (fun a => update (f a) s) = ((shape v).map f).map (update · s)
  cases shape v <;> rfl

/-- The fields of a section are its keys. -/
theorem KnownSection.fields_eq (t : KnownSection) : t.fields = t.keys.map (·.asField t) := by
  cases t with
  | healthCheck =>
    have hport := ofParts_map "bind_port" (fun v => ofWhole (asCount 65536 "u16" v)) UInt16.ofNat
      fun n (s : HealthSettings) => { s with bindPort := n }
    rw [fields, healthFields, Field.of, Field.of, Field.of, Field.of, hport]
    rfl
  | pipeline =>
    have hstart := ofParts_map "start_utc" (fun v => ofWhole (asText v)) some
      fun t (s : PipelineSettings) => { s with startUtc := t }
    have hstall := ofParts_map "stall_after" (fun v => ofWhole (asDuration v)) some
      fun d (s : PipelineSettings) => { s with stallAfter := d }
    have hwarmup := ofParts_map "invalid_warmup_units"
      (fun v => ofWhole (asCount 4294967296 "u32" v)) UInt32.ofNat
      fun n (s : PipelineSettings) => { s with invalidWarmupUnits := n }
    rw [fields, pipelineFields, Field.of, Field.of, Field.of, Field.of, hstart, hstall, hwarmup]
    rfl

/-! ### Assignments -/

/-- What a document says that is not skipped. -/
inductive Assignment
  /-- A value for a known key. -/
  | key (k : KnownKey) (v : Value)
  /-- A value in place of a section that is neither a table nor an array. -/
  | whole (t : KnownSection) (v : Value)

namespace Assignment

/-- The value has a meaning for its key. In place of a section only a date-time will do. -/
def Suits : Assignment → Prop
  | .key k v => ∃ a, k.Means v a
  | .whole _ v => v = .dateTime

/-- The assignment is about a key. -/
def About : Assignment → KnownKey → Prop
  | .key k _, other => k = other
  | .whole _ _, _ => False

/-- The value is the text of a duration whose last carry is lost. -/
def LosesCarry (a : Assignment) : Prop :=
  ∃ k t, a = .key k (.text t) ∧ k.IsDuration ∧ DurationText.LosesCarry t

/-- The settings after the assignment. -/
def apply : Assignment → Settings → Except ShapeFault Settings
  | .key k v, s => ((k.read v).map fun a => k.set a s).mapError Misfit.fault
  | .whole _ .dateTime, s => .ok s
  | .whole t v, _ => .error (.wrongType v t.label)

end Assignment

/-- What a value in place of a section assigns. -/
def KnownSection.assignments (t : KnownSection) : Value → List Assignment
  | .table entries =>
    entries.flatMap fun e => ((t.keys.find? (·.name == e.1)).map (.key · e.2)).toList
  | .array items | .rows items => (t.keys.zip items).map fun p => .key p.1 p.2
  | v => [.whole t v]

/-- What an entry of a document assigns. -/
def assigned (e : String × Value) : List Assignment :=
  match KnownSection.all.find? (·.name == e.1) with
  | some t => t.assignments e.2
  | none => []

/-- What a document assigns, in its order. -/
def assignments (entries : List (String × Value)) : List Assignment := entries.flatMap assigned

/-- A table assigns the value of an entry to the key of its name. -/
theorem mem_assignments_table {t : KnownSection} {entries : List (String × Value)}
    {a : Assignment} :
    a ∈ t.assignments (.table entries) ↔
      ∃ k v, k ∈ t.keys ∧ (k.name, v) ∈ entries ∧ a = .key k v := by
  simp only [KnownSection.assignments, List.mem_flatMap, Option.mem_toList, Option.map_eq_some_iff,
    KnownSection.find_keys_eq_some_iff]
  constructor
  · rintro ⟨⟨_, v⟩, he, k, ⟨hk, rfl⟩, rfl⟩
    exact ⟨k, v, hk, he, rfl⟩
  · rintro ⟨k, v, hk, he, rfl⟩
    exact ⟨(k.name, v), he, k, ⟨hk, rfl⟩, rfl⟩

/-- An entry assigns what its value does in place of the section of its name. -/
theorem mem_assigned {e : String × Value} {a : Assignment} :
    a ∈ assigned e ↔ ∃ t : KnownSection, t.name = e.1 ∧ a ∈ t.assignments e.2 := by
  simp only [← KnownSection.find_eq_some_iff]
  rw [assigned]
  split
  · next t ht => simp [ht]
  · next hnone => simp [hnone]

/-- The settings after some assignments in a row. -/
def applyAll (as : List Assignment) (s : Settings) : Except ShapeFault Settings :=
  as.foldlM (fun s a => a.apply s) s

/-- Assignments are applied in parts. -/
theorem applyAll_append (as bs : List Assignment) (s : Settings) :
    applyAll (as ++ bs) s = applyAll as s >>= applyAll bs :=
  List.foldlM_append

/-! ### The order of a document -/

/-- A result without the place of its fault. -/
def unplaced {α : Type} (result : Except Misfit α) : Except ShapeFault α :=
  result.mapError Misfit.fault

section Unplaced

variable {α : Type}

/-- A fault seen from farther out is the same. -/
theorem unplaced_below (step : Step) (result : Except Misfit α) :
    unplaced (below step result) = unplaced result := by
  cases result <;> rfl

/-- A fault seen from an array is the same. -/
theorem unplaced_belowMember (index : Nat) (result : Except Misfit α) :
    unplaced (belowMember index result) = unplaced result := by
  cases result with
  | error m =>
    rw [belowMember, mapError_error, unplaced, unplaced, mapError_error, mapError_error]
    split <;> rfl
  | ok a => rfl

end Unplaced

/-- Steps in a row make their assignments one after the other, if each of them does. -/
theorem unplaced_foldlM {σ β : Type} {step : σ → β → Except Misfit σ} {all : σ → Settings}
    {made : β → List Assignment} {steps : List β}
    (hstep : ∀ b ∈ steps, ∀ p, unplaced ((step p b).map all) = applyAll (made b) (all p)) (p : σ) :
    unplaced ((steps.foldlM step p).map all) = applyAll (steps.flatMap made) (all p) := by
  induction steps generalizing p with
  | nil => rfl
  | cons b steps ih =>
    have hfirst := hstep b List.mem_cons_self p
    rw [List.foldlM_cons, List.flatMap_cons, applyAll_append, ← hfirst]
    cases step p b with
    | error m => rfl
    | ok q => exact ih (fun c hc => hstep c (List.mem_cons_of_mem b hc)) q

/-- The field of a key makes the assignment of the key. -/
theorem unplaced_set {t : KnownSection} {k : KnownKey} (hk : k ∈ t.keys) (v : Value) (p : t.Part)
    (s : Settings) :
    unplaced (((k.asField t).set v p).map (t.replace · s)) =
      applyAll [.key k v] (t.replace p s) := by
  have hone : applyAll [.key k v] (t.replace p s) = (Assignment.key k v).apply (t.replace p s) := by
    rw [applyAll, List.foldlM_cons]
    exact bind_pure _
  rw [hone, Assignment.apply, KnownKey.asField, Field.ofParts]
  dsimp only
  cases k.read v with
  | error m => rfl
  | ok a => exact congrArg Except.ok (KnownKey.replace_part_set hk a p s)

/-- An entry of a section makes the assignment of its key, if the key is known. -/
theorem unplaced_readEntry (t : KnownSection) (e : String × Value) (p : t.Part) (s : Settings) :
    unplaced ((readEntry t.fields p e).map (t.replace · s)) =
      applyAll ((t.keys.find? (·.name == e.1)).map (.key · e.2)).toList (t.replace p s) := by
  have hfind : t.fields.find? (·.key == e.1) =
      (t.keys.find? (·.name == e.1)).map (·.asField t) := by
    rw [t.fields_eq, List.find?_map]
    rfl
  rw [readEntry, hfind]
  cases hkey : t.keys.find? (·.name == e.1) with
  | none => rfl
  | some k =>
    dsimp only [Option.map_some]
    rw [below, map_mapError, ← below, unplaced_below]
    exact unplaced_set (KnownSection.find_keys_eq_some_iff.1 hkey).1 e.2 p s

/-- The members of an array make the assignments of their places. -/
theorem unplaced_readPlaces (t : KnownSection) (items : List Value) (p : t.Part) (s : Settings) :
    unplaced ((readPlaces t.fields items p).map (t.replace · s)) =
      applyAll ((t.keys.zip items).map fun e => .key e.1 e.2) (t.replace p s) := by
  have hplaces : (t.fields.zip items).zipIdx =
      (t.keys.zip items).zipIdx.map fun e => ((e.1.1.asField t, e.1.2), e.2) := by
    rw [t.fields_eq, List.zip_map_left, List.zipIdx_map]
    rfl
  have hmade : (t.keys.zip items).map (fun e => Assignment.key e.1 e.2) =
      (t.keys.zip items).zipIdx.flatMap fun e => [.key e.1.1 e.1.2] := by
    rw [← List.map_eq_flatMap]
    calc (t.keys.zip items).map (fun e => Assignment.key e.1 e.2)
        = ((t.keys.zip items).zipIdx.map Prod.fst).map fun e => .key e.1 e.2 := by
          rw [List.zipIdx_map_fst]
      _ = (t.keys.zip items).zipIdx.map fun e => .key e.1.1 e.1.2 := List.map_map
  rw [readPlaces, hplaces, List.foldlM_map, hmade]
  refine unplaced_foldlM (fun e he q => ?_) p
  have hzip : e.1 ∈ t.keys.zip items := List.fst_mem_of_mem_zipIdx he
  rw [belowMember, map_mapError, ← belowMember, unplaced_belowMember]
  exact unplaced_set (List.of_mem_zip hzip).1 e.1.2 q s

/-- A section makes the assignments of its value. -/
theorem unplaced_readSection (t : KnownSection) (v : Value) (p : t.Part) (s : Settings) :
    unplaced ((readSection t.label t.fields p v).map (t.replace · s)) =
      applyAll (t.assignments v) (t.replace p s) := by
  cases v with
  | table entries => exact unplaced_foldlM (fun e _ q => unplaced_readEntry t e q s) p
  | array items => exact unplaced_readPlaces t items p s
  | rows items => exact unplaced_readPlaces t items p s
  | dateTime => rfl
  | text _ => rfl
  | integer _ => rfl
  | real _ => rfl
  | truth _ => rfl

/-- An entry of a document finds its section by the name. -/
theorem readEntry_sectionFields (s : Settings) (e : String × Value) :
    readEntry sectionFields s e = match KnownSection.all.find? (·.name == e.1) with
      | some t => below (.entry e.1) (t.asField.set e.2 s)
      | none => .ok s := by
  have hfind : sectionFields.find? (·.key == e.1) =
      (KnownSection.all.find? (·.name == e.1)).map KnownSection.asField := by
    rw [KnownSection.sectionFields_eq, List.find?_map]
    rfl
  rw [readEntry, hfind]
  cases KnownSection.all.find? (·.name == e.1) <;> rfl

/-- An entry makes the assignments of its section, if the section has its defaults. -/
theorem unplaced_sectionEntry {e : String × Value} {s : Settings}
    (hs : ∀ t : KnownSection, t.name = e.1 → t.part s = t.part Settings.default) :
    unplaced (readEntry sectionFields s e) = applyAll (assigned e) s := by
  rw [readEntry_sectionFields, assigned]
  cases hfind : KnownSection.all.find? (·.name == e.1) with
  | none => rfl
  | some t =>
    have hname := KnownSection.find_eq_some_iff.1 hfind
    have hread := unplaced_readSection t e.2 (t.part s) s
    rw [t.replace_part, hs t hname] at hread
    exact (unplaced_below (.entry e.1) _).trans hread

/-- An entry does not touch the section of another name. -/
theorem part_of_sectionEntry {e : String × Value} {s next : Settings}
    (h : readEntry sectionFields s e = .ok next) {u : KnownSection} (hu : u.name ≠ e.1) :
    u.part next = u.part s := by
  rw [readEntry_sectionFields] at h
  cases hfind : KnownSection.all.find? (·.name == e.1) with
  | none =>
    rw [hfind] at h
    cases h
    rfl
  | some t =>
    rw [hfind] at h
    obtain ⟨p, -, rfl⟩ := map_eq_ok_iff.1 (mapError_eq_ok_iff.1 h)
    refine KnownSection.part_replace_of_ne ?_ p s
    rintro rfl
    exact hu (KnownSection.find_eq_some_iff.1 hfind)

/-- A document makes its assignments one after the other. The sections that are still
to come have their defaults, since their names are new. -/
theorem unplaced_ofDocument {entries : List (String × Value)}
    (hnames : (entries.map Prod.fst).Nodup) :
    unplaced (ofDocument entries) = applyAll (assignments entries) Settings.default := by
  have hrest : ∀ s : Settings,
      (∀ t : KnownSection, t.name ∈ entries.map Prod.fst → t.part s = t.part Settings.default) →
      unplaced (readEntries sectionFields entries s) = applyAll (assignments entries) s := by
    induction entries with
    | nil => exact fun s _ => rfl
    | cons e entries ih =>
      intro s hs
      rw [List.map_cons, List.nodup_cons] at hnames
      have hfirst := unplaced_sectionEntry (e := e) (s := s) fun t ht =>
        hs t (ht ▸ List.mem_map_of_mem List.mem_cons_self)
      rw [readEntries, List.foldlM_cons, assignments, List.flatMap_cons, applyAll_append,
        ← hfirst]
      cases hread : readEntry sectionFields s e with
      | error m => rfl
      | ok next =>
        refine ih hnames.2 next fun t ht => ?_
        have hne : t.name ≠ e.1 := fun heq => hnames.1 (heq ▸ ht)
        rw [part_of_sectionEntry hread hne]
        exact hs t (List.mem_cons_of_mem _ ht)
  exact hrest Settings.default fun _ _ => rfl

end FlowWatch.Config
