import FlowWatch.Config.Reading
import FlowWatch.Proofs.Result

/-!
# The known keys

Every known key belongs to one of the two sections and has a field of the settings, which
is the only one that it changes. A value means a field if it has the right shape: a truth
value, a text, a count that fits, the text of a duration, a list of texts, or one of some
names. A value without a meaning is refused.
-/

namespace FlowWatch.Config

open FlowWatch.Toml

/-! ### The meaning of values -/

/-- A value that is the text of a duration. -/
def MeansDuration (v : Value) (d : Duration) : Prop :=
  ∃ t, v = .text t ∧ DurationText.read t = .ok d

/-- A value that is a list of texts. -/
def MeansTexts (v : Value) (ts : List String) : Prop :=
  v = .array (ts.map .text) ∨ v = .rows (ts.map .text)

/-- A value without any content. -/
def Hollow (v : Value) : Prop := v = .table [] ∨ v = .array [] ∨ v = .rows []

/-- A value that is a name: its text, or a table with the name as its only key and nothing
in it. -/
def MeansName (v : Value) (name : String) : Prop :=
  v = .text name ∨ ∃ content, v = .table [(name, content)] ∧ Hollow content

/-- A truth value is taken for what it is. -/
theorem asTruth_eq_ok_iff {v : Value} {b : Bool} : asTruth v = .ok b ↔ v = .truth b := by
  cases v <;> simp [asTruth]

/-- A text is taken for what it is. -/
theorem asText_eq_ok_iff {v : Value} {t : String} : asText v = .ok t ↔ v = .text t := by
  cases v <;> simp [asText]

/-- A whole number is taken for a count if it is below the limit and not negative. -/
theorem asCount_eq_ok_iff {limit n : Nat} {expected : String} {v : Value} :
    asCount limit expected v = .ok n ↔ n < limit ∧ v = .integer n := by
  cases v with
  | integer i =>
    rw [asCount, Value.integer.injEq]
    split
    · next h =>
      simp only [Bool.and_eq_true, decide_eq_true_eq] at h
      rw [Except.ok.injEq]
      omega
    · next h =>
      simp only [Bool.and_eq_true, decide_eq_true_eq] at h
      refine iff_of_false (fun h => nomatch h) ?_
      rintro ⟨hlimit, rfl⟩
      omega
  | _ => simp [asCount]

/-- What is put down to a whole value is the same as before. -/
theorem ofWhole_eq_ok_iff {α : Type} {result : Except ShapeFault α} {a : α} :
    ofWhole result = .ok a ↔ result = .ok a :=
  mapError_eq_ok_iff

/-- A whole number is taken for a word of its size if it is one. -/
theorem asWord_eq_ok_iff {α : Type} {limit : Nat} {ofNat : Nat → α} {toNat : α → Nat}
    (hlt : ∀ a, toNat a < limit) (hback : ∀ a, ofNat (toNat a) = a)
    (hto : ∀ n, n < limit → toNat (ofNat n) = n) {expected : String} {v : Value} {a : α} :
    (ofWhole (asCount limit expected v)).map ofNat = .ok a ↔ v = .integer (toNat a) := by
  simp only [map_eq_ok_iff, ofWhole_eq_ok_iff, asCount_eq_ok_iff]
  constructor
  · rintro ⟨n, ⟨hn, rfl⟩, rfl⟩
    rw [hto n hn]
  · rintro rfl
    exact ⟨toNat a, ⟨hlt a, rfl⟩, hback a⟩

/-- The text of a duration is read as one. -/
theorem asDuration_text (t : String) :
    asDuration (.text t) = (DurationText.read t).mapError .duration := by
  rw [asDuration, asText]
  cases hread : DurationText.read t <;>
    simp only [bind, Except.bind, hread, mapError_ok, mapError_error]

/-- A duration is read from a text. -/
theorem asDuration_eq_ok_iff {v : Value} {d : Duration} :
    asDuration v = .ok d ↔ MeansDuration v d := by
  cases v with
  | text t => simp [asDuration_text, mapError_eq_ok_iff, MeansDuration]
  | _ => simp [MeansDuration, asDuration, asText, bind, Except.bind]

/-- Members are taken for texts if all of them are. -/
theorem asTextsFrom_eq_ok_iff {index : Nat} {items : List Value} {ts : List String} :
    asTextsFrom index items = .ok ts ↔ items = ts.map .text := by
  induction items generalizing index ts with
  | nil => cases ts <;> simp [asTextsFrom]
  | cons v items ih =>
    simp only [asTextsFrom, bind_eq_ok_iff, below, mapError_eq_ok_iff, ofWhole_eq_ok_iff,
      asText_eq_ok_iff, ih]
    constructor
    · rintro ⟨t, rfl, others, rfl, hts⟩
      cases hts
      rfl
    · intro heq
      cases ts with
      | nil => cases heq
      | cons t others =>
        rw [List.map_cons, List.cons.injEq] at heq
        exact ⟨t, heq.1, others, heq.2, rfl⟩

/-- A list of texts is taken for what it is. -/
theorem asTexts_eq_ok_iff {v : Value} {ts : List String} :
    asTexts v = .ok ts ↔ MeansTexts v ts := by
  cases v <;> simp [asTexts, MeansTexts, asTextsFrom_eq_ok_iff]

section Choices

variable {α : Type} {all : List α} {name : α → String}

/-- A choice is found by its name. -/
theorem choose_eq_ok_iff (hall : ∀ a, a ∈ all) (hname : ∀ a b, name a = name b → a = b)
    {text : String} {a : α} : choose all name text = .ok a ↔ text = name a := by
  rw [choose]
  constructor
  · intro h
    split at h
    · next choice hfind =>
      cases h
      have hfound := List.find?_some hfind
      exact (beq_iff_eq.1 hfound).symm
    · cases h
  · rintro rfl
    split
    · next choice hfind =>
      have hfound := List.find?_some hfind
      rw [hname choice a (beq_iff_eq.1 hfound)]
    · next hfind => exact absurd (beq_self_eq_true _) (List.find?_eq_none.1 hfind a (hall a))

/-- A name is taken for the choice that has it. -/
theorem asChoice_eq_ok_iff (hall : ∀ a, a ∈ all) (hname : ∀ a b, name a = name b → a = b)
    {v : Value} {a : α} : asChoice all name v = .ok a ↔ MeansName v (name a) := by
  unfold asChoice
  split
  · simp [ofWhole_eq_ok_iff, choose_eq_ok_iff hall hname, MeansName]
  · next key content =>
    simp only [bind_eq_ok_iff, mapError_eq_ok_iff, choose_eq_ok_iff hall hname]
    constructor
    · rintro ⟨choice, rfl, h⟩
      split at h
      · cases h
        exact .inr ⟨_, rfl, .inl rfl⟩
      · cases h
        exact .inr ⟨_, rfl, .inr (.inl rfl)⟩
      · cases h
        exact .inr ⟨_, rfl, .inr (.inr rfl)⟩
      · cases h
    · rintro (h | ⟨_, h, hhollow⟩)
      · cases h
      · cases h
        refine ⟨a, rfl, ?_⟩
        rcases hhollow with rfl | rfl | rfl <;> rfl
  · next entries hsingle =>
    refine iff_of_false (fun h => nomatch h) ?_
    rintro (h | ⟨content, h, -⟩)
    · cases h
    · cases h
      exact hsingle _ _ rfl
  · next htext _ htable =>
    refine iff_of_false (fun h => nomatch h) ?_
    rintro (rfl | ⟨content, rfl, -⟩)
    · exact htext _ rfl
    · exact htable _ rfl

end Choices

/-! ### The wording of faults -/

/-- The only fault without words is the lost carry of a duration. -/
theorem message?_eq_none_iff {fault : ShapeFault} :
    fault.message? = none ↔ fault = .duration .lostCarry := by
  cases fault with
  | notSingle entries => cases entries <;> simp [ShapeFault.message?]
  | hasContent content => cases content <;> simp [ShapeFault.message?]
  | duration fault => cases fault <;> simp [ShapeFault.message?, DurationText.Fault.message?]
  | _ => simp [ShapeFault.message?]

/-- A result is not without words. -/
def Worded {α : Type} (result : Except Misfit α) : Prop :=
  ∀ place, result ≠ .error ⟨.duration .lostCarry, place⟩

section Worded

variable {α β : Type}

/-- The fault of two steps is that of one of them. -/
theorem Worded.bind {x : Except Misfit α} {f : α → Except Misfit β} (hx : Worded x)
    (hf : ∀ a, Worded (f a)) : Worded (x >>= f) := by
  cases x with
  | error m =>
    rintro place hm
    cases hm
    exact hx place rfl
  | ok a => exact hf a

/-- A changed value has the same fault. -/
theorem Worded.map {x : Except Misfit α} (hx : Worded x) (f : α → β) : Worded (x.map f) := by
  cases x with
  | error m =>
    rintro place hm
    cases hm
    exact hx place rfl
  | ok a => exact fun _ hm => nomatch hm

/-- A fault is the same at any place. -/
theorem worded_mapError {result : Except ShapeFault α}
    (h : result ≠ .error (.duration .lostCarry)) (place : Place) :
    Worded (result.mapError fun fault => ⟨fault, place⟩) := by
  cases result with
  | error fault =>
    rintro other hm
    cases hm
    exact h rfl
  | ok a => exact fun _ hm => nomatch hm

/-- A fault seen from farther out is the same. -/
theorem Worded.below {result : Except Misfit α} (h : Worded result) (step : Step) :
    Worded (below step result) := by
  cases result with
  | error m =>
    obtain ⟨fault, inner⟩ := m
    rintro place hm
    cases hm
    exact h inner rfl
  | ok a => exact fun _ hm => nomatch hm

/-- What is no truth value is put into words. -/
theorem worded_asTruth (v : Value) : Worded (ofWhole (asTruth v)) :=
  worded_mapError (by cases v <;> exact fun h => nomatch h) _

/-- What is no text is put into words. -/
theorem worded_asText (v : Value) : Worded (ofWhole (asText v)) :=
  worded_mapError (by cases v <;> exact fun h => nomatch h) _

/-- What is no count is put into words. -/
theorem worded_asCount (limit : Nat) (expected : String) (v : Value) :
    Worded (ofWhole (asCount limit expected v)) := by
  refine worded_mapError ?_ _
  cases v with
  | integer i =>
    rw [asCount]
    split <;> exact fun h => nomatch h
  | _ => exact fun h => nomatch h

/-- What is no list of texts is put into words. -/
theorem worded_asTexts (v : Value) : Worded (asTexts v) := by
  have hfrom (items : List Value) : ∀ index, Worded (asTextsFrom index items) := by
    induction items with
    | nil => exact fun _ _ hm => nomatch hm
    | cons v items ih =>
      intro index
      rw [asTextsFrom]
      refine ((worded_asText v).below _).bind fun t => (ih _).bind fun ts => ?_
      exact fun _ hm => nomatch hm
  cases v with
  | array items => exact hfrom items 0
  | rows items => exact hfrom items 0
  | _ => exact fun _ hm => nomatch hm

/-- What is no name is put into words. -/
theorem worded_asChoice (all : List α) (name : α → String) (v : Value) :
    Worded (asChoice all name v) := by
  have hchoose (text : String) (place : Place) :
      Worded ((choose all name text).mapError fun fault => ⟨fault, place⟩) := by
    refine worded_mapError ?_ place
    rw [choose]
    split <;> exact fun h => nomatch h
  unfold asChoice
  split
  · exact hchoose _ _
  · refine (hchoose _ _).bind fun choice => ?_
    split <;> exact fun _ hm => nomatch hm
  · exact fun _ hm => nomatch hm
  · exact fun _ hm => nomatch hm

end Worded

/-- A duration is refused without words exactly if its last carry is lost. -/
theorem asDuration_eq_lostCarry_iff {v : Value} :
    asDuration v = .error (.duration .lostCarry) ↔
      ∃ t, v = .text t ∧ DurationText.read t = .error .lostCarry := by
  cases v with
  | text t =>
    rw [asDuration_text]
    cases hread : DurationText.read t <;> simp [hread, mapError_ok, mapError_error]
  | _ => simp [asDuration, asText, bind, Except.bind]

/-- Every binding is among all of them. -/
theorem mem_allBindings (b : Binding) : b ∈ Binding.all := by
  cases b <;> decide

/-- Every mode is among all of them. -/
theorem mem_allModes (m : InputMode) : m ∈ InputMode.all := by
  cases m <;> decide

/-- Bindings with one name are one binding. -/
theorem eq_of_bindingName (a b : Binding) (h : a.name = b.name) : a = b := by
  cases a <;> cases b <;> first | rfl | exact absurd h (by decide)

/-- Modes with one name are one mode. -/
theorem eq_of_modeName (a b : InputMode) (h : a.name = b.name) : a = b := by
  cases a <;> cases b <;> first | rfl | exact absurd h (by decide)

/-! ### Keys -/

/-- A section of the settings. -/
inductive KnownSection
  /-- The section of the health check. -/
  | healthCheck
  /-- The section of the pipeline. -/
  | pipeline
  deriving DecidableEq

/-- A known key of a document. -/
inductive KnownKey
  | enabled
  | idleThreshold
  | bindHost
  | bindPort
  | binding
  | observe
  | unitInterval
  | timestampMode
  | startUtc
  | stallAfter
  | invalidWarmupUnits
  deriving DecidableEq

namespace KnownKey

/-- The key as it is written. -/
def name : KnownKey → String
  | .enabled => "enabled"
  | .idleThreshold => "idle_threshold"
  | .bindHost => "bind_host"
  | .bindPort => "bind_port"
  | .binding => "binding"
  | .observe => "observe"
  | .unitInterval => "unit_interval"
  | .timestampMode => "timestamp_mode"
  | .startUtc => "start_utc"
  | .stallAfter => "stall_after"
  | .invalidWarmupUnits => "invalid_warmup_units"

/-- The values of the field of the key. -/
def Value : KnownKey → Type
  | .enabled => Bool
  | .idleThreshold | .unitInterval => Duration
  | .bindHost => String
  | .bindPort => UInt16
  | .binding => Binding
  | .observe => List String
  | .timestampMode => InputMode
  | .startUtc => Option String
  | .stallAfter => Option Duration
  | .invalidWarmupUnits => UInt32

/-- The value of the field of the key. -/
def field : (k : KnownKey) → Settings → k.Value
  | .enabled, s => s.healthCheck.enabled
  | .idleThreshold, s => s.healthCheck.idleThreshold
  | .bindHost, s => s.healthCheck.bindHost
  | .bindPort, s => s.healthCheck.bindPort
  | .binding, s => s.healthCheck.binding
  | .observe, s => s.pipeline.observe
  | .unitInterval, s => s.pipeline.unitInterval
  | .timestampMode, s => s.pipeline.timestampMode
  | .startUtc, s => s.pipeline.startUtc
  | .stallAfter, s => s.pipeline.stallAfter
  | .invalidWarmupUnits, s => s.pipeline.invalidWarmupUnits

/-- The settings with the field of the key set to a value. -/
def set : (k : KnownKey) → k.Value → Settings → Settings
  | .enabled, b, s => { s with healthCheck.enabled := b }
  | .idleThreshold, d, s => { s with healthCheck.idleThreshold := d }
  | .bindHost, t, s => { s with healthCheck.bindHost := t }
  | .bindPort, n, s => { s with healthCheck.bindPort := n }
  | .binding, b, s => { s with healthCheck.binding := b }
  | .observe, ts, s => { s with pipeline.observe := ts }
  | .unitInterval, d, s => { s with pipeline.unitInterval := d }
  | .timestampMode, m, s => { s with pipeline.timestampMode := m }
  | .startUtc, t, s => { s with pipeline.startUtc := t }
  | .stallAfter, d, s => { s with pipeline.stallAfter := d }
  | .invalidWarmupUnits, n, s => { s with pipeline.invalidWarmupUnits := n }

/-- A value of a document means a value of the field of the key. -/
def Means : (k : KnownKey) → Toml.Value → k.Value → Prop
  | .enabled, v, b => v = .truth b
  | .idleThreshold, v, d => MeansDuration v d
  | .bindHost, v, t => v = .text t
  | .bindPort, v, n => v = .integer n.toNat
  | .binding, v, b => MeansName v b.name
  | .observe, v, ts => MeansTexts v ts
  | .unitInterval, v, d => MeansDuration v d
  | .timestampMode, v, m => MeansName v m.name
  | .startUtc, v, t => ∃ text, v = .text text ∧ t = some text
  | .stallAfter, v, d => ∃ length, MeansDuration v length ∧ d = some length
  | .invalidWarmupUnits, v, n => v = .integer n.toNat

/-- The value of the field of the key that a value of a document is read as. -/
def read : (k : KnownKey) → Toml.Value → Except Misfit k.Value
  | .enabled, v => ofWhole (asTruth v)
  | .idleThreshold, v => ofWhole (asDuration v)
  | .bindHost, v => ofWhole (asText v)
  | .bindPort, v => (ofWhole (asCount 65536 "u16" v)).map UInt16.ofNat
  | .binding, v => asChoice Binding.all Binding.name v
  | .observe, v => asTexts v
  | .unitInterval, v => ofWhole (asDuration v)
  | .timestampMode, v => asChoice InputMode.all InputMode.name v
  | .startUtc, v => (ofWhole (asText v)).map some
  | .stallAfter, v => (ofWhole (asDuration v)).map some
  | .invalidWarmupUnits, v => (ofWhole (asCount 4294967296 "u32" v)).map UInt32.ofNat

/-- A value is read as what it means. -/
theorem read_eq_ok_iff {k : KnownKey} {v : Toml.Value} {a : k.Value} :
    k.read v = .ok a ↔ k.Means v a := by
  cases k with
  | enabled => exact ofWhole_eq_ok_iff.trans asTruth_eq_ok_iff
  | idleThreshold => exact ofWhole_eq_ok_iff.trans asDuration_eq_ok_iff
  | bindHost => exact ofWhole_eq_ok_iff.trans asText_eq_ok_iff
  | bindPort =>
    exact asWord_eq_ok_iff UInt16.toNat_lt (fun _ => UInt16.ofNat_toNat)
      (fun _ hn => UInt16.toNat_ofNat_of_lt' hn)
  | binding => exact asChoice_eq_ok_iff mem_allBindings eq_of_bindingName
  | observe => exact asTexts_eq_ok_iff
  | unitInterval => exact ofWhole_eq_ok_iff.trans asDuration_eq_ok_iff
  | timestampMode => exact asChoice_eq_ok_iff mem_allModes eq_of_modeName
  | startUtc =>
    exact map_eq_ok_iff.trans (exists_congr fun _ =>
      and_congr (ofWhole_eq_ok_iff.trans asText_eq_ok_iff) eq_comm)
  | stallAfter =>
    exact map_eq_ok_iff.trans (exists_congr fun _ =>
      and_congr (ofWhole_eq_ok_iff.trans asDuration_eq_ok_iff) eq_comm)
  | invalidWarmupUnits =>
    exact asWord_eq_ok_iff UInt32.toNat_lt (fun _ => UInt32.ofNat_toNat)
      (fun _ hn => UInt32.toNat_ofNat_of_lt' hn)

/-- The field of a key is the value that it was set to. -/
@[simp]
theorem field_set (k : KnownKey) (a : k.Value) (s : Settings) : k.field (k.set a s) = a := by
  cases k <;> rfl

/-- No other field is set. -/
theorem field_set_of_ne {k other : KnownKey} (hne : other ≠ k) (a : k.Value) (s : Settings) :
    other.field (k.set a s) = other.field s := by
  cases k <;> cases other <;> first | rfl | exact absurd rfl hne

/-- The value of the key is a duration. -/
def IsDuration (k : KnownKey) : Prop := k = .idleThreshold ∨ k = .unitInterval ∨ k = .stallAfter

/-- Whether the value is a duration is decided by the key. -/
instance (k : KnownKey) : Decidable k.IsDuration := inferInstanceAs (Decidable (_ ∨ _ ∨ _))

/-- A value is refused without words exactly if it is the text of a duration whose last carry
is lost, and the key takes a duration. -/
theorem read_lostCarry_iff {k : KnownKey} {v : Toml.Value} :
    (∃ place, k.read v = .error ⟨.duration .lostCarry, place⟩) ↔
      k.IsDuration ∧ ∃ t, v = .text t ∧ DurationText.read t = .error .lostCarry := by
  by_cases hk : k.IsDuration
  · have hplain : (∃ place, ofWhole (asDuration v) = .error ⟨.duration .lostCarry, place⟩) ↔
        asDuration v = .error (.duration .lostCarry) := by
      cases asDuration v <;> simp [ofWhole, mapError_ok, mapError_error]
    have hsome : (∃ place, (ofWhole (asDuration v)).map some =
        .error ⟨.duration .lostCarry, place⟩) ↔ asDuration v = .error (.duration .lostCarry) := by
      cases asDuration v <;> simp [ofWhole, mapError_ok, mapError_error, Except.map]
    rw [and_iff_right hk, ← asDuration_eq_lostCarry_iff]
    rcases hk with rfl | rfl | rfl
    · exact hplain
    · exact hplain
    · exact hsome
  · have hworded : Worded (k.read v) := by
      cases k with
      | enabled => exact worded_asTruth v
      | idleThreshold => exact absurd (by decide) hk
      | bindHost => exact worded_asText v
      | bindPort => exact (worded_asCount _ _ v).map _
      | binding => exact worded_asChoice _ _ v
      | observe => exact worded_asTexts v
      | unitInterval => exact absurd (by decide) hk
      | timestampMode => exact worded_asChoice _ _ v
      | startUtc => exact (worded_asText v).map _
      | stallAfter => exact absurd (by decide) hk
      | invalidWarmupUnits => exact (worded_asCount _ _ v).map _
    exact iff_of_false (fun ⟨place, h⟩ => hworded place h) fun h => hk h.1

end KnownKey

end FlowWatch.Config
