import FlowWatch.Daemon.Startup
import FlowWatch.Proofs.Config.Environment
import FlowWatch.Proofs.Text.Numeral

/-!
# Which source of a setting counts

The settings of a run start from one file or from the defaults. A value of the
environment replaces the one of the file, and a value of the command line
replaces both, each in its own field only. A text of the environment that cannot
be read is never passed over, not even where the command line has a value.
-/

namespace FlowWatch.Daemon

open CommandLine Config

/-! ### The base -/

/-- A file holds settings: it can be read, as the text of a document of them. -/
def Holds (m : Machine) (path : String) (base : Settings) : Prop :=
  ∃ content text, m.file path = .file content ∧ String.fromUTF8? content = some text ∧
    ofText text = .ok base

/-- What there is at a path gives settings exactly when it is a file that holds them. -/
theorem ofFile_eq_ok_iff {m : Machine} {path : String} {base : Settings} :
    ofFile path (m.file path) = .ok base ↔ Holds m path base := by
  rw [ofFile]
  constructor
  · intro h
    split at h
    · next text htext =>
      cases hentry : m.file path with
      | file content =>
        rw [hentry, FileEntry.text] at htext
        split at htext
        · next read hread =>
          cases htext
          exact ⟨content, text, hentry, hread, h⟩
        · cases htext
      | _ => simp [hentry, FileEntry.text] at htext
    · cases h
  · rintro ⟨content, text, hentry, hread, h⟩
    simp only [hentry, FileEntry.text, hread, h]

/-- The environment names no file that exists. -/
def NoneNamed (m : Machine) : Prop :=
  ∀ path, m.variableValue "LIVENESS_CONFIG_PATH" = some path → (m.file path).exists = false

/-- The settings that a run starts from, by the first source that there is. -/
inductive Supplies (m : Machine) (a : Arguments) : Settings → Prop
  /-- The file of the command line holds them. -/
  | argument {path : String} {base : Settings} (hgiven : a.config = some path)
      (hfile : Holds m path base) : Supplies m a base
  /-- The file that the environment names holds them. -/
  | environment {path : String} {base : Settings} (hgiven : a.config = none)
      (hset : m.variableValue "LIVENESS_CONFIG_PATH" = some path)
      (hexists : (m.file path).exists = true) (hfile : Holds m path base) : Supplies m a base
  /-- The first file at a usual place holds them. -/
  | place {earlier later : List String} {path : String} {base : Settings}
      (hgiven : a.config = none) (hset : NoneNamed m)
      (hplaces : ["/etc/stream-liveness/config.toml", "config/default.toml"] =
        earlier ++ path :: later)
      (hearlier : ∀ other ∈ earlier, (m.file other).exists = false)
      (hexists : (m.file path).exists = true) (hfile : Holds m path base) : Supplies m a base
  /-- There is no file, and they are the defaults. -/
  | builtIn (hgiven : a.config = none) (hset : NoneNamed m)
      (hmissing : ∀ path ∈ ["/etc/stream-liveness/config.toml", "config/default.toml"],
        (m.file path).exists = false) : Supplies m a Settings.default

section Source

variable {m : Machine} {a : Arguments}

/-- The source is the file that the environment names, if it exists. -/
theorem source_of_named {path : String} (hgiven : a.config = none)
    (hset : m.variableValue "LIVENESS_CONFIG_PATH" = some path)
    (hexists : (m.file path).exists = true) : source m a = .environment path := by
  rw [source, hgiven, pathVariable, hset]
  simp only [hexists, if_true]

/-- The source is a usual one where the command line and the environment have none. -/
theorem source_of_noneNamed (hgiven : a.config = none) (hset : NoneNamed m) :
    source m a = usualSource m := by
  rw [source, hgiven, pathVariable]
  cases hvalue : m.variableValue "LIVENESS_CONFIG_PATH" with
  | none => rfl
  | some path => simp only [hset path hvalue, Bool.false_eq_true, if_false]

/-- A usual source is the first place where there is something. -/
theorem usualSource_of_place {earlier later : List String} {path : String}
    (hplaces : usualPlaces = earlier ++ path :: later)
    (hearlier : ∀ other ∈ earlier, (m.file other).exists = false)
    (hexists : (m.file path).exists = true) : usualSource m = .place path := by
  have hfind : usualPlaces.find? (fun path => (m.file path).exists) = some path :=
    List.find?_eq_some_iff_append.mpr
      ⟨hexists, earlier, later, hplaces, fun other hother => by rw [hearlier other hother]; rfl⟩
  rw [usualSource, hfind]

/-- The defaults are the source where there is nothing at any usual place. -/
theorem usualSource_of_missing (hmissing : ∀ path ∈ usualPlaces, (m.file path).exists = false) :
    usualSource m = .builtIn := by
  have hfind : usualPlaces.find? (fun path => (m.file path).exists) = none :=
    List.find?_eq_none.mpr fun path hpath => by rw [hmissing path hpath]; exact Bool.false_ne_true
  rw [usualSource, hfind]

/-- A usual source is a place or the defaults. -/
theorem usualSource_cases (m : Machine) :
    (∃ earlier path later, usualPlaces = earlier ++ path :: later ∧
      (∀ other ∈ earlier, (m.file other).exists = false) ∧ (m.file path).exists = true) ∨
    ∀ path ∈ usualPlaces, (m.file path).exists = false := by
  cases hfind : usualPlaces.find? fun path => (m.file path).exists with
  | some path =>
    obtain ⟨hexists, earlier, later, hplaces, hearlier⟩ := List.find?_eq_some_iff_append.mp hfind
    refine .inl ⟨earlier, path, later, hplaces, fun other hother => ?_, hexists⟩
    simpa using hearlier other hother
  | none =>
    refine .inr fun path hpath => ?_
    simpa using List.find?_eq_none.mp hfind path hpath

/-- A run starts from the settings of its source. A name without a file counts like
no name at all. -/
theorem load_source_eq_ok_iff {base : Settings} :
    (source m a).load m = .ok base ↔ Supplies m a base := by
  constructor
  · intro h
    cases hgiven : a.config with
    | some path =>
      rw [source, hgiven] at h
      exact .argument hgiven (ofFile_eq_ok_iff.mp h)
    | none =>
      by_cases hset : NoneNamed m
      · rw [source_of_noneNamed hgiven hset] at h
        obtain ⟨earlier, path, later, hplaces, hearlier, hexists⟩ | hmissing := usualSource_cases m
        · rw [usualSource_of_place hplaces hearlier hexists] at h
          exact .place hgiven hset hplaces hearlier hexists (ofFile_eq_ok_iff.mp h)
        · rw [usualSource_of_missing hmissing] at h
          cases h
          exact .builtIn hgiven hset hmissing
      · obtain ⟨path, hnamed, hexists⟩ : ∃ path,
            m.variableValue "LIVENESS_CONFIG_PATH" = some path ∧ (m.file path).exists = true := by
          simpa [NoneNamed] using hset
        rw [source_of_named hgiven hnamed hexists] at h
        exact .environment hgiven hnamed hexists (ofFile_eq_ok_iff.mp h)
  · intro h
    cases h with
    | argument hgiven hfile =>
      rw [source, hgiven]
      exact ofFile_eq_ok_iff.mpr hfile
    | environment hgiven hset hexists hfile =>
      rw [source_of_named hgiven hset hexists]
      exact ofFile_eq_ok_iff.mpr hfile
    | place hgiven hset hplaces hearlier hexists hfile =>
      rw [source_of_noneNamed hgiven hset, usualSource_of_place hplaces hearlier hexists]
      exact ofFile_eq_ok_iff.mpr hfile
    | builtIn hgiven hset hmissing =>
      rw [source_of_noneNamed hgiven hset, usualSource_of_missing hmissing]
      rfl

end Source

/-! ### What overrides the base -/

/-- The settings of a run over its base: the command line counts before the
environment, and the environment before the base, in the fields that they have. -/
def layered (base : Settings) (set : Overlay) (a : Arguments) : Settings :=
  override a { base with healthCheck := set.over base.healthCheck }

/-- A base is completed exactly when the environment can be read and the layered
settings are valid. -/
theorem complete_eq_ok_iff {m : Machine} {a : Arguments} {base s : Settings} :
    complete m a base = .ok s ↔
      ∃ set : Overlay, set.Of m.variableValue ∧ s = layered base set a ∧ validate s = .ok () := by
  rw [complete]
  constructor
  · intro h
    split at h
    · cases h
    · next health happly =>
      obtain ⟨set, hset, rfl⟩ := applyEnvironment_eq_ok_iff.mp happly
      dsimp only at h
      split at h
      · cases h
      · next hvalid =>
        cases h
        exact ⟨set, hset, rfl, hvalid⟩
  · rintro ⟨set, hset, rfl, hvalid⟩
    rw [hset.apply base.healthCheck]
    rw [layered] at hvalid ⊢
    simp only [hvalid]

/-- A variable that cannot be read is reported, whatever the command line says. -/
theorem complete_of_unreadable {m : Machine} (hbad : SomeUnreadable m.variableValue)
    (a : Arguments) (base : Settings) :
    ∃ e, complete m a base =
      .error (failed "Invalid HEALTH_CHECK_* environment variable" e) := by
  obtain ⟨after, e, happly⟩ := applyEnvironment_of_unreadable hbad base.healthCheck
  exact ⟨e, by rw [complete, happly]⟩

/-- The settings of a run are those of its source, completed. -/
theorem resolve_of_supplies {m : Machine} {a : Arguments} {base : Settings}
    (h : Supplies m a base) : (resolve m a).result = complete m a base := by
  simp only [resolve, load_source_eq_ok_iff.mpr h]

/-- Without a base there are no settings. -/
theorem resolve_cases (m : Machine) (a : Arguments) :
    (∃ base, Supplies m a base) ∨ ∃ trouble, (resolve m a).result = .error trouble := by
  cases hload : (source m a).load m with
  | ok base => exact .inl ⟨base, load_source_eq_ok_iff.mp hload⟩
  | error stop => exact .inr ⟨_, by simp only [resolve, hload]; rfl⟩

/-- There are settings exactly where there is a base that can be completed. -/
theorem resolve_eq_ok_iff {m : Machine} {a : Arguments} {s : Settings} :
    (resolve m a).result = .ok s ↔
      ∃ base set, Supplies m a base ∧ Overlay.Of m.variableValue set ∧
        s = layered base set a ∧ validate s = .ok () := by
  constructor
  · intro h
    obtain ⟨base, hbase⟩ | ⟨trouble, hfails⟩ := resolve_cases m a
    · rw [resolve_of_supplies hbase] at h
      obtain ⟨set, hset, hlayered, hvalid⟩ := complete_eq_ok_iff.mp h
      exact ⟨base, set, hbase, hset, hlayered, hvalid⟩
    · rw [hfails] at h
      cases h
  · rintro ⟨base, set, hbase, hset, hlayered, hvalid⟩
    rw [resolve_of_supplies hbase]
    exact complete_eq_ok_iff.mpr ⟨set, hset, hlayered, hvalid⟩

/-- The fields of layered settings, one by one. -/
theorem eq_layered_iff {base s : Settings} {set : Overlay} {a : Arguments} :
    s = layered base set a ↔
      s.healthCheck.enabled = a.enabled.getD (set.enabled.getD base.healthCheck.enabled) ∧
      s.healthCheck.idleThreshold =
        a.idle.getD (set.idleThreshold.getD base.healthCheck.idleThreshold) ∧
      s.healthCheck.bindHost = set.bindHost.getD base.healthCheck.bindHost ∧
      s.healthCheck.bindPort = set.bindPort.getD base.healthCheck.bindPort ∧
      s.healthCheck.binding = base.healthCheck.binding ∧
      s.pipeline = { base.pipeline with
        observe := if a.observe = [] then base.pipeline.observe else a.observe } := by
  obtain ⟨⟨enabled, idle, host, port, binding⟩, pipeline⟩ := s
  simp only [layered, override, Overlay.over, Settings.mk.injEq, HealthSettings.mk.injEq,
    List.isEmpty_iff, and_assoc]

/-! ### The whole resolution -/

/-- There are settings exactly where the first source that there is holds a base,
every variable can be read, and the result is valid. Then each field has the value
of the command line, of the environment or of the base, by what the field can be
set from and in this order. A variable that cannot be read is a failure with any
command line, and it is the one reported where there is a base. -/
theorem resolve_by_precedence (m : Machine) (a : Arguments) :
    (∀ s, (resolve m a).result = .ok s ↔
      ∃ base set, Supplies m a base ∧ Overlay.Of m.variableValue set ∧
        (s.healthCheck.enabled = a.enabled.getD (set.enabled.getD base.healthCheck.enabled) ∧
          s.healthCheck.idleThreshold =
            a.idle.getD (set.idleThreshold.getD base.healthCheck.idleThreshold) ∧
          s.healthCheck.bindHost = set.bindHost.getD base.healthCheck.bindHost ∧
          s.healthCheck.bindPort = set.bindPort.getD base.healthCheck.bindPort ∧
          s.healthCheck.binding = base.healthCheck.binding ∧
          s.pipeline = { base.pipeline with
            observe := if a.observe = [] then base.pipeline.observe else a.observe }) ∧
        validate s = .ok ()) ∧
    (SomeUnreadable m.variableValue →
      (∃ trouble, (resolve m a).result = .error trouble) ∧
        ∀ base, Supplies m a base → ∃ e, (resolve m a).result =
          .error (failed "Invalid HEALTH_CHECK_* environment variable" e)) := by
  refine ⟨fun s => ?_, fun hbad => ?_⟩
  · simp only [← eq_layered_iff]
    exact resolve_eq_ok_iff
  · have hreported : ∀ base, Supplies m a base → ∃ e, (resolve m a).result =
        .error (failed "Invalid HEALTH_CHECK_* environment variable" e) := by
      intro base hbase
      rw [resolve_of_supplies hbase]
      exact complete_of_unreadable hbad a base
    refine ⟨?_, hreported⟩
    obtain ⟨base, hbase⟩ | hfails := resolve_cases m a
    · obtain ⟨e, he⟩ := hreported base hbase
      exact ⟨_, he⟩
    · exact hfails

/-- A text of settings in both sections. -/
def localText : String :=
  "[health_check]\nbind_port = 9000\nbind_host = \"::1\"\n\n[pipeline]\nobserve = [\"src\"]\n"

/-- A machine whose only file of settings is at the second usual place, with a name
of a file that does not exist in its environment, and with further variables. -/
def localMachine (values : List (String × String)) : Machine where
  variableValue name :=
    ((("LIVENESS_CONFIG_PATH", "/srv/none.toml") :: values).find? (·.1 == name)).map (·.2)
  file path := if path = "config/default.toml" then .file localText.toUTF8 else .missing
  listen := .bound

/-- The settings of the file. -/
def localSettings : Settings where
  healthCheck := { HealthSettings.default with bindPort := 9000, bindHost := "::1" }
  pipeline := { PipelineSettings.default with observe := ["src"] }

/-- The bytes of a text are read back as the text. -/
theorem fromUTF8?_toUTF8 (text : String) : String.fromUTF8? text.toUTF8 = some text := by
  rw [String.fromUTF8?]
  exact dif_pos text.isValidUTF8

/-- The machine supplies the settings of its file where no other file is given. -/
theorem supplies_local (values : List (String × String)) {a : Arguments}
    (hgiven : a.config = none) : Supplies (localMachine values) a localSettings := by
  have hset : NoneNamed (localMachine values) := by
    rintro path hpath
    cases hpath
    rfl
  have hearlier : ∀ other ∈ ["/etc/stream-liveness/config.toml"],
      ((localMachine values).file other).exists = false := by
    rintro other hother
    cases List.mem_singleton.mp hother
    rfl
  have hdocument : ofText localText = .ok localSettings := eq_ok_of_toOption (by decide +kernel)
  exact .place hgiven hset rfl hearlier rfl
    ⟨_, localText, rfl, fromUTF8?_toUTF8 localText, hdocument⟩

/-- A variable and the command line both override a setting of the file, each in a
field of its own, and the command line counts where both have a threshold. There it
does not make up for a variable that cannot be read. -/
theorem resolve_local :
    (resolve (localMachine [("HEALTH_CHECK_ENABLED", " Yes"), ("HEALTH_CHECK_IDLE_SECONDS", "5"),
        ("HEALTH_CHECK_PORT", "9100")])
      { Arguments.blank with idle := some (.ofWord 3000000000), observe := ["sink:sink"] }).result =
      .ok ⟨⟨true, .ofWord 3000000000, "::1", 9100, .shared⟩, PipelineSettings.default⟩ ∧
    ∃ trouble, (resolve (localMachine [("HEALTH_CHECK_IDLE_SECONDS", "soon")])
      { Arguments.blank with idle := some (.ofWord 3000000000) }).result = .error trouble := by
  constructor
  · refine ((resolve_by_precedence _ _).1 _).mpr
      ⟨localSettings, ⟨some true, some (.ofWord 5000000000), none, some 9100⟩,
        supplies_local _ rfl, ⟨?_, ?_, rfl, ?_⟩, ⟨rfl, rfl, rfl, rfl, rfl, rfl⟩, ?_⟩
    · exact congrArg some (eq_ok_of_toOption (by decide +kernel))
    · exact congrArg some (eq_ok_of_toOption (by decide +kernel))
    · exact congrArg some (eq_ok_of_toOption (by decide +kernel))
    · exact eq_ok_of_toOption (by decide +kernel)
  · have hsoon : SomeUnreadable
        (localMachine [("HEALTH_CHECK_IDLE_SECONDS", "soon")]).variableValue :=
      .inr (.inl (unreadable_some_iff.mpr (by decide +kernel)))
    exact ((resolve_by_precedence _ _).2 hsoon).1

end FlowWatch.Daemon
