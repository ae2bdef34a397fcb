import FlowWatch.Config.Environment

/-!
# What the environment sets

A variable that is not set leaves its field alone, and a variable that is set
gives its field the value that its text reads as. So what the environment does
to the settings is an overlay of four values, each of which may be absent. There
is such an overlay unless the text of some variable cannot be read, and then the
application of the variables ends in an error.
-/

namespace FlowWatch.Config

section Variables

variable {α : Type} {read : String → Except Error α} {text : Option String}

/-- What is known of a variable is its value: there is neither a text nor a value,
or the text reads as the value. -/
def Reads (read : String → Except Error α) (text : Option String) (value : Option α) : Prop :=
  text.map read = value.map .ok

/-- A variable is set to a text that cannot be read. -/
def Unreadable (read : String → Except Error α) (text : Option String) : Prop :=
  ∃ t e, text = some t ∧ read t = .error e

/-- A variable has a value, present or absent, or it cannot be read. -/
theorem reads_or_unreadable (read : String → Except Error α) (text : Option String) :
    (∃ value, Reads read text value) ∨ Unreadable read text := by
  cases text with
  | none => exact .inl ⟨none, rfl⟩
  | some t =>
    cases hread : read t with
    | ok value => exact .inl ⟨some value, congrArg some hread⟩
    | error e => exact .inr ⟨t, e, rfl, hread⟩

/-- A variable with a value can be read. -/
theorem Reads.not_unreadable {value : Option α} (h : Reads read text value) :
    ¬ Unreadable read text := by
  rintro ⟨t, e, rfl, hread⟩
  rw [Reads, Option.map_some, hread] at h
  cases value <;> simp at h

/-- A text cannot be read exactly when reading it has no value. -/
theorem unreadable_some_iff {t : String} :
    Unreadable read (some t) ↔ (read t).toOption = none := by
  constructor
  · rintro ⟨t, e, ht, hread⟩
    cases ht
    rw [hread]
    rfl
  · intro h
    cases hread : read t with
    | ok value => simp [hread, Except.toOption] at h
    | error e => exact ⟨t, e, rfl, hread⟩

end Variables

/-! ### One variable -/

/-- A variable whose value changes the settings once its text is read. -/
def Override.of {α : Type} (name : String) (read : String → Except Error α)
    (update : α → HealthSettings → HealthSettings) : Override :=
  ⟨name, fun text h => (read text).map fun a => update a h⟩

/-- All variables are of this kind. The text of the host is its value. -/
theorem overrides_eq :
    overrides =
      [.of "HEALTH_CHECK_ENABLED" readEnabled fun b h => { h with enabled := b },
       .of "HEALTH_CHECK_IDLE_SECONDS" readIdleSeconds fun d h => { h with idleThreshold := d },
       .of "HEALTH_CHECK_HOST" .ok fun host h => { h with bindHost := host },
       .of "HEALTH_CHECK_PORT" readPort fun n h => { h with bindPort := n }] :=
  rfl

section Overrides

variable {α : Type} {name : String} {read : String → Except Error α}
  {update : α → HealthSettings → HealthSettings} {environment : String → Option String}

/-- A variable with a value changes the settings by it, and the next one is applied. -/
theorem applyOverrides_of_reads {value : Option α} (h : Reads read (environment name) value)
    (rest : List Override) (s : HealthSettings) :
    applyOverrides environment (.of name read update :: rest) s =
      applyOverrides environment rest (value.elim s (update · s)) := by
  rw [applyOverrides, Override.of]
  revert h
  cases environment name with
  | none =>
    intro h
    cases value with
    | none => rfl
    | some a => simp [Reads] at h
  | some t =>
    intro h
    cases value with
    | none => simp [Reads] at h
    | some a =>
      have hread : read t = .ok a := by simpa [Reads] using h
      simp only [hread, Except.map, Option.elim]

/-- A variable that cannot be read ends the application in its error. -/
theorem applyOverrides_of_error {t : String} {e : Error} (htext : environment name = some t)
    (hread : read t = .error e) (rest : List Override) (s : HealthSettings) :
    applyOverrides environment (.of name read update :: rest) s = (s, some e) := by
  simp only [applyOverrides, Override.of, htext, hread, Except.map]

/-- A variable that cannot be read ends the application before it changes anything. -/
theorem applyOverrides_of_unreadable (h : Unreadable read (environment name))
    (rest : List Override) (s : HealthSettings) :
    ∃ e, applyOverrides environment (.of name read update :: rest) s = (s, some e) := by
  obtain ⟨t, e, htext, hread⟩ := h
  exact ⟨e, applyOverrides_of_error htext hread rest s⟩

end Overrides

/-! ### All variables -/

/-- The values of all variables. -/
structure Overlay where
  /-- Whether the health check is on. -/
  enabled : Option Bool
  /-- The threshold. -/
  idleThreshold : Option Duration
  /-- The host. -/
  bindHost : Option String
  /-- The port. -/
  bindPort : Option UInt16

/-- The values are those of an environment. -/
structure Overlay.Of (environment : String → Option String) (o : Overlay) : Prop where
  /-- The first variable switches the health check on or off. -/
  enabled : Reads readEnabled (environment "HEALTH_CHECK_ENABLED") o.enabled
  /-- The second one is the threshold in seconds. -/
  idleThreshold : Reads readIdleSeconds (environment "HEALTH_CHECK_IDLE_SECONDS") o.idleThreshold
  /-- The third one is the host as it stands. -/
  bindHost : environment "HEALTH_CHECK_HOST" = o.bindHost
  /-- The last one is the port. -/
  bindPort : Reads readPort (environment "HEALTH_CHECK_PORT") o.bindPort

/-- The settings with the values that are present. -/
def Overlay.over (o : Overlay) (h : HealthSettings) : HealthSettings :=
  { h with
    enabled := o.enabled.getD h.enabled
    idleThreshold := o.idleThreshold.getD h.idleThreshold
    bindHost := o.bindHost.getD h.bindHost
    bindPort := o.bindPort.getD h.bindPort }

/-- Some variable is set to a text that cannot be read. A host can always be read. -/
def SomeUnreadable (environment : String → Option String) : Prop :=
  Unreadable readEnabled (environment "HEALTH_CHECK_ENABLED") ∨
    Unreadable readIdleSeconds (environment "HEALTH_CHECK_IDLE_SECONDS") ∨
    Unreadable readPort (environment "HEALTH_CHECK_PORT")

variable {environment : String → Option String}

/-- The variables have values unless one of them cannot be read. -/
theorem overlay_or_unreadable (environment : String → Option String) :
    (∃ o, Overlay.Of environment o) ∨ SomeUnreadable environment := by
  obtain ⟨enabled, henabled⟩ | h :=
    reads_or_unreadable readEnabled (environment "HEALTH_CHECK_ENABLED")
  · obtain ⟨idle, hidle⟩ | h :=
      reads_or_unreadable readIdleSeconds (environment "HEALTH_CHECK_IDLE_SECONDS")
    · obtain ⟨port, hport⟩ | h := reads_or_unreadable readPort (environment "HEALTH_CHECK_PORT")
      · exact .inl ⟨⟨enabled, idle, environment "HEALTH_CHECK_HOST", port⟩,
          henabled, hidle, rfl, hport⟩
      · exact .inr (.inr (.inr h))
    · exact .inr (.inr (.inl h))
  · exact .inr (.inl h)

/-- Variables with values change the settings by them. -/
theorem Overlay.Of.apply {o : Overlay} (ho : o.Of environment) (h : HealthSettings) :
    applyEnvironment environment h = (o.over h, none) := by
  have hhost : Reads (α := String) .ok (environment "HEALTH_CHECK_HOST") o.bindHost := by
    rw [ho.bindHost, Reads]
  rw [applyEnvironment, overrides_eq, applyOverrides_of_reads ho.enabled,
    applyOverrides_of_reads ho.idleThreshold, applyOverrides_of_reads hhost,
    applyOverrides_of_reads ho.bindPort, applyOverrides]
  obtain ⟨enabled, idle, host, port⟩ := o
  cases enabled <;> cases idle <;> cases host <;> cases port <;> rfl

/-- A variable that cannot be read ends the application in an error. The variables
before the first such one have values. -/
theorem applyEnvironment_of_unreadable (hbad : SomeUnreadable environment) (h : HealthSettings) :
    ∃ after e, applyEnvironment environment h = (after, some e) := by
  rw [applyEnvironment, overrides_eq]
  obtain ⟨enabled, henabled⟩ | hfirst :=
    reads_or_unreadable readEnabled (environment "HEALTH_CHECK_ENABLED")
  · rw [applyOverrides_of_reads henabled]
    obtain ⟨idle, hidle⟩ | hsecond :=
      reads_or_unreadable readIdleSeconds (environment "HEALTH_CHECK_IDLE_SECONDS")
    · have hhost : Reads (α := String) .ok (environment "HEALTH_CHECK_HOST")
          (environment "HEALTH_CHECK_HOST") := rfl
      have hport : Unreadable readPort (environment "HEALTH_CHECK_PORT") :=
        (hbad.resolve_left henabled.not_unreadable).resolve_left hidle.not_unreadable
      rw [applyOverrides_of_reads hidle, applyOverrides_of_reads hhost]
      exact ⟨_, applyOverrides_of_unreadable hport _ _⟩
    · exact ⟨_, applyOverrides_of_unreadable hsecond _ _⟩
  · exact ⟨_, applyOverrides_of_unreadable hfirst _ _⟩

/-- The application ends without an error exactly when all variables have values,
and then it has changed the settings by them. -/
theorem applyEnvironment_eq_ok_iff {h after : HealthSettings} :
    applyEnvironment environment h = (after, none) ↔
      ∃ o : Overlay, o.Of environment ∧ after = o.over h := by
  constructor
  · intro happly
    obtain ⟨o, ho⟩ | hbad := overlay_or_unreadable environment
    · rw [ho.apply, Prod.mk.injEq] at happly
      exact ⟨o, ho, happly.1.symm⟩
    · obtain ⟨left, e, herror⟩ := applyEnvironment_of_unreadable hbad h
      simp [herror] at happly
  · rintro ⟨o, ho, rfl⟩
    exact ho.apply h

end FlowWatch.Config
