import FlowWatch.Proofs.Config.Environment

/-!
# What each variable leaves behind

Every variable of the environment has a field of the settings, which is the only one that
it changes. The variables are applied in a row, and the first one that cannot be read ends
it. So the variables before that one have set their fields, and all other fields are as
they were. If all variables can be read, what is left is the same when they are applied
once more.
-/

namespace FlowWatch.Config

/-- A variable of the environment. -/
inductive Variable
  /-- The variable that switches the health check on or off. -/
  | enabled
  /-- The variable of the threshold in seconds. -/
  | idleThreshold
  /-- The variable of the host. -/
  | bindHost
  /-- The variable of the port. -/
  | bindPort
  deriving DecidableEq

namespace Variable

/-- All variables in the order of their application. -/
def all : List Variable := [.enabled, .idleThreshold, .bindHost, .bindPort]

/-- The name of the variable. -/
def name : Variable → String
  | .enabled => "HEALTH_CHECK_ENABLED"
  | .idleThreshold => "HEALTH_CHECK_IDLE_SECONDS"
  | .bindHost => "HEALTH_CHECK_HOST"
  | .bindPort => "HEALTH_CHECK_PORT"

/-- The values of the field of the variable. -/
def Value : Variable → Type
  | .enabled => Bool
  | .idleThreshold => Duration
  | .bindHost => String
  | .bindPort => UInt16

/-- The value of the field of the variable. -/
def field : (v : Variable) → HealthSettings → v.Value
  | .enabled, h => h.enabled
  | .idleThreshold, h => h.idleThreshold
  | .bindHost, h => h.bindHost
  | .bindPort, h => h.bindPort

/-- The settings with the field of the variable set to a value. -/
def set : (v : Variable) → v.Value → HealthSettings → HealthSettings
  | .enabled, b, h => { h with enabled := b }
  | .idleThreshold, d, h => { h with idleThreshold := d }
  | .bindHost, host, h => { h with bindHost := host }
  | .bindPort, n, h => { h with bindPort := n }

/-- Reads the text of the variable. The text of the host is its value. -/
def read : (v : Variable) → String → Except Error v.Value
  | .enabled => readEnabled
  | .idleThreshold => readIdleSeconds
  | .bindHost => .ok
  | .bindPort => readPort

/-! ### The field of a variable -/

/-- The field of a variable is the value that it was set to. -/
@[simp]
theorem field_set (v : Variable) (a : v.Value) (h : HealthSettings) : v.field (v.set a h) = a := by
  cases v <;> rfl

/-- No other field is set. -/
theorem field_set_of_ne {v w : Variable} (hne : w ≠ v) (a : v.Value) (h : HealthSettings) :
    w.field (v.set a h) = w.field h := by
  cases v <;> cases w <;> first | rfl | exact absurd rfl hne

/-- No variable changes the binding. -/
@[simp]
theorem binding_set (v : Variable) (a : v.Value) (h : HealthSettings) :
    (v.set a h).binding = h.binding := by
  cases v <;> rfl

/-- Settings are equal if their bindings and the fields of all variables are. -/
theorem eq_of_fields {g h : HealthSettings} (hfields : ∀ v : Variable, v.field g = v.field h)
    (hbinding : g.binding = h.binding) : g = h := by
  cases g
  cases h
  cases hfields .enabled
  cases hfields .idleThreshold
  cases hfields .bindHost
  cases hfields .bindPort
  cases hbinding
  rfl

/-- Every variable is among all of them. -/
theorem mem_all (v : Variable) : v ∈ all := by
  cases v <;> decide

/-- The error of a text names the variable. -/
theorem error_of_read {v : Variable} {t : String} {e : Error} (h : v.read t = .error e) :
    ∃ reason, e = .invalid v.name reason := by
  cases v with
  | enabled =>
    simp only [read, readEnabled] at h
    split at h
    · cases h
    · cases h
      exact ⟨_, rfl⟩
  | idleThreshold =>
    simp only [read, readIdleSeconds] at h
    split at h
    · cases h
    · cases h
      exact ⟨_, rfl⟩
  | bindHost => cases h
  | bindPort =>
    simp only [read, readPort] at h
    split at h
    · cases h
    · cases h
      exact ⟨_, rfl⟩

/-- The variable as it is applied. -/
def override (v : Variable) : Override := .of v.name v.read v.set

/-- The variables are applied in their order. -/
theorem overrides_eq_map : overrides = all.map override := overrides_eq

/-! ### A row of variables -/

variable {environment : String → Option String} {h after : HealthSettings}

/-- The text of the variable cannot be read. -/
def Fails (environment : String → Option String) (v : Variable) : Prop :=
  Unreadable v.read (environment v.name)

/-- The field of the variable has its value after the application, and if the variable is
not set, the value that it had before. -/
def Overlaid (environment : String → Option String) (h after : HealthSettings) (v : Variable) :
    Prop :=
  ∃ value, Reads v.read (environment v.name) value ∧ v.field after = value.getD (v.field h)

/-- Some variables have set their fields, and nothing else is changed. -/
structure Overlays (environment : String → Option String) (vs : List Variable)
    (h after : HealthSettings) : Prop where
  /-- The fields of these variables have their values. -/
  overlaid : ∀ v ∈ vs, v.Overlaid environment h after
  /-- The fields of the others are as they were. -/
  kept : ∀ v ∉ vs, v.field after = v.field h
  /-- The binding is as it was. -/
  binding : after.binding = h.binding

/-- Nothing is changed by no variables. -/
theorem overlays_nil (environment : String → Option String) (h : HealthSettings) :
    Overlays environment [] h h :=
  ⟨fun _ hv => absurd hv List.not_mem_nil, fun _ _ => rfl, rfl⟩

/-- The first of different variables sets its field, and the others do not touch it. -/
theorem Overlays.cons {v : Variable} {vs : List Variable} {value : Option v.Value}
    (hvalue : Reads v.read (environment v.name) value) (hv : v ∉ vs)
    (hrest : Overlays environment vs (value.elim h (v.set · h)) after) :
    Overlays environment (v :: vs) h after := by
  have hown : v.field (value.elim h (v.set · h)) = value.getD (v.field h) := by
    cases value with
    | none => rfl
    | some a => exact field_set v a h
  have hother (w : Variable) (hne : w ≠ v) : w.field (value.elim h (v.set · h)) = w.field h := by
    cases value with
    | none => rfl
    | some a => exact field_set_of_ne hne a h
  refine ⟨fun w hw => ?_, fun w hw => ?_, ?_⟩
  · rcases List.mem_cons.1 hw with rfl | hlater
    · exact ⟨value, hvalue, (hrest.kept w hv).trans hown⟩
    · obtain ⟨other, hreads, hfield⟩ := hrest.overlaid w hlater
      have hne : w ≠ v := fun heq => hv (heq ▸ hlater)
      exact ⟨other, hreads, by rw [hfield, hother w hne]⟩
  · obtain ⟨hne, hlater⟩ := not_or.1 fun hmem => hw (List.mem_cons.2 hmem)
    rw [hrest.kept w hlater, hother w hne]
  · rw [hrest.binding]
    cases value with
    | none => rfl
    | some a => exact binding_set v a h

/-- Different variables all set their fields, or those in front of the first one that
cannot be read do, whose error ends the application. -/
theorem applyOverrides_cases {vs : List Variable} (hvs : vs.Nodup) (h : HealthSettings) :
    (∃ after, applyOverrides environment (vs.map override) h = (after, none) ∧
        (∀ v ∈ vs, ¬v.Fails environment) ∧ Overlays environment vs h after) ∨
      ∃ earlier v later after reason,
        vs = earlier ++ v :: later ∧
          applyOverrides environment (vs.map override) h =
            (after, some (.invalid v.name reason)) ∧
          (∀ w ∈ earlier, ¬w.Fails environment) ∧ v.Fails environment ∧
          Overlays environment earlier h after := by
  induction vs generalizing h with
  | nil =>
    exact .inl ⟨h, rfl, fun _ hv => absurd hv List.not_mem_nil, overlays_nil environment h⟩
  | cons v vs ih =>
    obtain ⟨hv, hrest⟩ := List.nodup_cons.1 hvs
    obtain ⟨value, hvalue⟩ | hfails := reads_or_unreadable v.read (environment v.name)
    · have happly : applyOverrides environment ((v :: vs).map override) h =
          applyOverrides environment (vs.map override) (value.elim h (v.set · h)) :=
        applyOverrides_of_reads hvalue (vs.map override) h
      rw [happly]
      obtain ⟨after, heq, hread, hoverlays⟩ | ⟨earlier, w, later, after, reason, rfl, heq, hread,
        hfails, hoverlays⟩ := ih hrest (value.elim h (v.set · h))
      · exact .inl ⟨after, heq, List.forall_mem_cons.2 ⟨hvalue.not_unreadable, hread⟩,
          hoverlays.cons hvalue hv⟩
      · have hearlier : v ∉ earlier := fun hmem => hv (List.mem_append_left _ hmem)
        exact .inr ⟨v :: earlier, w, later, after, reason, rfl, heq,
          List.forall_mem_cons.2 ⟨hvalue.not_unreadable, hread⟩, hfails,
          hoverlays.cons hvalue hearlier⟩
    · obtain ⟨t, e, htext, hread⟩ := hfails
      obtain ⟨reason, rfl⟩ := error_of_read hread
      exact .inr ⟨[], v, vs, h, reason, rfl, applyOverrides_of_error htext hread _ h,
        fun _ hw => absurd hw List.not_mem_nil, ⟨t, _, htext, hread⟩, overlays_nil environment h⟩

/-- Settings on which all variables have their values already are not changed. -/
theorem Overlays.eq {again : HealthSettings} (hfirst : Overlays environment all h after)
    (hsecond : Overlays environment all after again) : again = after := by
  refine eq_of_fields (fun v => ?_) hsecond.binding
  obtain ⟨value, hvalue, hafter⟩ := hfirst.overlaid v v.mem_all
  obtain ⟨other, hother, hagain⟩ := hsecond.overlaid v v.mem_all
  have hsame : value.map (Except.ok (ε := Error)) = other.map .ok := hvalue.symm.trans hother
  cases value with
  | none =>
    cases other with
    | none => exact hagain
    | some b => simp at hsame
  | some a =>
    cases other with
    | none => simp at hsame
    | some b =>
      have hab : a = b := by simpa using hsame
      rw [hagain, hafter, hab]
      rfl

end Variable

/-- The application of the environment ends without an error exactly if every variable
that is set can be read. Then each field has the value of its variable, or is as it was if
the variable is not set, and to apply the environment once more changes nothing. Otherwise
the error names the first variable that cannot be read: the variables before it have set
their fields, and its own field and those of later ones are as they were. The binding is
never changed. -/
theorem environment_overlaid (environment : String → Option String) (h : HealthSettings) :
    let result := applyEnvironment environment h
    (result.2 = none ↔ ∀ v : Variable, ¬v.Fails environment) ∧
      (result.2 = none →
        (∀ v : Variable, v.Overlaid environment h result.1) ∧
          applyEnvironment environment result.1 = result) ∧
      (∀ e, result.2 = some e →
        ∃ earlier v later, Variable.all = earlier ++ v :: later ∧
          v.Fails environment ∧ (∀ w ∈ earlier, ¬w.Fails environment) ∧
          (∃ reason, e = .invalid v.name reason) ∧
          (∀ w ∈ earlier, w.Overlaid environment h result.1) ∧
          ∀ w ∈ v :: later, w.field result.1 = w.field h) ∧
      result.1.binding = h.binding := by
  intro result
  have hdistinct : Variable.all.Nodup := by decide
  have happlied (g : HealthSettings) : applyEnvironment environment g =
      applyOverrides environment (Variable.all.map Variable.override) g := by
    rw [applyEnvironment, Variable.overrides_eq_map]
  have hresult : result = _ := happlied h
  obtain ⟨after, heq, hread, hoverlays⟩ | ⟨earlier, v, later, after, reason, hall, heq, hread,
    hfails, hoverlays⟩ := Variable.applyOverrides_cases hdistinct h
  · rw [heq] at hresult
    rw [hresult]
    refine ⟨iff_of_true rfl fun v => hread v v.mem_all, fun _ => ⟨?_, ?_⟩, ?_, hoverlays.binding⟩
    · exact fun v => hoverlays.overlaid v v.mem_all
    · rw [happlied]
      obtain ⟨again, hagain, -, htwice⟩ | ⟨earlier, v, later, again, reason, hall, -, -, hfails,
        -⟩ := Variable.applyOverrides_cases hdistinct after
      · rw [hagain, hoverlays.eq htwice]
      · exact absurd hfails (hread v v.mem_all)
    · exact fun e he => absurd he.symm (Option.some_ne_none e)
  · rw [heq] at hresult
    rw [hresult]
    refine ⟨iff_of_false (Option.some_ne_none _) fun hall => hall v hfails,
      fun hnone => absurd hnone (Option.some_ne_none _), fun e he => ?_, hoverlays.binding⟩
    obtain rfl := Option.some.inj he
    refine ⟨earlier, v, later, hall, hfails, hread, ⟨reason, rfl⟩, hoverlays.overlaid, ?_⟩
    intro w hw
    rw [hall, List.nodup_append] at hdistinct
    have hlater : w ∉ earlier := fun hearlier => hdistinct.2.2 w hearlier w hw rfl
    exact hoverlays.kept w hlater

end FlowWatch.Config
