import FlowWatch.Proofs.Config.Assignment
import FlowWatch.Proofs.Toml.Distinct
import FlowWatch.Proofs.Toml.Document

/-!
# What a document leaves behind

The assignments of a document are made in its order, and none is about the key of another
one. If all of them have values with a meaning, each key has set its own field, and the
fields of the other keys have their defaults. Otherwise the first value without a meaning is
reported, except that the program ends where that value is the text of a duration whose last
carry is lost.
-/

namespace FlowWatch.Config

open FlowWatch.Toml

/-! ### One assignment -/

namespace Assignment

variable {a : Assignment} {k : KnownKey} {v : Value} {s next : Settings}

/-- A value is assigned to its key if it has a meaning for it. -/
theorem apply_key_eq_ok_iff :
    (Assignment.key k v).apply s = .ok next ↔ ∃ value, k.Means v value ∧ k.set value s = next := by
  rw [apply, mapError_eq_ok_iff, map_eq_ok_iff]
  exact exists_congr fun value => and_congr_left' KnownKey.read_eq_ok_iff

/-- A value that suits is assigned. -/
theorem Suits.apply (h : a.Suits) (s : Settings) : ∃ next, a.apply s = .ok next := by
  cases a with
  | key k v =>
    obtain ⟨value, hvalue⟩ := h
    exact ⟨_, apply_key_eq_ok_iff.2 ⟨value, hvalue, rfl⟩⟩
  | whole t v =>
    cases h
    exact ⟨s, rfl⟩

/-- A value that does not suit is refused, without words if its last carry is lost. -/
theorem refused (h : ¬a.Suits) :
    ∃ fault, (∀ s, a.apply s = .error fault) ∧ (fault.message? = none ↔ a.LosesCarry) := by
  cases a with
  | key k v =>
    cases hread : k.read v with
    | ok value => exact absurd ⟨value, KnownKey.read_eq_ok_iff.1 hread⟩ h
    | error m =>
      refine ⟨m.fault, fun s => by rw [apply, hread]; rfl, ?_⟩
      have hlost : m.fault = .duration .lostCarry ↔
          ∃ place, k.read v = .error ⟨.duration .lostCarry, place⟩ := by
        obtain ⟨fault, place⟩ := m
        simp [hread]
      rw [message?_eq_none_iff, hlost, KnownKey.read_lostCarry_iff]
      simp only [DurationText.read_eq_lostCarry_iff]
      constructor
      · rintro ⟨hk, t, rfl, ht⟩
        exact ⟨k, t, rfl, hk, ht⟩
      · rintro ⟨_, t, ha, hk, ht⟩
        cases ha
        exact ⟨hk, t, rfl, ht⟩
  | whole t v =>
    refine ⟨.wrongType v t.label, fun s => ?_, ?_⟩
    · cases v <;> first | rfl | exact absurd rfl h
    · refine iff_of_false (Option.some_ne_none _) ?_
      rintro ⟨k, t, ha, -⟩
      cases ha

/-- An assignment does not touch the field of a key that it is not about. -/
theorem field_apply (h : a.apply s = .ok next) (hk : ¬a.About k) : k.field next = k.field s := by
  cases a with
  | key other v =>
    obtain ⟨value, -, rfl⟩ := apply_key_eq_ok_iff.1 h
    exact KnownKey.field_set_of_ne (Ne.symm hk) value s
  | whole t v =>
    cases v with
    | dateTime =>
      cases h
      rfl
    | _ => cases h

end Assignment

/-! ### Assignments in a row -/

/-- Two assignments are not about the same key. -/
def Apart (a b : Assignment) : Prop := ∀ k : KnownKey, a.About k → ¬b.About k

section Row

variable {as : List Assignment} {s next : Settings} {k : KnownKey} {v : Value}

/-- The first of several assignments is made first. -/
theorem applyAll_cons_eq_ok_iff {a : Assignment} :
    applyAll (a :: as) s = .ok next ↔ ∃ mid, a.apply s = .ok mid ∧ applyAll as mid = .ok next := by
  rw [applyAll, List.foldlM_cons]
  exact bind_eq_ok_iff

/-- Assignments that suit are all made. -/
theorem exists_applyAll (h : ∀ a ∈ as, a.Suits) (s : Settings) :
    ∃ next, applyAll as s = .ok next := by
  induction as generalizing s with
  | nil => exact ⟨s, rfl⟩
  | cons a as ih =>
    obtain ⟨ha, has⟩ := List.forall_mem_cons.1 h
    obtain ⟨mid, hmid⟩ := ha.apply s
    obtain ⟨next, hnext⟩ := ih has mid
    exact ⟨next, applyAll_cons_eq_ok_iff.2 ⟨mid, hmid, hnext⟩⟩

/-- The field of a key that no assignment is about is as it was. -/
theorem field_applyAll (h : applyAll as s = .ok next) (hk : ∀ a ∈ as, ¬a.About k) :
    k.field next = k.field s := by
  induction as generalizing s with
  | nil =>
    cases h
    rfl
  | cons a as ih =>
    obtain ⟨ha, has⟩ := List.forall_mem_cons.1 hk
    obtain ⟨mid, hmid, hnext⟩ := applyAll_cons_eq_ok_iff.1 h
    rw [ih hnext has, Assignment.field_apply hmid ha]

/-- The field of a key has the meaning of the value assigned to it. -/
theorem means_applyAll (h : applyAll as s = .ok next) (hapart : as.Pairwise Apart)
    (hk : .key k v ∈ as) : k.Means v (k.field next) := by
  induction as generalizing s with
  | nil => cases hk
  | cons a as ih =>
    obtain ⟨hfirst, hrest⟩ := List.pairwise_cons.1 hapart
    obtain ⟨mid, hmid, hnext⟩ := applyAll_cons_eq_ok_iff.1 h
    rcases List.mem_cons.1 hk with rfl | hlater
    · obtain ⟨value, hvalue, rfl⟩ := Assignment.apply_key_eq_ok_iff.1 hmid
      have hkept := field_applyAll hnext fun b hb => hfirst b hb k rfl
      rw [hkept, KnownKey.field_set]
      exact hvalue
    · exact ih hnext hrest hlater

/-- The first assignment that does not suit ends the row. -/
theorem applyAll_refused {front back : List Assignment} {a : Assignment}
    (hfront : ∀ b ∈ front, b.Suits) {fault : ShapeFault} (ha : ∀ s, a.apply s = .error fault)
    (s : Settings) : applyAll (front ++ a :: back) s = .error fault := by
  obtain ⟨mid, hmid⟩ := exists_applyAll hfront s
  exact foldlM_eq_error_iff.2 ⟨front, a, back, mid, rfl, hmid, ha mid⟩

end Row

/-! ### Different names -/

/-- A section assigns only to its keys. -/
theorem mem_keys_of_about {t : KnownSection} {v : Value} {a : Assignment} {k : KnownKey}
    (ha : a ∈ t.assignments v) (hk : a.About k) : k ∈ t.keys := by
  have hplaces {items : List Value}
      (ha : a ∈ (t.keys.zip items).map fun e => Assignment.key e.1 e.2) : k ∈ t.keys := by
    obtain ⟨e, he, rfl⟩ := List.mem_map.1 ha
    obtain rfl : e.1 = k := hk
    exact (List.of_mem_zip he).1
  cases v with
  | table entries =>
    obtain ⟨other, w, hother, -, rfl⟩ := mem_assignments_table.1 ha
    obtain rfl : other = k := hk
    exact hother
  | array items => exact hplaces ha
  | rows items => exact hplaces ha
  | _ =>
    rw [List.mem_singleton.1 ha] at hk
    exact hk.elim

/-- The keys of members are different. -/
theorem pairwise_places {keys : List KnownKey} (hkeys : keys.Nodup) (items : List Value) :
    ((keys.zip items).map fun e => Assignment.key e.1 e.2).Pairwise Apart := by
  rw [List.pairwise_map]
  induction keys generalizing items with
  | nil => exact List.Pairwise.nil
  | cons k keys ih =>
    cases items with
    | nil => exact List.Pairwise.nil
    | cons v items =>
      obtain ⟨hk, hrest⟩ := List.nodup_cons.1 hkeys
      refine List.pairwise_cons.2 ⟨?_, ih hrest items⟩
      rintro e he _ rfl rfl
      exact hk (List.of_mem_zip he).1

/-- A section assigns to no key twice. -/
theorem pairwise_sectionAssignments (t : KnownSection) {v : Value} (hv : v.Distinct) :
    (t.assignments v).Pairwise Apart := by
  cases hv with
  | table hnames hvalues =>
    refine List.pairwise_flatMap.2 ⟨fun e _ => ?_, ?_⟩
    · cases t.keys.find? (·.name == e.1) with
      | none => exact List.Pairwise.nil
      | some k => exact List.pairwise_singleton Apart _
    · refine (List.pairwise_map.1 hnames).imp fun {e f} hne a ha b hb => ?_
      simp only [Option.mem_toList, Option.map_eq_some_iff,
        KnownSection.find_keys_eq_some_iff] at ha hb
      obtain ⟨k, ⟨-, hk⟩, rfl⟩ := ha
      obtain ⟨other, ⟨-, hother⟩, rfl⟩ := hb
      rintro _ rfl rfl
      exact hne (hk.symm.trans hother)
  | array _ => exact pairwise_places t.nodup_keys _
  | rows _ => exact pairwise_places t.nodup_keys _
  | _ => exact List.pairwise_singleton Apart _

/-- A document assigns to no key twice. -/
theorem pairwise_assignments {entries : List (String × Value)}
    (h : Named Value.Distinct entries) : (assignments entries).Pairwise Apart := by
  refine List.pairwise_flatMap.2 ⟨fun e he => ?_, ?_⟩
  · rw [assigned]
    split
    · next t _ => exact pairwise_sectionAssignments t (h.items e he)
    · exact List.Pairwise.nil
  · refine (List.pairwise_map.1 h.names).imp fun hne a ha b hb k hak hbk => ?_
    obtain ⟨t, ht, ha⟩ := mem_assigned.1 ha
    obtain ⟨u, hu, hb⟩ := mem_assigned.1 hb
    obtain rfl := KnownSection.eq_of_mem_keys (mem_keys_of_about ha hak) (mem_keys_of_about hb hbk)
    exact hne (ht.symm.trans hu)

/-! ### Texts -/

/-- A text with assignments that all suit has settings: the field of each key has the
meaning of the value assigned to the key, or its default if nothing is assigned. -/
theorem ofText_of_suits {text : String} {entries : List (String × Value)}
    (hread : Toml.read text = .ok entries) (hsuits : ∀ a ∈ assignments entries, a.Suits) :
    ∃ s, ofText text = .ok s ∧ ∀ k : KnownKey,
      (∀ v, .key k v ∈ assignments entries → k.Means v (k.field s)) ∧
        ((∀ v, .key k v ∉ assignments entries) → k.field s = k.field Settings.default) := by
  have hnamed := Toml.read_distinct text entries hread
  obtain ⟨s, hs⟩ := exists_applyAll hsuits Settings.default
  have hdocument : ofDocument entries = .ok s := by
    rw [← unplaced_ofDocument hnamed.names] at hs
    exact mapError_eq_ok_iff.1 hs
  have htext : ofText text = .ok s := by
    rw [ofText, hread]
    simp only [hdocument]
  refine ⟨s, htext, fun k => ⟨fun v hv => ?_, fun hnone => ?_⟩⟩
  · exact means_applyAll hs (pairwise_assignments hnamed) hv
  · refine field_applyAll hs fun a ha habout => ?_
    cases a with
    | key other v =>
      obtain rfl : other = k := habout
      exact hnone v ha
    | whole t v => exact habout

/-- A text with an assignment that does not suit has no settings, and the first such
assignment says why: it is reported unless it loses its last carry. -/
theorem ofText_of_refused {text : String} {entries : List (String × Value)}
    (hread : Toml.read text = .ok entries) {front back : List Assignment} {a : Assignment}
    (heq : assignments entries = front ++ a :: back) (hfront : ∀ b ∈ front, b.Suits)
    (ha : ¬a.Suits) :
    ∃ stop, ofText text = .error stop ∧ (stop = .aborted ↔ a.LosesCarry) := by
  have hnamed := Toml.read_distinct text entries hread
  obtain ⟨fault, hfault, hmessage⟩ := Assignment.refused ha
  have hrow : applyAll (front ++ a :: back) Settings.default = .error fault :=
    applyAll_refused hfront hfault _
  rw [← heq, ← unplaced_ofDocument hnamed.names] at hrow
  cases hdocument : ofDocument entries with
  | ok s =>
    rw [hdocument] at hrow
    cases hrow
  | error m =>
    rw [hdocument] at hrow
    obtain rfl : m.fault = fault := Except.error.inj hrow
    have htext : ofText text = .error (m.stop text) := by
      rw [ofText, hread]
      simp only [hdocument]
    refine ⟨m.stop text, htext, ?_⟩
    rw [← hmessage, Misfit.stop]
    cases m.fault.message? <;> simp

/-- Among assignments that do not all suit there is a first one. -/
theorem exists_first_unsuitable {as : List Assignment} (h : ∃ a ∈ as, ¬a.Suits) :
    ∃ front first back,
      as = front ++ first :: back ∧ (∀ b ∈ front, b.Suits) ∧ ¬first.Suits := by
  induction as with
  | nil =>
    obtain ⟨a, ha, -⟩ := h
    cases ha
  | cons a as ih =>
    by_cases ha : a.Suits
    · obtain ⟨b, hb, hbad⟩ := h
      rcases List.mem_cons.1 hb with rfl | hlater
      · exact absurd ha hbad
      · obtain ⟨front, first, back, rfl, hfront, hfirst⟩ := ih ⟨b, hlater, hbad⟩
        exact ⟨a :: front, first, back, rfl, List.forall_mem_cons.2 ⟨ha, hfront⟩, hfirst⟩
    · exact ⟨[], a, as, rfl, List.forall_mem_nil _, ha⟩

/-- The program ends while the settings of a text are read. -/
def aborts (text : String) : Bool :=
  match ofText text with
  | .error .aborted => true
  | _ => false

/-- Whether the program ends is told from the settings. -/
theorem aborts_iff {text : String} : aborts text = true ↔ ofText text = .error .aborted := by
  rw [aborts]
  split
  · next h => simp [h]
  · next h => simpa using h

/-- The program ends only in a document that has an assignment which does not suit. -/
theorem exists_unsuitable_of_aborted {text : String} (h : ofText text = .error .aborted) :
    ∃ entries, Toml.read text = .ok entries ∧ ∃ a ∈ assignments entries, ¬a.Suits := by
  cases hread : Toml.read text with
  | error fault =>
    rw [ofText, hread] at h
    cases h
  | ok entries =>
    refine ⟨entries, rfl, ?_⟩
    by_cases hsuits : ∀ a ∈ assignments entries, a.Suits
    · obtain ⟨s, hs, -⟩ := ofText_of_suits hread hsuits
      rw [hs] at h
      cases h
    · simpa only [not_forall, exists_prop] using hsuits

/-- If everything that a document assigns suits, there are settings: the field of each key
has the meaning of the value assigned to the key, and its default if nothing is assigned.
Otherwise there are none, and the first assignment that does not suit is reported, unless
it is the text of a duration whose last carry is lost: then the program ends. -/
theorem document_overlaid {text : String} {entries : List (String × Value)}
    (hread : Toml.read text = .ok entries) :
    ((∀ a ∈ assignments entries, a.Suits) →
      ∃ s, ofText text = .ok s ∧ ∀ k : KnownKey,
        (∀ v, .key k v ∈ assignments entries → k.Means v (k.field s)) ∧
          ((∀ v, .key k v ∉ assignments entries) → k.field s = k.field Settings.default)) ∧
      ((∃ a ∈ assignments entries, ¬a.Suits) →
        ∃ front first back stop, assignments entries = front ++ first :: back ∧
          (∀ b ∈ front, b.Suits) ∧ ¬first.Suits ∧ ofText text = .error stop ∧
          (stop = .aborted ↔ first.LosesCarry)) := by
  refine ⟨ofText_of_suits hread, fun hbad => ?_⟩
  obtain ⟨front, first, back, heq, hfront, hfirst⟩ := exists_first_unsuitable hbad
  obtain ⟨stop, hstop, hcarry⟩ := ofText_of_refused hread heq hfront hfirst
  exact ⟨front, first, back, stop, heq, hfront, hfirst, hstop, hcarry⟩

/-- A document with an unknown section, and with one known and one unknown key. -/
def lonePort : List Toml.Section :=
  [⟨"other", [("bind_host", .text "nowhere")]⟩,
    ⟨"health_check", [("color", .truth true), ("bind_port", .count 9090)]⟩]

/-- Of such a document only the known key counts. -/
theorem lone_port_overlaid :
    ∃ s, ofText (String.ofList (writeSections lonePort)) = .ok s ∧
      s.healthCheck.bindPort = 9090 ∧ s.healthCheck.bindHost = "0.0.0.0" := by
  have hwellFormed : ∀ t ∈ lonePort, t.WellFormed := by
    simp only [lonePort, List.forall_mem_cons]
    refine ⟨⟨by decide, by decide, ?_, by decide⟩, ⟨by decide, by decide, ?_, by decide⟩,
      List.forall_mem_nil _⟩
    · simp [Toml.Setting.Fits]
    · simp [Toml.Setting.Fits]
  have hread := read_writeSections hwellFormed (by decide)
  have hassigned : assignments (lonePort.map Section.value) = [.key .bindPort (.integer 9090)] := by
    rfl
  have hsuits : ∀ a ∈ assignments (lonePort.map Section.value), a.Suits := by
    rw [hassigned, List.forall_mem_singleton]
    exact ⟨(9090 : UInt16), rfl⟩
  obtain ⟨s, hs, hfields⟩ := (document_overlaid hread).1 hsuits
  have hport : Value.integer 9090 = .integer s.healthCheck.bindPort.toNat :=
    (hfields .bindPort).1 _ (hassigned ▸ List.mem_singleton_self _)
  have hhost : s.healthCheck.bindHost = "0.0.0.0" := by
    refine (hfields .bindHost).2 fun v hv => ?_
    rw [hassigned, List.mem_singleton] at hv
    cases hv
  refine ⟨s, hs, UInt16.toNat_inj.1 ?_, hhost⟩
  rw [Value.integer.injEq] at hport
  show s.healthCheck.bindPort.toNat = 9090
  omega

/-- A value of the wrong shape is not always reported: here the length is beyond what a
duration can hold only by the last carry. -/
theorem carried_threshold_unreported :
    ¬∀ text entries, Toml.read text = .ok entries → (∃ a ∈ assignments entries, ¬a.Suits) →
      ∃ e, ofText text = .error (.error e) := by
  intro h
  have haborted : ofText
      "[health_check]\nidle_threshold = \"18446744073709551615s 1000000000ns\"\n" =
        .error .aborted := aborts_iff.1 (by decide +kernel)
  obtain ⟨entries, hread, hunsuitable⟩ := exists_unsuitable_of_aborted haborted
  obtain ⟨e, he⟩ := h _ entries hread hunsuitable
  rw [haborted] at he
  cases he

end FlowWatch.Config
