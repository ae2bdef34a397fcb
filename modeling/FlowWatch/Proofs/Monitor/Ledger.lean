import FlowWatch.Proofs.Monitor.Updates

/-!
# The number of updates and the history of a run

An observer who sees only operations and their answers can tell how often each
tracker was updated: once for every direct update, and for every unit of data
once for each probe that was attached at its point before and feeds the tracker.
Names that occur more than once, probes that share a pad or a tracker, and
probes attached in the middle of a run make no difference. The invariant relates
the probes on all pads, and the counters of all trackers, to the whole history.
-/

namespace FlowWatch.Monitor

/-- The probes that were attached in a history, which has its latest occurrence
first, in the order they were attached. -/
def attachments : List Occurrence → List Probe
  | [] => []
  | .attached probe :: earlier => attachments earlier ++ [probe]
  | .passed _ :: earlier | .updated _ :: earlier => attachments earlier

/-- The number of direct updates of a tracker in a history. -/
def direct (k : Nat) (history : List Occurrence) : Nat := history.count (.updated k)

/-- The sum, over all data in a history, of the number of probes at its point that
were attached before and feed a tracker. -/
def delivered (k : Nat) : List Occurrence → Nat
  | [] => 0
  | .passed point :: earlier =>
    (attachments earlier).countP (fun probe => probe.point = point && probe.tracker = k) +
      delivered k earlier
  | .attached _ :: earlier | .updated _ :: earlier => delivered k earlier

/-- The history together with what is written down of one more operation. -/
def record (history : List Occurrence) (occurrence : Option Occurrence) : List Occurrence :=
  occurrence.toList ++ history

namespace Session

/-- The history of a run that comes after an earlier history. -/
def historyAfter (s : Session) (earlier : List Occurrence) : List Operation → List Occurrence
  | [] => earlier
  | operation :: rest =>
    (s.step operation).session.historyAfter (record earlier (s.occurrence? operation)) rest

/-- How a session agrees with its history. -/
structure Accounted (s : Session) (history : List Occurrence) : Prop where
  /-- The probes at a point are those that were attached there, in order. -/
  placed : ∀ element pad, s.monitor.topology.probesAt element pad =
    (attachments history).filter fun probe => probe.point = ⟨element, pad⟩
  /-- The tracker of every probe exists. -/
  stored : ∀ probe ∈ attachments history, probe.tracker < s.monitor.trackers.length
  /-- Every counter counts the updates in the history. -/
  counted : ∀ (k : Nat) (t : Tracker), s.monitor.trackers[k]? = some t →
    t.updates.toNat = (direct k history + delivered k history) % 18446744073709551616
  /-- Nothing was ever written down of a tracker that does not exist. -/
  unborn : ∀ k, s.monitor.trackers.length ≤ k → direct k history + delivered k history = 0

/-- The empty session agrees with the empty history. -/
theorem accounted_empty : empty.Accounted [] where
  placed _ _ := rfl
  stored := by simp [attachments]
  counted := by simp [empty, Monitor.empty]
  unborn _ _ := rfl

/-- An effect makes one tracker, at the reading of the clock, or none. -/
theorem Moves.trackers_cases {s s' : Session} {occurrence : Option Occurrence}
    (hmoves : s.Moves occurrence s') :
    (∃ threshold, s'.monitor.trackers =
        s.monitor.trackers ++ [Tracker.fresh threshold s.now]) ∨
      s'.monitor.trackers.length = s.monitor.trackers.length := by
  cases hmoves with
  | still => exact .inr rfl
  | moved clock => exact .inr rfl
  | extended name pads => exact .inr rfl
  | made threshold => exact .inl ⟨threshold, rfl⟩
  | attached hstored hpad => exact .inr rfl
  | passed point => exact .inr (Monitor.push_length ..)
  | updated hstored => exact .inr (List.length_modify ..)
  | looked watched => exact .inr (Monitor.recordAll_length ..)

/-- An effect makes no tracker disappear. -/
theorem Moves.length_le {s s' : Session} {occurrence : Option Occurrence}
    (hmoves : s.Moves occurrence s') :
    s.monitor.trackers.length ≤ s'.monitor.trackers.length := by
  rcases hmoves.trackers_cases with ⟨threshold, hmade⟩ | hsame
  · rw [hmade, List.length_append]
    exact Nat.le_add_right _ _
  · exact Nat.le_of_eq hsame.symm

/-- A tracker that was not there before an effect has no updates. -/
theorem Moves.updates_of_new {s s' : Session} {occurrence : Option Occurrence}
    (hmoves : s.Moves occurrence s') {k : Nat} {t : Tracker}
    (hnew : s.monitor.trackers.length ≤ k) (ht : s'.monitor.trackers[k]? = some t) :
    t.updates = 0 := by
  have hin := (List.getElem?_eq_some_iff.1 ht).1
  rcases hmoves.trackers_cases with ⟨threshold, hmade⟩ | hsame
  · rw [hmade, List.length_append, List.length_singleton] at hin
    have hk : k = s.monitor.trackers.length := by omega
    rw [hmade, hk, List.getElem?_concat_length] at ht
    obtain rfl := Option.some.inj ht
    rfl
  · omega

/-- A tracker that was there before an effect has as many more updates as the
occurrence reaches it. -/
theorem Moves.updates_of_old {s s' : Session} {occurrence : Option Occurrence}
    (hmoves : s.Moves occurrence s') {k : Nat} {t t' : Tracker}
    (ht : s.monitor.trackers[k]? = some t) (ht' : s'.monitor.trackers[k]? = some t') :
    t'.updates.toNat =
      (t.updates.toNat + reach s.monitor.topology k occurrence) % 18446744073709551616 := by
  obtain ⟨fed, hfed, hunread⟩ := hmoves.tracker ht
  obtain rfl := Option.some.inj (ht'.symm.trans hfed)
  have hupdates : t'.updates.toNat = _ :=
    (congrArg (·.updates.toNat) hunread).trans (Tracker.feed_updates _ _)
  rw [List.length_replicate] at hupdates
  exact hupdates

/-- An effect places the probes that are written down, and no others. -/
theorem Moves.probesAt {s s' : Session} {occurrence : Option Occurrence}
    (hmoves : s.Moves occurrence s') (element pad : String) :
    s'.monitor.topology.probesAt element pad = s.monitor.topology.probesAt element pad ++
      (attachments occurrence.toList).filter fun probe => probe.point = ⟨element, pad⟩ := by
  have hnone := (List.append_nil (s.monitor.topology.probesAt element pad)).symm
  cases hmoves with
  | still => exact hnone
  | moved clock => exact hnone
  | extended name pads => exact (Topology.probesAt_addElement ..).trans hnone
  | made threshold => exact hnone
  | @attached probe hstored hpad =>
    refine (Topology.probesAt_place hpad element pad).trans ?_
    by_cases hpoint : probe.point = ⟨element, pad⟩ <;> simp [attachments, hpoint]
  | passed point =>
    have htopology := Monitor.push_topology s.monitor s.now point.element point.pad
    exact (congrArg (·.probesAt element pad) htopology).trans hnone
  | updated hstored => exact hnone
  | looked watched =>
    have htopology := Monitor.recordAll_topology s.monitor s.now watched
    exact (congrArg (·.probesAt element pad) htopology).trans hnone

end Session

/-- The attachments in a history and one more occurrence. -/
theorem attachments_record (history : List Occurrence) (occurrence : Option Occurrence) :
    attachments (record history occurrence) =
      attachments history ++ attachments occurrence.toList := by
  rcases occurrence with _ | ⟨probe⟩ | ⟨point⟩ | ⟨tracker⟩
  · exact (List.append_nil _).symm
  · rfl
  · exact (List.append_nil _).symm
  · exact (List.append_nil _).symm

namespace Session

variable {s s' : Session} {history : List Occurrence} {occurrence : Option Occurrence}

/-- One more occurrence adds as many updates to the history as it reaches a tracker.
The probes on a pad, which data reaches, are those that the history knows of. -/
theorem Accounted.count_record (h : s.Accounted history) (k : Nat)
    (occurrence : Option Occurrence) :
    direct k (record history occurrence) + delivered k (record history occurrence) =
      direct k history + delivered k history + reach s.monitor.topology k occurrence := by
  rcases occurrence with _ | ⟨probe⟩ | ⟨point⟩ | ⟨tracker⟩
  · rfl
  · have hother : direct k (.attached probe :: history) = direct k history := by
      simp [direct]
    exact congrArg (· + delivered k history) hother
  · have hother : direct k (.passed point :: history) = direct k history := by
      simp [direct]
    have hreach : reach s.monitor.topology k (some (.passed point)) =
        (attachments history).countP fun probe => probe.point = point && probe.tracker = k := by
      rw [reach, h.placed, List.countP_filter]
      exact List.countP_congr fun probe _ => by rw [Bool.and_comm]
    rw [hreach]
    show direct k (.passed point :: history) +
      ((attachments history).countP _ + delivered k history) = _
    omega
  · have hcount : direct k (.updated tracker :: history) =
        direct k history + reach s.monitor.topology k (some (.updated tracker)) := by
      simp [direct, reach, List.count_cons]
    show direct k (.updated tracker :: history) + delivered k history = _
    omega

/-- No occurrence reaches a tracker that does not exist. -/
theorem Accounted.reach_eq_zero (h : s.Accounted history) (hmoves : s.Moves occurrence s')
    {k : Nat} (hmissing : s.monitor.trackers.length ≤ k) :
    reach s.monitor.topology k occurrence = 0 := by
  cases hmoves with
  | passed point =>
    rw [reach, h.placed, List.countP_eq_zero]
    intro probe hprobe hsame
    have hstored := h.stored probe (List.mem_filter.1 hprobe).1
    have heq := of_decide_eq_true hsame
    omega
  | updated hstored =>
    rw [reach, if_neg (by omega)]
  | _ => rfl

/-- The counters after an effect count one more occurrence. Nothing was written down
of a new tracker, and the effect that makes it adds nothing. -/
theorem Accounted.counted_moves (h : s.Accounted history) (hmoves : s.Moves occurrence s')
    {k : Nat} {t' : Tracker} (ht' : s'.monitor.trackers[k]? = some t') :
    t'.updates.toNat = (direct k (record history occurrence) +
      delivered k (record history occurrence)) % 18446744073709551616 := by
  rw [h.count_record]
  by_cases hold : k < s.monitor.trackers.length
  · have ht := List.getElem?_eq_getElem hold
    rw [hmoves.updates_of_old ht ht', h.counted k _ ht, Nat.mod_add_mod]
  · have hnew : s.monitor.trackers.length ≤ k := Nat.not_lt.1 hold
    rw [h.unborn k hnew, h.reach_eq_zero hmoves hnew, hmoves.updates_of_new hnew ht']
    rfl

/-- Every effect keeps the agreement with the history. -/
theorem Accounted.moves (h : s.Accounted history) (hmoves : s.Moves occurrence s') :
    s'.Accounted (record history occurrence) := by
  constructor
  · intro element pad
    rw [hmoves.probesAt, h.placed, attachments_record, List.filter_append]
  · rw [attachments_record, List.forall_mem_append]
    refine ⟨fun probe hprobe => Nat.lt_of_lt_of_le (h.stored probe hprobe) hmoves.length_le, ?_⟩
    cases hmoves with
    | attached hstored hpad => exact List.forall_mem_singleton.2 hstored
    | _ => simp [attachments]
  · exact fun k t' ht' => h.counted_moves hmoves ht'
  · intro k hmissing
    have hbefore := Nat.le_trans hmoves.length_le hmissing
    rw [h.count_record, h.unborn k hbefore, h.reach_eq_zero hmoves hbefore]

/-- Every run keeps the agreement with the history. -/
theorem Accounted.run (h : s.Accounted history) (operations : List Operation) :
    (s.run operations).1.Accounted (s.historyAfter history operations) := by
  induction operations generalizing s history with
  | nil => exact h
  | cons operation rest ih => exact ih (h.moves (s.step_moves operation))

/-- A push feeds no tracker of which no probe was attached at its point. -/
theorem Accounted.push_untouched (h : s.Accounted history) {element pad : String} {k : Nat}
    (hnone : ∀ probe ∈ attachments history, probe.point = ⟨element, pad⟩ → probe.tracker ≠ k) :
    (s.monitor.push s.now element pad).monitor.trackers[k]? = s.monitor.trackers[k]? := by
  have hcount : (s.monitor.topology.probesAt element pad).countP (·.tracker = k) = 0 := by
    rw [h.placed, List.countP_eq_zero]
    intro probe hprobe hsame
    obtain ⟨hin, hpoint⟩ := List.mem_filter.1 hprobe
    exact hnone probe hin (of_decide_eq_true hpoint) (of_decide_eq_true hsame)
  rw [Monitor.push_getElem?, hcount]
  exact Option.map_id_apply

/-- After every run, in which elements, pads and probes may repeat and probes may
be attached at any time, the counter of every tracker is the number of its direct
updates and of the probes that carried data to it, counted push by push over the
probes that were attached at the point before; it comes back to zero after every
2^64 updates, and below that many it is the exact number. A push leaves every
tracker as it was that has no probe at its point, and a push that is answered with
no leaves everything as it was. -/
theorem updates_accounted (operations : List Operation) :
    let s := (empty.run operations).1
    let history := empty.historyAfter [] operations
    (∀ (k : Nat) (t : Tracker), s.monitor.trackers[k]? = some t →
        t.updates.toNat = (direct k history + delivered k history) % 18446744073709551616 ∧
          (direct k history + delivered k history < 18446744073709551616 →
            t.updates.toNat = direct k history + delivered k history)) ∧
      (∀ (element pad : String) (k : Nat),
        (∀ probe ∈ attachments history, probe.point = ⟨element, pad⟩ → probe.tracker ≠ k) →
          (s.step (.push element pad)).session.monitor.trackers[k]? = s.monitor.trackers[k]?) ∧
      ∀ element pad : String, (s.step (.push element pad)).answer = .truth false →
        (s.step (.push element pad)).session = s ∧ (s.step (.push element pad)).events = [] := by
  intro s history
  have h : s.Accounted history := accounted_empty.run operations
  refine ⟨fun k t ht => ?_, fun element pad k hnone => h.push_untouched hnone,
    fun element pad hanswer => ?_⟩
  · have hcounted := h.counted k t ht
    exact ⟨hcounted, fun hfew => hcounted.trans (Nat.mod_eq_of_lt hfew)⟩
  · have hfound : (s.monitor.push s.now element pad).found = false := Answer.truth.inj hanswer
    have hsame := Monitor.push_of_not_found hfound
    show s.withMonitor (s.monitor.push s.now element pad).monitor = s ∧
      (s.monitor.push s.now element pad).events = []
    rw [hsame]
    exact ⟨rfl, rfl⟩

/-- Names that occur twice, two probes of one tracker and one of another on one
pad, attached between pushes, and a direct update. -/
def repeatedNames : List Operation :=
  [.addElement "mux" ["src", "src"], .addElement "mux" ["src"], .addTracker Duration.zero,
    .addTracker Duration.zero, .push "mux" "src", .attach ⟨"mux", "src"⟩ 0, .push "mux" "src",
    .attach ⟨"mux", "src"⟩ 0, .register "mux:src" 1, .register "mux" 1, .push "mux" "src",
    .update 1, .push "mux" "sink"]

/-- The first tracker gets one update and then two; the missing pad changes
nothing. -/
theorem three_updates_counted :
    (∃ t, (empty.run repeatedNames).1.monitor.trackers[0]? = some t ∧ t.updates.toNat = 3) ∧
      ((empty.run repeatedNames).1.step (.push "src" "mux")).session.monitor.trackers[1]? =
        (empty.run repeatedNames).1.monitor.trackers[1]? ∧
      ((empty.run repeatedNames).1.step (.push "mux" "sink")).session =
        (empty.run repeatedNames).1 := by
  obtain ⟨hcounts, huntouched, hmissing⟩ := updates_accounted repeatedNames
  obtain ⟨t, ht⟩ : ∃ t, (empty.run repeatedNames).1.monitor.trackers[0]? = some t :=
    Option.isSome_iff_exists.1 (by decide +kernel)
  have hthree : direct 0 (empty.historyAfter [] repeatedNames) +
      delivered 0 (empty.historyAfter [] repeatedNames) = 3 := by decide +kernel
  have hexact := (hcounts 0 t ht).2 (by rw [hthree]; decide)
  exact ⟨⟨t, ht, hexact.trans hthree⟩, huntouched "src" "mux" 1 (by decide +kernel),
    (hmissing "mux" "sink" (by decide +kernel)).1⟩

end Session

end FlowWatch.Monitor
