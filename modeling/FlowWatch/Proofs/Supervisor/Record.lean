import FlowWatch.Proofs.Monitor.Memory
import FlowWatch.Proofs.Supervisor.Binding

/-!
# The probes in a history

A history gives for every probe that was added its point, the reading at which it
was added, and the readings at which data passed its point afterwards. What was
added later sees nothing of what passed before. The accounts of the trackers are
read off these records: with shared binding there is one, of all that any probe
saw, and otherwise one for every probe.
-/

namespace FlowWatch.Supervisor

/-- A probe as an observer of the pipeline sees it. -/
structure Watch where
  /-- The point of the probe. -/
  point : Point
  /-- When the probe was added, and the readings at which data passed its point
  afterwards. -/
  account : Account
  deriving DecidableEq

/-- The readings at which data passed a point. -/
def passes (point : Point) : List Occurrence → List Duration
  | [] => []
  | .passed other reading :: rest =>
    if other = point then reading :: passes point rest else passes point rest
  | .probed _ _ :: rest => passes point rest

/-- The probes that were added, in order, each with what passed its point after
that. -/
def watches : List Occurrence → List Watch
  | [] => []
  | .probed point reading :: rest => ⟨point, ⟨reading, passes point rest⟩⟩ :: watches rest
  | .passed _ _ :: rest => watches rest

/-- The record of a probe after data passed a point. -/
def Watch.after (w : Watch) (point : Point) (now : Duration) : Watch :=
  ⟨w.point, ⟨w.account.made, w.account.feeds ++ if w.point = point then [now] else []⟩⟩

/-- What passed a point in two parts of a history. -/
theorem passes_append (point : Point) (xs ys : List Occurrence) :
    passes point (xs ++ ys) = passes point xs ++ passes point ys := by
  induction xs with
  | nil => rfl
  | cons occurrence rest ih =>
    cases occurrence with
    | probed other reading => exact ih
    | passed other reading =>
      simp only [List.cons_append, passes]
      split
      · rw [ih, List.cons_append]
      · exact ih

/-- A probe that is added has seen nothing, and no other probe sees it. -/
theorem watches_append_probed (history : List Occurrence) (point : Point) (now : Duration) :
    watches (history ++ [.probed point now]) = watches history ++ [⟨point, ⟨now, []⟩⟩] := by
  induction history with
  | nil => rfl
  | cons occurrence rest ih =>
    cases occurrence with
    | passed other reading => exact ih
    | probed other reading =>
      simp only [List.cons_append, watches]
      rw [ih, passes_append]
      simp only [passes, List.append_nil]

/-- Data that passes a point is seen by the probes that are there. -/
theorem watches_append_passed (history : List Occurrence) (point : Point) (now : Duration) :
    watches (history ++ [.passed point now]) = (watches history).map (·.after point now) := by
  induction history with
  | nil => rfl
  | cons occurrence rest ih =>
    cases occurrence with
    | passed other reading => exact ih
    | probed other reading =>
      simp only [List.cons_append, watches, List.map_cons]
      rw [ih, passes_append]
      simp only [passes, Watch.after, eq_comm (a := point)]

/-- The accounts of the trackers: of one that was made at a reading and is fed by
every probe, or of one for every probe. -/
def accounts (binding : Binding) (made : Duration) (ws : List Watch) : List Account :=
  match binding with
  | .shared => [⟨made, ws.flatMap (·.account.feeds)⟩]
  | .perProbe => ws.map (·.account)

/-- Data passed the point of a probe, after it was added, less than a threshold
ago. -/
def Watch.Recent (w : Watch) (threshold now : Duration) : Prop :=
  ∃ r ∈ w.account.feeds, now.nanos - r.nanos < threshold.nanos

/-- Whether data passed recently is decided on the feeds. -/
instance (w : Watch) (threshold now : Duration) : Decidable (w.Recent threshold now) :=
  inferInstanceAs (Decidable (∃ r ∈ w.account.feeds, _))

/-- The pipeline is alive: with shared binding some probe saw data recently, and
otherwise every probe did. -/
def Alive (binding : Binding) (threshold now : Duration) (ws : List Watch) : Prop :=
  match binding with
  | .shared => ∃ w ∈ ws, w.Recent threshold now
  | .perProbe => ∀ w ∈ ws, w.Recent threshold now

/-- Whether the pipeline is alive is decided on the probes. -/
instance (binding : Binding) (threshold now : Duration) (ws : List Watch) :
    Decidable (Alive binding threshold now ws) :=
  match binding with
  | .shared => inferInstanceAs (Decidable (∃ w ∈ ws, w.Recent threshold now))
  | .perProbe => inferInstanceAs (Decidable (∀ w ∈ ws, w.Recent threshold now))

/-- The pipeline is alive exactly if every account has a recent feed. -/
theorem alive_iff (binding : Binding) (made threshold now : Duration) (ws : List Watch) :
    Alive binding threshold now ws ↔
      ∀ a ∈ accounts binding made ws, ∃ r ∈ a.feeds, now.nanos - r.nanos < threshold.nanos := by
  cases binding with
  | shared =>
    simp only [Alive, accounts, Watch.Recent, List.mem_singleton, forall_eq, List.mem_flatMap]
    constructor
    · rintro ⟨w, hw, r, hr, hrecent⟩
      exact ⟨r, ⟨w, hw, hr⟩, hrecent⟩
    · rintro ⟨r, ⟨w, hw, hr⟩, hrecent⟩
      exact ⟨w, hw, r, hr, hrecent⟩
  | perProbe =>
    simp only [Alive, accounts, List.forall_mem_map]
    exact Iff.rfl

/-- All idle times are below the threshold exactly if the pipeline is alive and no
counter stands at zero. -/
theorem idle_lt_iff_alive (binding : Binding) (made threshold now : Duration) (ws : List Watch) :
    (∀ a ∈ accounts binding made ws, a.idle threshold now < threshold.nanos) ↔
      Alive binding threshold now ws ∧ ∀ a ∈ accounts binding made ws, a.counted ≠ 0 := by
  rw [alive_iff binding made]
  simp only [Account.idle_lt_iff]
  constructor
  · intro hall
    exact ⟨fun a ha => (hall a ha).2, fun a ha => (hall a ha).1⟩
  · rintro ⟨hrecent, hcounted⟩ a ha
    exact ⟨hcounted a ha, hrecent a ha⟩

/-- While the pipeline is alive no counter stands at zero, unless one has come back
to it. -/
theorem Alive.counted_ne_zero {binding : Binding} {made threshold now : Duration} {ws : List Watch}
    (h : Alive binding threshold now ws)
    (hfew : ∀ a ∈ accounts binding made ws, a.feeds.length < 18446744073709551616) :
    ∀ a ∈ accounts binding made ws, a.counted ≠ 0 := by
  intro a ha
  obtain ⟨r, hr, -⟩ := (alive_iff binding made threshold now ws).1 h a ha
  have hpositive := List.length_pos_of_mem hr
  rw [Account.counted, Nat.mod_eq_of_lt (hfew a ha)]
  omega

/-- After data passed a point, the shared account has one more feed for each
probe there. -/
theorem flatMap_after_perm (ws : List Watch) (point : Point) (now : Duration) :
    (List.replicate (ws.countP (·.point = point)) now ++ ws.flatMap (·.account.feeds)).Perm
      ((ws.map (·.after point now)).flatMap (·.account.feeds)) := by
  rw [List.perm_iff_count]
  intro reading
  induction ws with
  | nil => rfl
  | cons w rest ih =>
    rw [List.count_append, List.count_replicate] at ih
    rw [List.map_cons, List.flatMap_cons, List.flatMap_cons, List.countP_cons, List.count_append,
      List.count_append, List.count_append, List.count_replicate, ← ih, Watch.after,
      List.count_append]
    by_cases hpoint : w.point = point
    · by_cases hreading : now = reading
      · simp [hpoint, hreading]
        omega
      · simp [hpoint, hreading]
    · simp [hpoint]
      omega

end FlowWatch.Supervisor
