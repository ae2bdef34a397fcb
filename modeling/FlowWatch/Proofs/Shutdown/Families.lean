import FlowWatch.Shutdown
import Mathlib.Logic.Relation

/-!
# Families of handles

What a handle reports is told from the history of operations alone. A clone joins two
handles, and a family is what clones join, however often and in whatever direction. The
registry gives the handles of a family one number, and the state of that number is
requested just when shutdown was requested through one of them. Each operation keeps the
registry in step with its history.
-/

namespace FlowWatch.Shutdown

/-! ### Histories -/

/-- How many handles there are after an operation. Only handles that exist are cloned. -/
def Operation.made (count : Nat) : Operation → Nat
  | .detach => count + 1
  | .clone handle => if handle < count then count + 1 else count
  | .request _ | .requestState _ => count

/-- How many handles a history makes. -/
def made (history : List Operation) : Nat := history.foldl Operation.made 0

/-- An operation of a history is such, given what came before it. -/
def Happens (such : List Operation → Operation → Prop) (history : List Operation) : Prop :=
  ∃ before op after, history = before ++ op :: after ∧ such before op

/-- The operation makes the second handle as a clone of the first one. -/
def Clones (i j : Nat) (before : List Operation) (op : Operation) : Prop :=
  op = .clone i ∧ i < made before ∧ j = made before

/-- The operation requests shutdown through a handle, or through its state. -/
def Asks (handle : Nat) (before : List Operation) (op : Operation) : Prop :=
  (op = .request handle ∨ op = .requestState handle) ∧ handle < made before

/-- Clones lead from one handle to the other, each in either direction. -/
def Related (history : List Operation) : Nat → Nat → Prop :=
  Relation.EqvGen fun i j => Happens (Clones i j) history

/-- An operation at the end makes its handles behind those that were made before. -/
@[simp]
theorem made_concat (history : List Operation) (op : Operation) :
    made (history ++ [op]) = op.made (made history) := by
  simp [made]

/-- Something happens in a longer history if it did so before, or happens last. -/
theorem happens_concat {such : List Operation → Operation → Prop} {history : List Operation}
    {op : Operation} :
    Happens such (history ++ [op]) ↔ Happens such history ∨ such history op := by
  constructor
  · rintro ⟨before, other, after, hsplit, hsuch⟩
    rcases List.eq_nil_or_concat after with rfl | ⟨after, last, rfl⟩
    · obtain ⟨rfl, hlast⟩ := List.append_inj' hsplit rfl
      obtain rfl := List.singleton_inj.1 hlast
      exact .inr hsuch
    · rw [List.concat_eq_append, ← List.cons_append, ← List.append_assoc] at hsplit
      exact .inl ⟨before, other, after, (List.append_inj' hsplit rfl).1, hsuch⟩
  · rintro (⟨before, other, after, rfl, hsuch⟩ | hsuch)
    · exact ⟨before, other, after ++ [op], by simp, hsuch⟩
    · exact ⟨history, op, [], rfl, hsuch⟩

/-- What has happened is not undone. -/
theorem Happens.append {such : List Operation → Operation → Prop} {history : List Operation}
    (h : Happens such history) (later : List Operation) : Happens such (history ++ later) := by
  obtain ⟨before, op, after, rfl, hsuch⟩ := h
  exact ⟨before, op, after ++ later, by simp, hsuch⟩

/-- Handles that are related stay so. -/
theorem Related.append {history : List Operation} {i j : Nat} (h : Related history i j)
    (later : List Operation) : Related (history ++ later) i j :=
  h.mono fun _ _ hclones => hclones.append later

/-- An operation never takes a handle away. -/
theorem Operation.le_made (count : Nat) (op : Operation) : count ≤ op.made count := by
  cases op with
  | clone => simp only [made]; split <;> omega
  | _ => simp [made]

/-- A longer history makes as many handles at least. -/
theorem made_le_made_append (history later : List Operation) :
    made history ≤ made (history ++ later) := by
  induction later generalizing history with
  | nil => simp
  | cons op later ih =>
    have hlater := ih (history ++ [op])
    rw [made_concat, List.append_assoc, List.singleton_append] at hlater
    exact Nat.le_trans (op.le_made _) hlater

/-- Shutdown is requested only through handles that were made. -/
theorem lt_made_of_asks {history : List Operation} {i : Nat} (h : Happens (Asks i) history) :
    i < made history := by
  obtain ⟨before, op, after, rfl, -, hmade⟩ := h
  exact Nat.lt_of_lt_of_le hmade (made_le_made_append before (op :: after))

namespace Registry

/-! ### One operation -/

/-- A row with one more entry has its entries, and that one at the end. -/
theorem getElem?_concat_eq_some {handles : List Nat} {family i other : Nat} :
    (handles ++ [family])[i]? = some other ↔
      handles[i]? = some other ∨ i = handles.length ∧ family = other := by
  by_cases hless : i < handles.length
  · rw [List.getElem?_append_left hless]
    simp [Nat.ne_of_lt hless]
  · rw [List.getElem?_append_right (Nat.not_lt.1 hless),
      List.getElem?_eq_none (Nat.not_lt.1 hless), List.getElem?_singleton]
    grind

/-- The registry is what its history has made of it. -/
structure Follows (r : Registry) (history : List Operation) : Prop where
  /-- The handles are those that were made. -/
  length : r.handles.length = made history
  /-- Every family has a state. -/
  family_lt : ∀ {i family : Nat}, r.handles[i]? = some family → family < r.states.length
  /-- A clone is of the family of its origin. -/
  cloned : ∀ {i j : Nat}, Happens (Clones i j) history →
    ∃ family, r.handles[i]? = some family ∧ r.handles[j]? = some family
  /-- Handles of one family are related by clones. -/
  joined : ∀ {i j family : Nat}, r.handles[i]? = some family → r.handles[j]? = some family →
    Related history i j
  /-- The state of a family is requested just when it was through one of its handles, and
  counts no signal. -/
  state : ∀ {family : Nat} {s : State}, r.states[family]? = some s → s.signals = 0 ∧
    (s.requested = true ↔ ∃ j, r.handles[j]? = some family ∧ Happens (Asks j) history)

/-- The empty registry follows the empty history. -/
theorem follows_empty : Follows empty [] where
  length := rfl
  family_lt := by simp [empty]
  cloned := by
    rintro i j ⟨before, op, after, hsplit, -⟩
    simp at hsplit
  joined := by simp [empty]
  state := by simp [empty]

variable {r : Registry} {history : List Operation}

/-- A handle that is made by an operation has not been asked for anything. -/
theorem Follows.asked_concat (h : Follows r history) {op : Operation} {family other : Nat}
    (hop : ∀ j, op ≠ .request j ∧ op ≠ .requestState j) :
    (∃ j, (r.handles ++ [other])[j]? = some family ∧ Happens (Asks j) (history ++ [op])) ↔
      ∃ j, r.handles[j]? = some family ∧ Happens (Asks j) history := by
  have hsame (j : Nat) : Happens (Asks j) (history ++ [op]) ↔ Happens (Asks j) history := by
    rw [happens_concat, or_iff_left]
    exact fun hasks => hasks.1.elim (hop j).1 (hop j).2
  constructor
  · rintro ⟨j, hj, hasked⟩
    rw [hsame] at hasked
    rcases getElem?_concat_eq_some.1 hj with hold | ⟨rfl, -⟩
    · exact ⟨j, hold, hasked⟩
    · exact absurd (lt_made_of_asks hasked) (by simp [h.length])
  · rintro ⟨j, hj, hasked⟩
    exact ⟨j, getElem?_concat_eq_some.2 (.inl hj), (hsame j).2 hasked⟩

/-- The registry follows a new handle with a state of its own. No handle had the new
state before. -/
theorem Follows.detach (h : Follows r history) : Follows r.detach (history ++ [.detach]) where
  length := by simp [Registry.detach, h.length, Operation.made]
  family_lt := by
    intro i family hfamily
    rw [Registry.detach, List.length_append, List.length_singleton]
    rcases getElem?_concat_eq_some.1 hfamily with hold | ⟨-, rfl⟩
    · exact Nat.lt_succ_of_lt (h.family_lt hold)
    · exact Nat.lt_succ_self _
  cloned := by
    intro i j hclones
    rcases happens_concat.1 hclones with hold | ⟨hop, -⟩
    · obtain ⟨family, hi, hj⟩ := h.cloned hold
      exact ⟨family, getElem?_concat_eq_some.2 (.inl hi), getElem?_concat_eq_some.2 (.inl hj)⟩
    · cases hop
  joined := by
    intro i j family hi hj
    rcases getElem?_concat_eq_some.1 hi with hi | ⟨rfl, rfl⟩ <;>
      rcases getElem?_concat_eq_some.1 hj with hj | ⟨rfl, hnew⟩
    · exact (h.joined hi hj).append _
    · exact absurd (h.family_lt hi) (by omega)
    · exact absurd (h.family_lt hj) (Nat.lt_irrefl _)
    · exact .refl _
  state := by
    intro family s hstate
    have hasked : (∃ j, r.detach.handles[j]? = some family ∧
        Happens (Asks j) (history ++ [.detach])) ↔
        ∃ j, r.handles[j]? = some family ∧ Happens (Asks j) history :=
      h.asked_concat (by simp)
    rw [hasked]
    by_cases hless : family < r.states.length
    · rw [Registry.detach, List.getElem?_append_left hless] at hstate
      exact h.state hstate
    · rw [Registry.detach, List.getElem?_append_right (Nat.not_lt.1 hless),
        List.getElem?_singleton] at hstate
      split at hstate
      · cases hstate
        refine ⟨rfl, iff_of_false (by decide) ?_⟩
        rintro ⟨j, hj, -⟩
        exact hless (h.family_lt hj)
      · cases hstate

/-- The registry follows a new handle with the state of another one. A handle that
was there before stands for the new one. -/
theorem Follows.clone (h : Follows r history) {origin family : Nat}
    (horigin : r.handles[origin]? = some family) :
    Follows { r with handles := r.handles ++ [family] } (history ++ [.clone origin]) := by
  obtain ⟨hless, -⟩ := List.getElem?_eq_some_iff.1 horigin
  rw [h.length] at hless
  have hnew : Related (history ++ [.clone origin]) origin r.handles.length :=
    .rel _ _ (happens_concat.2 (.inr ⟨rfl, hless, h.length⟩))
  have hold : ∀ {i other : Nat}, (r.handles ++ [family])[i]? = some other →
      ∃ k, r.handles[k]? = some other ∧ Related (history ++ [.clone origin]) k i := by
    intro i other hi
    rcases getElem?_concat_eq_some.1 hi with hi | ⟨rfl, rfl⟩
    · exact ⟨i, hi, .refl i⟩
    · exact ⟨origin, horigin, hnew⟩
  exact {
    length := by simp [h.length, Operation.made, hless]
    family_lt := by
      intro i other hi
      obtain ⟨k, hk, -⟩ := hold hi
      exact h.family_lt hk
    cloned := by
      intro i j hclones
      rcases happens_concat.1 hclones with hearlier | ⟨hop, -, rfl⟩
      · obtain ⟨other, hi, hj⟩ := h.cloned hearlier
        exact ⟨other, getElem?_concat_eq_some.2 (.inl hi), getElem?_concat_eq_some.2 (.inl hj)⟩
      · cases hop
        exact ⟨family, getElem?_concat_eq_some.2 (.inl horigin),
          getElem?_concat_eq_some.2 (.inr ⟨h.length.symm, rfl⟩)⟩
    joined := by
      intro i j other hi hj
      obtain ⟨k, hk, hki⟩ := hold hi
      obtain ⟨m, hm, hmj⟩ := hold hj
      exact (hki.symm.trans _ _ _ ((h.joined hk hm).append _)).trans _ _ _ hmj
    state := by
      intro other s hstate
      rw [h.asked_concat (by simp)]
      exact h.state hstate }

/-- The registry follows an operation on a handle that does not exist. -/
theorem Follows.idle (h : Follows r history) {op : Operation}
    (hmade : op.made (made history) = made history) (hclones : ∀ i j, ¬Clones i j history op)
    (hasks : ∀ j, ¬Asks j history op) : Follows r (history ++ [op]) where
  length := by rw [made_concat, hmade, h.length]
  family_lt := h.family_lt
  cloned := fun hclone => h.cloned ((happens_concat.1 hclone).resolve_right (hclones _ _))
  joined := fun hi hj => (h.joined hi hj).append _
  state := by
    intro family s hstate
    simp only [happens_concat, hasks, or_false]
    exact h.state hstate

/-- The registry follows a request through a handle or its state. -/
theorem Follows.request (h : Follows r history) {handle family : Nat} {op : Operation}
    (hop : op = .request handle ∨ op = .requestState handle)
    (hhandle : r.handles[handle]? = some family) :
    Follows { r with states := r.states.modify family State.request } (history ++ [op]) where
  length := by rcases hop with rfl | rfl <;> simp [h.length, Operation.made]
  family_lt := fun hi => by simpa using h.family_lt hi
  cloned := by
    intro i j hclones
    refine h.cloned ((happens_concat.1 hclones).resolve_right ?_)
    rcases hop with rfl | rfl <;> simp [Clones]
  joined := fun hi hj => (h.joined hi hj).append _
  state := by
    intro other s hstate
    obtain ⟨hless, -⟩ := List.getElem?_eq_some_iff.1 hhandle
    have hasked (j : Nat) : Happens (Asks j) (history ++ [op]) ↔
        Happens (Asks j) history ∨ j = handle := by
      rw [happens_concat, Asks, ← h.length]
      rcases hop with rfl | rfl <;> grind
    rw [List.getElem?_modify] at hstate
    obtain ⟨before, hbefore, rfl⟩ := Option.map_eq_some_iff.1 hstate
    obtain ⟨hcount, hrequested⟩ := h.state hbefore
    by_cases hsame : family = other
    · subst hsame
      simp only [if_pos]
      exact ⟨hcount, iff_of_true rfl ⟨handle, hhandle, (hasked handle).2 (.inr rfl)⟩⟩
    · simp only [if_neg hsame]
      refine ⟨hcount, hrequested.trans (exists_congr fun j => and_congr_right fun hj => ?_)⟩
      rw [hasked, or_iff_left]
      rintro rfl
      exact hsame (Option.some.inj (hhandle.symm.trans hj))

/-- The registry follows every operation. -/
theorem Follows.step (h : Follows r history) (op : Operation) :
    Follows (r.step op) (history ++ [op]) := by
  have hmissing : ∀ {handle : Nat}, r.handles[handle]? = none → ¬handle < made history :=
    fun hnone => by simpa [h.length] using hnone
  have hrequest : ∀ {handle : Nat}, op = .request handle ∨ op = .requestState handle →
      Follows (r.request handle) (history ++ [op]) := by
    intro handle hop
    unfold Registry.request
    split
    · rename_i family hhandle
      exact h.request hop hhandle
    · rename_i hnone
      rcases hop with rfl | rfl <;>
        exact h.idle rfl (by simp [Clones]) (by have := hmissing hnone; grind [Asks])
  cases op with
  | detach => exact h.detach
  | clone origin =>
    simp only [Registry.step, Registry.clone]
    split
    · rename_i family horigin
      exact h.clone horigin
    · rename_i hnone
      have horigin := hmissing hnone
      exact h.idle (by simp [Operation.made, horigin]) (by grind [Clones]) (by simp [Asks])
  | request handle => exact hrequest (.inl rfl)
  | requestState handle => exact hrequest (.inr rfl)

/-! ### All operations -/

/-- The registry follows every run. -/
theorem Follows.run (h : Follows r history) (later : List Operation) :
    Follows (r.run later) (history ++ later) := by
  induction later generalizing r history with
  | nil => simpa [Registry.run] using h
  | cons op later ih => simpa [Registry.run] using ih (h.step op)

/-- Related handles are of one family. -/
theorem Follows.family_eq (h : Follows r history) {i j : Nat} (hrelated : Related history i j) :
    r.handles[i]? = r.handles[j]? := by
  induction hrelated with
  | rel i j hclones =>
    obtain ⟨family, hi, hj⟩ := h.cloned hclones
    rw [hi, hj]
  | refl i => rfl
  | symm i j _ ih => exact ih.symm
  | trans i j k _ _ hfirst hsecond => exact hfirst.trans hsecond

/-- What a handle reports: whether shutdown was requested in its family, and no signal. -/
theorem Follows.exists_state (h : Follows r history) {i : Nat} (hi : i < made history) :
    ∃ s, r.state? i = some s ∧ s.signals = 0 ∧
      (s.requested = true ↔ ∃ j, Related history i j ∧ Happens (Asks j) history) := by
  rw [← h.length] at hi
  have hfamily : r.handles[i]? = some r.handles[i] := List.getElem?_eq_getElem hi
  have hstate := List.getElem?_eq_getElem (h.family_lt hfamily)
  obtain ⟨hcount, hrequested⟩ := h.state hstate
  refine ⟨_, by simp [Registry.state?, hfamily, hstate], hcount, hrequested.trans ?_⟩
  refine exists_congr fun j => and_congr_left fun _ => ⟨h.joined hfamily, fun hrelated => ?_⟩
  rw [← h.family_eq hrelated, hfamily]

/-- An operation that requests nothing through a family leaves its state as it is. -/
theorem Follows.state?_step (h : Follows r history) {i : Nat} {s : State}
    (hstate : r.state? i = some s) {op : Operation}
    (hquiet : ∀ j, Related history i j → op ≠ .request j ∧ op ≠ .requestState j) :
    (r.step op).state? i = some s := by
  obtain ⟨family, hfamily, hs⟩ := Option.bind_eq_some_iff.1 hstate
  have hrequest : ∀ {handle : Nat}, op = .request handle ∨ op = .requestState handle →
      (r.request handle).state? i = some s := by
    intro handle hop
    unfold Registry.request
    split
    · rename_i other hother
      have hdifferent : other ≠ family := by
        rintro rfl
        have hunasked := hquiet handle (h.joined hfamily hother)
        exact hop.elim hunasked.1 hunasked.2
      simp [Registry.state?, hfamily, List.getElem?_modify, hdifferent, hs]
    · exact hstate
  cases op with
  | detach =>
    have hkept : (r.states ++ [State.quiet])[family]? = some s := by
      rw [List.getElem?_append_left (h.family_lt hfamily), hs]
    exact Option.bind_eq_some_iff.2 ⟨family, getElem?_concat_eq_some.2 (.inl hfamily), hkept⟩
  | clone origin =>
    simp only [Registry.step, Registry.clone]
    split
    · exact Option.bind_eq_some_iff.2 ⟨family, getElem?_concat_eq_some.2 (.inl hfamily), hs⟩
    · exact hstate
  | request handle => exact hrequest (.inl rfl)
  | requestState handle => exact hrequest (.inr rfl)

/-- The families of handles, after any history. Every handle that was made has a state, and
shutdown is requested in it just when it was requested before through a handle that clones
relate to this one, whether the clones were made before the request or after it. No request is
withdrawn later, and none through a handle of another family shows. Signals are not
counted. -/
theorem requested_iff_asked_in_family (history : List Operation) :
    let r := empty.run history
    r.handles.length = made history ∧
      ∀ i < made history, ∃ s, r.state? i = some s ∧ s.signals = 0 ∧
        (s.requested = true ↔ ∃ j, Related history i j ∧ Happens (Asks j) history) ∧
        (s.requested = true →
          ∀ later, ∃ after, (r.run later).state? i = some after ∧ after.requested = true) ∧
        (∀ op, (∀ j, Related history i j → op ≠ .request j ∧ op ≠ .requestState j) →
          (r.step op).state? i = some s) := by
  intro r
  have h : Follows r history := follows_empty.run history
  refine ⟨h.length, fun i hi => ?_⟩
  obtain ⟨s, hstate, hcount, hrequested⟩ := h.exists_state hi
  refine ⟨s, hstate, hcount, hrequested, fun hasked later => ?_, fun op => h.state?_step hstate⟩
  obtain ⟨after, hafter, -, hlater⟩ :=
    (h.run later).exists_state (Nat.lt_of_lt_of_le hi (made_le_made_append history later))
  obtain ⟨j, hrelated, hasks⟩ := hrequested.1 hasked
  exact ⟨after, hafter, hlater.2 ⟨j, hrelated.append later, hasks.append later⟩⟩

end Registry

end FlowWatch.Shutdown
