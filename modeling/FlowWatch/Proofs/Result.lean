/-!
# Results

A result is a value or an error. What steps in a row come to is told from the single steps:
they have a value if each of them has one, and an error if one of them has it after others
that have values. A property that every step ensures is ensured by all of them.
-/

namespace FlowWatch

variable {ε δ α β : Type}

/-- A result that has a value is that value. -/
theorem eq_ok_of_toOption {result : Except ε α} {a : α} (h : result.toOption = some a) :
    result = .ok a := by
  cases result with
  | ok value => exact congrArg _ (Option.some.inj h)
  | error e => cases h

/-! ### Values -/

/-- Two steps have a value if the first one has one from which the second one gets it. -/
theorem bind_eq_ok_iff {x : Except ε α} {f : α → Except ε β} {b : β} :
    x >>= f = .ok b ↔ ∃ a, x = .ok a ∧ f a = .ok b := by
  cases x <;> simp [bind, Except.bind]

/-- Where there is no error, none is changed. -/
theorem mapError_ok (f : ε → δ) (a : α) : (Except.ok a).mapError f = .ok a := rfl

/-- An error is changed to another one. -/
theorem mapError_error (f : ε → δ) (e : ε) :
    (Except.error e : Except ε α).mapError f = .error (f e) := rfl

/-- A value and an error are changed in either order. -/
theorem map_mapError (x : Except ε α) (f : α → β) (g : ε → δ) :
    (x.mapError g).map f = (x.map f).mapError g := by
  cases x <;> rfl

/-- Another error does not change the value. -/
theorem mapError_eq_ok_iff {x : Except ε α} {f : ε → δ} {a : α} :
    x.mapError f = .ok a ↔ x = .ok a := by
  cases x <;> simp [mapError_ok, mapError_error]

/-- A changed value comes from the value before. -/
theorem map_eq_ok_iff {x : Except ε α} {f : α → β} {b : β} :
    x.map f = .ok b ↔ ∃ a, x = .ok a ∧ f a = b := by
  cases x <;> simp [Except.map]

/-! ### Errors -/

/-- Two steps have an error if the first one has it, or has a value with which the second
one has it. -/
theorem bind_eq_error_iff {x : Except ε α} {f : α → Except ε β} {e : ε} :
    x >>= f = .error e ↔ x = .error e ∨ ∃ a, x = .ok a ∧ f a = .error e := by
  cases x <;> simp [bind, Except.bind]

/-- A changed value leaves the error as it is. -/
theorem fmap_eq_error_iff {x : Except ε α} {f : α → β} {e : ε} :
    f <$> x = .error e ↔ x = .error e := by
  cases x <;> simp [Functor.map, Except.map]

/-- Steps in a row have an error if one of them has it with what the steps before it come
to. The steps behind it are not taken. -/
theorem foldlM_eq_error_iff {f : α → β → Except ε α} {steps : List β} {a : α} {e : ε} :
    steps.foldlM f a = .error e ↔
      ∃ front b back mid,
        steps = front ++ b :: back ∧ front.foldlM f a = .ok mid ∧ f mid b = .error e := by
  induction steps generalizing a with
  | nil =>
    refine iff_of_false (fun h => nomatch h) ?_
    rintro ⟨front, b, back, mid, h, -⟩
    cases front <;> cases h
  | cons c steps ih =>
    rw [List.foldlM_cons, bind_eq_error_iff]
    constructor
    · rintro (h | ⟨next, hnext, h⟩)
      · exact ⟨[], c, steps, a, rfl, rfl, h⟩
      · obtain ⟨front, b, back, mid, rfl, hfront, hb⟩ := ih.1 h
        refine ⟨c :: front, b, back, mid, rfl, ?_, hb⟩
        rw [List.foldlM_cons, hnext]
        exact hfront
    · rintro ⟨front, b, back, mid, heq, hfront, hb⟩
      cases front with
      | nil =>
        cases heq
        cases hfront
        exact .inl hb
      | cons d front =>
        cases heq
        rw [List.foldlM_cons, bind_eq_ok_iff] at hfront
        obtain ⟨next, hnext, hfront⟩ := hfront
        exact .inr ⟨next, hnext, ih.2 ⟨front, b, back, mid, rfl, hfront, hb⟩⟩

/-! ### What a result ensures -/

section Ensures

variable {P : α → Prop} {Q : β → Prop}

/-- If there is a value at all, it has a property. -/
def Ensures (P : α → Prop) (result : Except ε α) : Prop := ∀ a, result = .ok a → P a

/-- A value ensures what it has. -/
theorem Ensures.ok {a : α} (h : P a) : Ensures P (.ok a : Except ε α) := by
  rintro b hb
  cases hb
  exact h

/-- An error ensures everything. -/
theorem Ensures.error (e : ε) : Ensures P (.error e) := by
  rintro a ha
  cases ha

/-- What the first of two steps ensures is known in the second one. -/
theorem Ensures.bind {x : Except ε α} {f : α → Except ε β} (hx : Ensures P x)
    (hf : ∀ a, P a → Ensures Q (f a)) : Ensures Q (x >>= f) := by
  rintro b hb
  obtain ⟨a, ha, hb⟩ := bind_eq_ok_iff.1 hb
  exact hf a (hx a ha) b hb

/-- Of some steps nothing needs to be known. -/
theorem Ensures.after {x : Except ε α} {f : α → Except ε β} (hf : ∀ a, Ensures Q (f a)) :
    Ensures Q (x >>= f) :=
  Ensures.bind (P := fun _ => True) (fun _ _ => trivial) fun a _ => hf a

/-- A value is changed to one that has a property. -/
theorem Ensures.map {x : Except ε α} {f : α → β} (hx : Ensures P x) (hf : ∀ a, P a → Q (f a)) :
    Ensures Q (x.map f) := by
  rintro b hb
  obtain ⟨a, ha, rfl⟩ := map_eq_ok_iff.1 hb
  exact hf a (hx a ha)

/-- Another error ensures as much. -/
theorem Ensures.mapError {x : Except ε α} (hx : Ensures P x) (f : ε → δ) :
    Ensures P (x.mapError f) :=
  fun a ha => hx a (mapError_eq_ok_iff.1 ha)

/-- What every step keeps is kept by all of them. -/
theorem Ensures.foldlM {f : α → β → Except ε α} {steps : List β}
    (hf : ∀ a, P a → ∀ b ∈ steps, Ensures P (f a b)) {a : α} (ha : P a) :
    Ensures P (steps.foldlM f a) := by
  induction steps generalizing a with
  | nil => exact Ensures.ok ha
  | cons b steps ih =>
    rw [List.foldlM_cons]
    refine Ensures.bind (hf a ha b List.mem_cons_self) fun next hnext => ?_
    exact ih (fun c hc d hd => hf c hc d (List.mem_cons_of_mem b hd)) hnext

end Ensures

end FlowWatch
