import FlowWatch.Proofs.Time.LostCarry

/-!
# Sums on the way to a length

The reader of durations adds exactly or refuses, so what it has added up never
shrinks. Behind any part of a text that is read it therefore has a sum, and this sum is at
most the length that is read in the end.
-/

namespace FlowWatch.DurationText

open FlowWatch.Text

/-! ### Exact sums -/

/-- A number that fits is the number itself. -/
theorem eq_of_fit {n m : Nat} (h : fit n = .ok m) : m = n := by
  rw [fit] at h
  split at h
  · exact (Except.ok.inj h).symm
  · cases h

/-- A length of some seconds and nanoseconds has just these. -/
theorem nanos_of_lengthOf {seconds nanos : Nat} {sum : Duration}
    (h : lengthOf seconds nanos = .ok sum) :
    sum.nanos = seconds * Nanos.perSecond + nanos := by
  obtain ⟨fitted, hfit, hsum⟩ := bind_eq_ok_iff.1 h
  rw [← eq_of_fit hfit]
  split at hsum
  · next found hfound =>
    obtain rfl := Except.ok.inj hsum
    exact Duration.ofNanos?_eq_some_iff.1 hfound
  · cases hsum

/-- What is added to a length is exactly the amount, with its seconds in nanoseconds.
A carry moves whole seconds from the nanoseconds to the seconds. -/
theorem nanos_of_addAmount {total sum : Duration} {amount : Amount}
    (h : addAmount total amount = .ok sum) :
    sum.nanos = total.nanos + (amount.seconds * Nanos.perSecond + amount.nanos) := by
  have hparts := total.nanos_eq
  rw [addAmount_eq_bind] at h
  obtain ⟨nanos, hnanos, h⟩ := bind_eq_ok_iff.1 h
  obtain rfl := eq_of_fit hnanos
  unfold Nanos.perSecond at *
  split at h
  · obtain ⟨carried, hcarried, h⟩ := bind_eq_ok_iff.1 h
    obtain rfl := eq_of_fit hcarried
    have hsum := nanos_of_lengthOf h
    unfold Nanos.perSecond at hsum
    omega
  · have hsum := nanos_of_lengthOf h
    unfold Nanos.perSecond at hsum
    omega

/-- Adding an amount makes no length shorter. -/
theorem le_addAmount (total : Duration) (amount : Amount) :
    Ensures (total ≤ ·) (addAmount total amount) := by
  intro sum hsum
  show total.nanos ≤ sum.nanos
  rw [nanos_of_addAmount hsum]
  exact Nat.le_add_right _ _

/-- Adding a term makes no length shorter. -/
theorem le_addTerm (total : Duration) (term : Term) :
    Ensures (total ≤ ·) (addTerm total term) := by
  unfold addTerm
  dsimp only
  split
  · exact Ensures.error _
  · refine Ensures.after fun amount => (le_addAmount total amount).bind fun sum hsum => ?_
    split
    · exact Ensures.ok hsum
    · refine Ensures.after fun share other hother => ?_
      exact Nat.le_trans hsum (le_addAmount sum share other hother)

/-! ### Sums of a reader -/

/-- A character leaves the sum of a reader alone, or it ends a term, which is added. -/
theorem Reader.sum_next (r : Reader) (c : Char) :
    Ensures (fun found => found.1 = r.total ∨
      ∃ term, r.phase = .unit term ∧ addTerm r.total term = .ok found.1) (r.next c) := by
  unfold Reader.next
  dsimp only
  split
  · split
    · exact Ensures.ok (.inl rfl)
    · split
      · exact Ensures.ok (.inl rfl)
      · exact Ensures.error _
  · split
    · exact Ensures.after fun _ => Ensures.ok (.inl rfl)
    · split
      · exact Ensures.ok (.inl rfl)
      · split
        · exact Ensures.ok (.inl rfl)
        · split
          · exact Ensures.ok (.inl rfl)
          · exact Ensures.error _
  · split
    · exact Ensures.after fun _ => Ensures.ok (.inl rfl)
    · split
      · exact Ensures.ok (.inl rfl)
      · split
        · split
          · exact Ensures.ok (.inl rfl)
          · exact Ensures.error _
        · exact Ensures.error _
  · next term hphase =>
    have hadded : Ensures (fun sum => addTerm r.total term = .ok sum) (addTerm r.total term) :=
      fun _ hsum => hsum
    split
    · exact hadded.bind fun _ hsum => Ensures.ok (.inr ⟨term, hphase, hsum⟩)
    · split
      · exact hadded.bind fun _ hsum => Ensures.ok (.inr ⟨term, hphase, hsum⟩)
      · split
        · exact Ensures.ok (.inl rfl)
        · exact Ensures.error _

/-- What a reader has added up does not shrink with a character. -/
theorem Reader.le_push (r : Reader) (c : Char) :
    Ensures (fun after => r.total ≤ after.total) (r.push c) := by
  refine (r.sum_next c).bind fun found hfound => Ensures.ok ?_
  show r.total ≤ found.1
  rcases hfound with hsame | ⟨term, -, hsum⟩
  · rw [hsame]
    exact Nat.le_refl r.total.nanos
  · exact le_addTerm r.total term found.1 hsum

/-- Nor does it with several characters. -/
theorem Reader.le_foldlM_push (r : Reader) (cs : List Char) :
    Ensures (fun after => r.total ≤ after.total) (cs.foldlM Reader.push r) := by
  refine Ensures.foldlM (fun mid hmid c _ after hafter => ?_) (Nat.le_refl r.total.nanos)
  exact Nat.le_trans hmid (mid.le_push c after hafter)

/-- The length in the end is at least what was added up before. -/
theorem Reader.le_finish (r : Reader) : Ensures (r.total ≤ ·) r.finish := by
  unfold Reader.finish
  split
  · exact Ensures.ok (Nat.le_refl r.total.nanos)
  · exact le_addTerm _ _
  · split
    · exact le_addTerm _ _
    · exact Ensures.error _
  · exact le_addTerm _ _

/-- A text that is read takes the reader to its end, where no more than the length is
added up. -/
theorem exists_reader_of_read {text : String} {d : Duration} (h : read text = .ok d) :
    ∃ r, text.toList.foldlM Reader.push Reader.start = .ok r ∧ r.total ≤ d := by
  unfold read at h
  split at h
  · next hzero =>
    subst hzero
    exact ⟨⟨1, Duration.zero, .whole 0⟩, rfl, Nat.zero_le _⟩
  · split at h
    · cases h
    · obtain ⟨r, hr, hfinish⟩ := bind_eq_ok_iff.1 h
      exact ⟨r, hr, r.le_finish d hfinish⟩

/-- Behind any number of characters of a text that is read there is a sum, which is at
most the length. -/
theorem exists_sum_of_read {text : String} {d : Duration} (h : read text = .ok d)
    (count : Nat) :
    ∃ r, (text.toList.take count).foldlM Reader.push Reader.start = .ok r ∧ r.total ≤ d := by
  obtain ⟨last, hlast, hle⟩ := exists_reader_of_read h
  rw [← List.take_append_drop count text.toList, List.foldlM_append] at hlast
  obtain ⟨r, hr, hrest⟩ := bind_eq_ok_iff.1 hlast
  exact ⟨r, hr, Nat.le_trans (r.le_foldlM_push _ last hrest) hle⟩

end FlowWatch.DurationText
