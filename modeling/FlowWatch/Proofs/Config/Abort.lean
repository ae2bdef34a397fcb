import FlowWatch.Proofs.Config.Overlay

/-!
# Where loading ends the program

There are settings for a text, or an error that can be reported, with one exception. The
exception is a document whose first value of the wrong shape is the text of a duration that
loses its last carry, for one of the three keys that take a duration.
-/

namespace FlowWatch.Config

open FlowWatch.Toml

/-- A text of a duration that loses its last carry does not suit its key. -/
theorem Assignment.LosesCarry.not_suits {a : Assignment} (h : a.LosesCarry) : ¬a.Suits := by
  obtain ⟨k, t, rfl, hk, hlost⟩ := h
  have hread := DurationText.read_eq_lostCarry_iff.2 hlost
  rintro ⟨value, hvalue⟩
  have hok := KnownKey.read_eq_ok_iff.2 hvalue
  obtain ⟨place, herror⟩ := KnownKey.read_lostCarry_iff.2 ⟨hk, t, rfl, hread⟩
  rw [herror] at hok
  cases hok

/-- Loading a text gives settings or an error, exactly if the first value that does not suit
its key, if there is one, does not lose the last carry of a duration. -/
theorem loaded_or_reported_iff (text : String) :
    ((∃ s, ofText text = .ok s) ∨ ∃ e, ofText text = .error (.error e)) ↔
      ¬∃ entries front first back, Toml.read text = .ok entries ∧
        assignments entries = front ++ first :: back ∧ (∀ b ∈ front, b.Suits) ∧
        first.LosesCarry := by
  constructor
  · rintro hloaded ⟨entries, front, first, back, hread, heq, hfront, hlost⟩
    obtain ⟨stop, hstop, hcarry⟩ := ofText_of_refused hread heq hfront hlost.not_suits
    rw [hcarry.2 hlost] at hstop
    rw [hstop] at hloaded
    obtain ⟨s, hs⟩ | ⟨e, he⟩ := hloaded
    · cases hs
    · cases he
  · intro hcarried
    cases htext : ofText text with
    | ok s => exact .inl ⟨s, rfl⟩
    | error stop =>
      cases stop with
      | error e => exact .inr ⟨e, rfl⟩
      | aborted =>
        obtain ⟨entries, hread, hunsuitable⟩ := exists_unsuitable_of_aborted htext
        obtain ⟨front, first, back, heq, hfront, hfirst⟩ := exists_first_unsuitable hunsuitable
        obtain ⟨stop, hstop, hcarry⟩ := ofText_of_refused hread heq hfront hfirst
        rw [htext, Except.error.injEq] at hstop
        exact absurd ⟨entries, front, first, back, hread, heq, hfront, hcarry.1 hstop.symm⟩ hcarried

/-- There is such a text: the last nanosecond completes one second too many. -/
theorem carried_interval_aborts :
    ¬∀ text, (∃ s, ofText text = .ok s) ∨ ∃ e, ofText text = .error (.error e) := by
  intro h
  have haborted : ofText
      "[pipeline]\nunit_interval = \"18446744073709551615s 999999999ns 1ns\"\n" =
        .error .aborted := aborts_iff.1 (by decide +kernel)
  have hloaded := h "[pipeline]\nunit_interval = \"18446744073709551615s 999999999ns 1ns\"\n"
  rw [haborted] at hloaded
  obtain ⟨s, hs⟩ | ⟨e, he⟩ := hloaded
  · cases hs
  · cases he

end FlowWatch.Config
