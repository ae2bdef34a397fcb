import FlowWatch.Proofs.Result
import FlowWatch.Proofs.Time.DurationText

/-!
# The last carry

Nanoseconds beyond a second are carried while an amount is added, and the carry is checked.
A whole second of nanoseconds is carried only at the end, and that carry is not checked: it
is lost where the seconds are as many as they can be. So the reader of durations has no
result exactly for the texts in which some term completes one second too many, by a number
of nanoseconds that makes at most a second.
-/

namespace FlowWatch.DurationText

open FlowWatch.Text

/-! ### Amounts -/

/-- A number that does not fit is an overflow. -/
theorem fit_of_le {n : Nat} (h : wordLimit ≤ n) : fit n = .error .overflow :=
  if_neg (Nat.not_lt.2 h)

/-- Whether a number fits or not, it loses no carry. -/
theorem fit_ne_lostCarry {n : Nat} : fit n ≠ .error .lostCarry := by
  rw [fit]
  split <;> exact fun h => nomatch h

/-- There is no length beyond the bound of its seconds. -/
theorem ofNanos?_eq_none_iff {n : Nat} :
    Duration.ofNanos? n = none ↔ wordLimit * Nanos.perSecond ≤ n := by
  rw [Duration.ofNanos?]
  unfold wordLimit Nanos.perSecond
  split
  · next h => exact iff_of_false (Option.some_ne_none _) (by omega)
  · next h => exact iff_of_true rfl (by omega)

/-- The length of some seconds and nanoseconds, which may be a whole second. -/
def lengthOf (seconds nanos : Nat) : Except Fault Duration := do
  let seconds ← fit seconds
  match Duration.ofNanos? (seconds * Nanos.perSecond + nanos) with
  | some sum => .ok sum
  | none => .error .lostCarry

/-- An amount is added in seconds and nanoseconds. -/
theorem addAmount_eq_bind (total : Duration) (amount : Amount) :
    addAmount total amount = (do
      let nanos ← fit (total.subNanos + amount.nanos)
      if Nanos.perSecond < nanos then do
        let carried ← fit (amount.seconds + nanos / Nanos.perSecond)
        lengthOf (total.seconds + carried) (nanos % Nanos.perSecond)
      else lengthOf (total.seconds + amount.seconds) nanos) :=
  rfl

/-- The last carry is lost if it is a second more than the seconds can hold. -/
theorem lengthOf_eq_lostCarry_iff {seconds nanos : Nat} (hnanos : nanos ≤ Nanos.perSecond) :
    lengthOf seconds nanos = .error .lostCarry ↔
      nanos = Nanos.perSecond ∧ seconds + 1 = wordLimit := by
  have hbeyond (hfit : seconds < wordLimit) :
      wordLimit * Nanos.perSecond ≤ seconds * Nanos.perSecond + nanos ↔
        nanos = Nanos.perSecond ∧ seconds + 1 = wordLimit := by
    unfold wordLimit Nanos.perSecond at *
    omega
  rw [lengthOf]
  by_cases hfit : seconds < wordLimit
  · rw [fit_of_lt hfit, ok_bind, ← hbeyond hfit, ← ofNanos?_eq_none_iff]
    cases Duration.ofNanos? (seconds * Nanos.perSecond + nanos) <;> simp
  · rw [fit_of_le (Nat.not_lt.1 hfit)]
    refine iff_of_false (fun h => nomatch h) ?_
    rintro ⟨-, hlast⟩
    omega

/-- Adding an amount loses the last carry if it completes a second, which is one more
than the seconds can hold. What a checked carry leaves of the nanoseconds is no whole
second. -/
theorem addAmount_eq_lostCarry_iff {total : Duration} {amount : Amount} :
    addAmount total amount = .error .lostCarry ↔
      total.subNanos + amount.nanos = Nanos.perSecond ∧
        total.seconds + amount.seconds + 1 = wordLimit := by
  rw [addAmount_eq_bind]
  by_cases hfit : total.subNanos + amount.nanos < wordLimit
  · rw [fit_of_lt hfit, ok_bind]
    split
    · next hcarry =>
      refine iff_of_false (fun h => ?_) fun h => by omega
      have hrest : (total.subNanos + amount.nanos) % Nanos.perSecond < Nanos.perSecond :=
        Nat.mod_lt _ (by decide)
      rcases bind_eq_error_iff.1 h with hcarried | ⟨carried, -, hlost⟩
      · exact absurd hcarried fit_ne_lostCarry
      · have hwhole := ((lengthOf_eq_lostCarry_iff (Nat.le_of_lt hrest)).1 hlost).1
        omega
    · next hless => exact lengthOf_eq_lostCarry_iff (Nat.not_lt.1 hless)
  · rw [fit_of_le (Nat.not_lt.1 hfit)]
    refine iff_of_false (fun h => nomatch h) ?_
    rintro ⟨hwhole, -⟩
    unfold wordLimit Nanos.perSecond at *
    omega

/-- An amount completes the second behind the last one that a length can have. -/
structure Overfills (total : Duration) (amount : Amount) : Prop where
  /-- The amount is one of nanoseconds. -/
  seconds : amount.seconds = 0
  /-- The nanoseconds make at most a second. -/
  nanos : amount.nanos ≤ Nanos.perSecond
  /-- The sum is one second too many. -/
  sum : total.nanos + amount.nanos = wordLimit * Nanos.perSecond

/-- An amount is one of seconds or one of nanoseconds. -/
def Amount.Simple (amount : Amount) : Prop := amount.seconds = 0 ∨ amount.nanos = 0

/-- Adding seconds, or nanoseconds, loses the last carry exactly if they complete the second
behind the last one. -/
theorem Amount.Simple.addAmount_iff {amount : Amount} (h : amount.Simple) {total : Duration} :
    addAmount total amount = .error .lostCarry ↔ Overfills total amount := by
  have hparts := total.nanos_eq
  have hsub := total.subNanos_lt
  have hseconds := total.seconds_lt
  rw [addAmount_eq_lostCarry_iff]
  unfold wordLimit Nanos.perSecond at *
  constructor
  · rintro ⟨hwhole, hlast⟩
    have hzero : amount.seconds = 0 := h.resolve_right (by omega)
    refine ⟨hzero, ?_, ?_⟩
    · unfold Nanos.perSecond
      omega
    · unfold wordLimit Nanos.perSecond
      omega
  · rintro ⟨hzero, hnanos, hsum⟩
    unfold wordLimit Nanos.perSecond at *
    omega

/-- What a result without a lost carry ensures of its amount. -/
structure Steady (result : Except Fault Amount) : Prop where
  /-- The amount is simple. -/
  simple : ∀ amount, result = .ok amount → amount.Simple
  /-- No carry is lost. -/
  kept : result ≠ .error .lostCarry

/-- A simple amount of some number is steady if no carry is lost in the number. -/
theorem steady_of_number {number : Except Fault Nat} (h : number ≠ .error .lostCarry)
    {amount : Nat → Amount} (hamount : ∀ n, (amount n).Simple) :
    Steady (do return amount (← number)) := by
  constructor
  · intro other hother
    obtain ⟨n, -, hn⟩ := bind_eq_ok_iff.1 hother
    cases hn
    exact hamount n
  · intro hlost
    rcases bind_eq_error_iff.1 hlost with hlost | ⟨n, -, hn⟩
    · exact h hlost
    · cases hn

/-- A whole number of a unit is steady. -/
theorem steady_wholeAmount (number : Nat) (unit : TimeUnit) : Steady (wholeAmount number unit) := by
  unfold wholeAmount
  split
  · exact steady_of_number fit_ne_lostCarry fun _ => .inr rfl
  · exact steady_of_number fit_ne_lostCarry fun _ => .inl rfl

/-- A fraction of a unit is steady. -/
theorem steady_fractionAmount (fraction : Fraction) (unit : TimeUnit) :
    Steady (fractionAmount fraction unit) := by
  have hshare (each : Nat) : exactShare fraction each ≠ .error .lostCarry := by
    intro h
    rcases bind_eq_error_iff.1 h with hlost | ⟨product, -, hlost⟩
    · exact fit_ne_lostCarry hlost
    · split at hlost <;> cases hlost
  unfold fractionAmount
  split
  · exact ⟨fun _ h => (nomatch h), fun h => nomatch h⟩
  · exact steady_of_number (hshare _) fun _ => .inr rfl
  · exact steady_of_number (hshare _) fun _ => .inl rfl

/-- A term, with its whole number or with its fraction, completes the second behind the
last one. -/
inductive TermOverfills (total : Duration) (term : Term) : Prop
  /-- The whole number does. -/
  | whole {unit : TimeUnit} {amount : Amount}
      (hunit : TimeUnit.ofSpelling? (String.ofList term.letters) = some unit)
      (hwhole : wholeAmount term.number unit = .ok amount) (hfull : Overfills total amount)
  /-- The fraction does, after the whole number was added. -/
  | fraction {unit : TimeUnit} {amount share : Amount} {sum : Duration} {fraction : Fraction}
      (hunit : TimeUnit.ofSpelling? (String.ofList term.letters) = some unit)
      (hwhole : wholeAmount term.number unit = .ok amount)
      (hsum : addAmount total amount = .ok sum) (hfraction : term.fraction = some fraction)
      (hshare : fractionAmount fraction unit = .ok share) (hfull : Overfills sum share)

/-- Adding a term loses the last carry exactly if the term completes the second behind the
last one. -/
theorem addTerm_eq_lostCarry_iff {total : Duration} {term : Term} :
    addTerm total term = .error .lostCarry ↔ TermOverfills total term := by
  unfold addTerm
  dsimp only
  constructor
  · intro h
    split at h
    · cases h
    · next unit hunit =>
      rcases bind_eq_error_iff.1 h with hlost | ⟨amount, hwhole, h⟩
      · exact absurd hlost (steady_wholeAmount _ _).kept
      · have hsimple := (steady_wholeAmount _ _).simple amount hwhole
        rcases bind_eq_error_iff.1 h with hlost | ⟨sum, hsum, h⟩
        · exact .whole hunit hwhole (hsimple.addAmount_iff.1 hlost)
        · split at h
          · cases h
          · next fraction hfraction =>
            rcases bind_eq_error_iff.1 h with hlost | ⟨share, hshare, hlost⟩
            · exact absurd hlost (steady_fractionAmount _ _).kept
            · have hsimple := (steady_fractionAmount _ _).simple share hshare
              exact .fraction hunit hwhole hsum hfraction hshare (hsimple.addAmount_iff.1 hlost)
  · rintro (⟨hunit, hwhole, hfull⟩ | ⟨hunit, hwhole, hsum, hfraction, hshare, hfull⟩)
    · have hsimple := (steady_wholeAmount _ _).simple _ hwhole
      simp only [hunit, hwhole, ok_bind, hsimple.addAmount_iff.2 hfull]
      rfl
    · have hsimple := (steady_fractionAmount _ _).simple _ hshare
      simp only [hunit, hwhole, hsum, hfraction, hshare, ok_bind, hsimple.addAmount_iff.2 hfull]

/-! ### Texts -/

/-- The reader is not within the letters of a unit. -/
def Reader.Outside (r : Reader) : Prop := ∀ term, r.phase ≠ .unit term

/-- Only a letter brings the reader to the letters of a unit. -/
theorem Reader.Outside.push {r : Reader} (hr : r.Outside) {c : Char}
    (hc : isUnitLetter c = false) : Ensures Reader.Outside (r.push c) := by
  have hnext : Ensures (fun found => ∀ term, found.2 ≠ .unit term) (r.next c) := by
    unfold Reader.next
    simp only [hc, Bool.false_eq_true, if_false]
    split
    · split
      · exact Ensures.ok fun _ h => nomatch h
      · split
        · exact Ensures.ok fun _ h => nomatch h
        · exact Ensures.error _
    · split
      · exact Ensures.after fun _ => Ensures.ok fun _ h => nomatch h
      · split
        · exact Ensures.ok fun _ h => nomatch h
        · split
          · exact Ensures.ok fun _ h => nomatch h
          · exact Ensures.error _
    · split
      · exact Ensures.after fun _ => Ensures.ok fun _ h => nomatch h
      · split
        · exact Ensures.ok fun _ h => nomatch h
        · exact Ensures.error _
    · next term hphase => exact absurd hphase (hr term)
  exact hnext.bind fun found hfound => Ensures.ok hfound

/-- A character loses the last carry exactly if it ends a term that completes the second
behind the last one. -/
theorem push_eq_lostCarry_iff {r : Reader} {c : Char} :
    r.push c = .error .lostCarry ↔
      (c.isDigit = true ∨ isBlank c = true) ∧
        ∃ term, r.phase = .unit term ∧ TermOverfills r.total term := by
  have hnext : r.push c = .error .lostCarry ↔ r.next c = .error .lostCarry :=
    bind_eq_error_iff.trans (or_iff_left fun ⟨_, _, h⟩ => nomatch h)
  have hpush (f : Fraction) (digit : Nat) : f.push digit ≠ .error .lostCarry := by
    intro h
    rcases bind_eq_error_iff.1 h with hlost | ⟨_, -, h⟩
    · exact fit_ne_lostCarry hlost
    · rcases bind_eq_error_iff.1 h with hlost | ⟨_, -, h⟩
      · exact fit_ne_lostCarry hlost
      · cases h
  rw [hnext, Reader.next]
  split
  · next since hphase =>
    simp only [hphase]
    repeat' split
    all_goals simp
  · next number hphase =>
    simp only [hphase]
    split
    · simp [fmap_eq_error_iff, fit_ne_lostCarry]
    · repeat' split
      all_goals simp
  · next number fraction mark hphase =>
    simp only [hphase]
    split
    · simp [fmap_eq_error_iff, hpush]
    · repeat' split
      all_goals simp
  · next term hphase =>
    simp only [hphase]
    split
    · next hdigit => simp [fmap_eq_error_iff, hdigit, addTerm_eq_lostCarry_iff]
    · next hdigit =>
      split
      · next hblank => simp [fmap_eq_error_iff, hblank, addTerm_eq_lostCarry_iff]
      · next hblank => split <;> simp [hdigit, hblank]

/-- The end of a text loses the last carry exactly if it ends a term that completes the
second behind the last one. -/
theorem finish_eq_lostCarry_iff {r : Reader} :
    r.finish = .error .lostCarry ↔ ∃ term, r.phase = .unit term ∧ TermOverfills r.total term := by
  have hnone (number : Nat) (fraction : Option Fraction) :
      addTerm r.total ⟨number, fraction, []⟩ ≠ .error .lostCarry := by
    intro h
    have hunit : TimeUnit.ofSpelling? (String.ofList []) = none := by decide +kernel
    rcases addTerm_eq_lostCarry_iff.1 h with ⟨hsome, -, -⟩ | ⟨hsome, -, -, -, -, -⟩
    · rw [hunit] at hsome
      cases hsome
    · rw [hunit] at hsome
      cases hsome
  unfold Reader.finish
  split
  · next hphase => simp [hphase]
  · next number hphase => simp [hphase, hnone]
  · next number fraction mark hphase =>
    split
    · simp [hphase, hnone]
    · simp [hphase]
  · next term hphase => simp [hphase, addTerm_eq_lostCarry_iff]

/-- A text in which some term, behind the ones before it, completes the second behind the
last one that a length can have. The term ends with the text, at a digit or at a blank. -/
def LosesCarry (text : String) : Prop :=
  ∃ front back r term, text.toList = front ++ back ∧
    (∀ c ∈ back.head?, c.isDigit = true ∨ isBlank c = true) ∧
    front.foldlM Reader.push Reader.start = .ok r ∧ r.phase = .unit term ∧
    TermOverfills r.total term

/-- Reading has no result exactly for the texts that lose their last carry. -/
theorem read_eq_lostCarry_iff {text : String} :
    read text = .error .lostCarry ↔ LosesCarry text := by
  constructor
  · intro h
    unfold read at h
    split at h
    · cases h
    · split at h
      · cases h
      · rcases bind_eq_error_iff.1 h with hlost | ⟨r, hr, hlost⟩
        · obtain ⟨front, c, back, r, heq, hfront, hlost⟩ := foldlM_eq_error_iff.1 hlost
          obtain ⟨hc, term, hphase, hfull⟩ := push_eq_lostCarry_iff.1 hlost
          refine ⟨front, c :: back, r, term, heq, fun d hd => ?_, hfront, hphase, hfull⟩
          cases hd
          exact hc
        · obtain ⟨term, hphase, hfull⟩ := finish_eq_lostCarry_iff.1 hlost
          refine ⟨text.toList, [], r, term, (List.append_nil _).symm, fun d hd => ?_, hr, hphase,
            hfull⟩
          cases hd
  · rintro ⟨front, back, r, term, heq, hback, hfront, hphase, hfull⟩
    have hletter : ∃ c ∈ text.toList, isUnitLetter c = true := by
      refine Classical.byContradiction fun hnone => ?_
      have houtside : r.Outside := by
        refine Ensures.foldlM (fun _ ho c hc => ho.push ?_) (fun _ h => nomatch h) r hfront
        have hmem : c ∈ text.toList := heq ▸ List.mem_append_left back hc
        exact Bool.eq_false_iff.2 fun hc => hnone ⟨c, hmem, hc⟩
      exact houtside term hphase
    obtain ⟨letter, hmem, hletter⟩ := hletter
    have hzero : text ≠ "0" := by
      rintro rfl
      have hdigit : letter = '0' := List.mem_singleton.1 hmem
      rw [hdigit] at hletter
      exact absurd hletter (by decide)
    have hblank : ¬text.toList.all isBlank = true := fun hall => by
      have hb := List.all_eq_true.1 hall letter hmem
      rw [isBlank_of_isUnitLetter hletter] at hb
      cases hb
    rw [read, if_neg hzero, if_neg hblank, bind_eq_error_iff]
    cases back with
    | nil =>
      refine .inr ⟨r, ?_, finish_eq_lostCarry_iff.2 ⟨term, hphase, hfull⟩⟩
      rw [heq, List.append_nil]
      exact hfront
    | cons c back =>
      have hpush := push_eq_lostCarry_iff.2 ⟨hback c rfl, term, hphase, hfull⟩
      exact .inl (foldlM_eq_error_iff.2 ⟨front, c, back, r, heq, hfront, hpush⟩)

end FlowWatch.DurationText
