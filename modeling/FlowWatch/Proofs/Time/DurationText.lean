import FlowWatch.Proofs.Text.Numeral
import FlowWatch.Time.DurationText

/-!
# Durations read from their own text

The writer splits a length into portions of nine units, from years down to
nanoseconds, and writes those that are not zero. The reader adds the portions up
one after the other. Every sum on the way is at most the length, and the
portions below a second never fill one, so nothing overflows and nothing is
carried.
-/

namespace FlowWatch

open FlowWatch.Text

namespace Duration

/-- A length is its seconds and the nanoseconds beyond them. -/
theorem nanos_eq (d : Duration) : d.nanos = d.seconds * Nanos.perSecond + d.subNanos := by
  unfold seconds subNanos Nanos.perSecond
  omega

/-- The nanoseconds beyond the seconds do not fill one. -/
theorem subNanos_lt (d : Duration) : d.subNanos < Nanos.perSecond := Nat.mod_lt _ (by decide)

/-- The seconds fit in 64 bits. -/
theorem seconds_lt (d : Duration) : d.seconds < DurationText.wordLimit := by
  have hbounded := d.bounded
  unfold seconds Nanos.perSecond DurationText.wordLimit
  omega

/-- Lengths with equal parts are equal. -/
theorem eq_of_parts {a b : Duration} (hseconds : a.seconds = b.seconds)
    (hsub : a.subNanos = b.subNanos) : a = b := by
  apply Duration.ext
  rw [nanos_eq, nanos_eq, hseconds, hsub]

/-- Seconds that fit and nanoseconds below a second are the parts of a length. -/
theorem exists_of_parts {s n : Nat} (hs : s < DurationText.wordLimit) (hn : n < Nanos.perSecond) :
    ∃ d : Duration, d.seconds = s ∧ d.subNanos = n := by
  unfold DurationText.wordLimit at hs
  unfold Nanos.perSecond at hn
  refine ⟨⟨s * 1000000000 + n, by omega⟩, ?_, ?_⟩
  · simp only [seconds, Nanos.perSecond]
    omega
  · simp only [subNanos, Nanos.perSecond]
    omega

/-- A length has the given nanoseconds if and only if it is made of them. -/
theorem ofNanos?_eq_some_iff {n : Nat} {d : Duration} :
    ofNanos? n = some d ↔ d.nanos = n := by
  have hbounded := d.bounded
  unfold ofNanos?
  split
  · rw [Option.some_inj, Duration.ext_iff, eq_comm]
  · exact iff_of_false (by simp) (by omega)

/-- A length is the one of its own nanoseconds. -/
theorem ofNanos?_nanos (d : Duration) : ofNanos? d.nanos = some d := dif_pos d.bounded

end Duration

namespace DurationText

/-- A number of some unit, as a part of a written length. -/
structure Portion where
  /-- The number. -/
  number : Nat
  /-- The unit. -/
  unit : TimeUnit
  /-- The unit as it is written. -/
  name : String

namespace Portion

/-- What a portion counts. -/
def amount (p : Portion) : Amount :=
  match p.unit.scale with
  | .seconds each => ⟨p.number * each, 0⟩
  | .nanos each => ⟨0, p.number * each⟩

/-- The characters of a portion. -/
def text (p : Portion) : List Char := numeral p.number ++ p.name.toList

/-- A portion as the reader takes it. -/
def term (p : Portion) : Term := ⟨p.number, none, p.name.toList⟩

/-- The number fits in 64 bits, and the name spells the unit. -/
structure Readable (p : Portion) : Prop where
  /-- The number fits. -/
  fits : p.number < wordLimit
  /-- The name spells the unit. -/
  spelled : TimeUnit.ofSpelling? p.name = some p.unit
  /-- The name consists of letters. -/
  letters : ∀ c ∈ p.name.toList, isUnitLetter c = true
  /-- The name is not empty. -/
  named : p.name.toList ≠ []

end Portion

/-- A number below the limit fits. -/
theorem fit_of_lt {n : Nat} (h : n < wordLimit) : fit n = .ok n := if_pos h

/-- A portion whose amount fits is read as that amount. -/
theorem wholeAmount_eq {p : Portion} (hseconds : p.amount.seconds < wordLimit)
    (hnanos : p.amount.nanos < wordLimit) : wholeAmount p.number p.unit = .ok p.amount := by
  unfold Portion.amount at *
  unfold wholeAmount
  cases hscale : p.unit.scale with
  | seconds each =>
    simp only [hscale] at hseconds
    simp only [fit_of_lt hseconds, ok_bind]
    rfl
  | nanos each =>
    simp only [hscale] at hnanos
    simp only [fit_of_lt hnanos, ok_bind]
    rfl

/-- An amount that fills no second is added without a carry. -/
theorem addAmount_eq {total sum : Duration} {amount : Amount}
    (hseconds : sum.seconds = total.seconds + amount.seconds)
    (hnanos : sum.subNanos = total.subNanos + amount.nanos) :
    addAmount total amount = .ok sum := by
  have hsub := sum.subNanos_lt
  have hfit : total.subNanos + amount.nanos < wordLimit := by
    unfold Nanos.perSecond at hsub
    unfold wordLimit
    omega
  have hno : ¬Nanos.perSecond < total.subNanos + amount.nanos := by omega
  have hsum : Duration.ofNanos? ((total.seconds + amount.seconds) * Nanos.perSecond +
      (total.subNanos + amount.nanos)) = some sum := by
    rw [← hseconds, ← hnanos, ← Duration.nanos_eq, Duration.ofNanos?_nanos]
  have hlast := sum.seconds_lt
  have hseconds' : total.seconds + amount.seconds < wordLimit := by omega
  unfold addAmount
  rw [fit_of_lt hfit, ok_bind, if_neg hno, pure_bind]
  simp only
  rw [fit_of_lt hseconds', ok_bind, hsum]

/-- A portion is added to a length as its amount. -/
theorem addTerm_eq {p : Portion} (hp : p.Readable) {total sum : Duration}
    (hseconds : sum.seconds = total.seconds + p.amount.seconds)
    (hnanos : sum.subNanos = total.subNanos + p.amount.nanos) :
    addTerm total p.term = .ok sum := by
  have hlast := sum.seconds_lt
  have hsub := sum.subNanos_lt
  have hfit : p.amount.nanos < wordLimit := by
    unfold Nanos.perSecond at hsub
    unfold wordLimit
    omega
  unfold addTerm Portion.term
  simp only [String.ofList_toList, hp.spelled, wholeAmount_eq (by omega) hfit, ok_bind,
    addAmount_eq hseconds hnanos]
  rfl

/-- Portions that make up what a length has more than another are added to it. -/
theorem foldlM_addTerm {ps : List Portion} (hps : ∀ p ∈ ps, p.Readable) {total d : Duration}
    (hseconds : d.seconds = total.seconds + (ps.map (·.amount.seconds)).sum)
    (hnanos : d.subNanos = total.subNanos + (ps.map (·.amount.nanos)).sum) :
    (ps.map Portion.term).foldlM addTerm total = .ok d := by
  induction ps generalizing total with
  | nil =>
    have hsame : total = d := Duration.eq_of_parts hseconds.symm hnanos.symm
    rw [hsame]
    rfl
  | cons p ps ih =>
    simp only [List.map_cons, List.sum_cons] at hseconds hnanos
    have hlast := d.seconds_lt
    have hsub := d.subNanos_lt
    obtain ⟨sum, hs, hn⟩ := Duration.exists_of_parts
      (show total.seconds + p.amount.seconds < wordLimit by omega)
      (show total.subNanos + p.amount.nanos < Nanos.perSecond by omega)
    rw [List.map_cons, List.foldlM_cons, addTerm_eq (hps p List.mem_cons_self) hs hn, ok_bind]
    exact ih (fun q hq => hps q (List.mem_cons_of_mem p hq)) (by omega) (by omega)

/-- The letters of units by their code points. -/
theorem toNat_of_isUnitLetter {c : Char} (h : isUnitLetter c = true) :
    97 ≤ c.toNat ∧ c.toNat ≤ 122 ∨ 65 ≤ c.toNat ∧ c.toNat ≤ 90 ∨ c.toNat = 181 := by
  simp only [isUnitLetter, Bool.or_eq_true, Bool.and_eq_true, decide_eq_true_eq, beq_iff_eq] at h
  rcases h with (small | capital) | rfl
  · exact .inl small
  · exact .inr (.inl capital)
  · exact .inr (.inr rfl)

/-- A letter of a unit is no digit. -/
theorem isDigit_of_isUnitLetter {c : Char} (h : isUnitLetter c = true) : c.isDigit = false := by
  have hcases := toNat_of_isUnitLetter h
  rw [Bool.eq_false_iff, ne_eq, Char.isDigit_iff_toNat]
  simp only [Char.reduceToNat]
  omega

/-- A letter of a unit is no blank. -/
theorem isBlank_of_isUnitLetter {c : Char} (h : isUnitLetter c = true) : isBlank c = false := by
  have hcases := toNat_of_isUnitLetter h
  rw [Bool.eq_false_iff, ne_eq, isBlank]
  simp only [Bool.or_eq_true, Bool.and_eq_true, decide_eq_true_eq, beq_iff_eq]
  omega

/-- A digit is no blank. -/
theorem isBlank_of_isDigit {c : Char} (h : c.isDigit = true) : isBlank c = false := by
  rw [Char.isDigit_iff_toNat] at h
  simp only [Char.reduceToNat] at h
  rw [Bool.eq_false_iff, ne_eq, isBlank]
  simp only [Bool.or_eq_true, Bool.and_eq_true, decide_eq_true_eq, beq_iff_eq]
  omega

/-- The reader goes on as its next phase says. -/
theorem push_of_next {r : Reader} {c : Char} {total : Duration} {phase : Phase}
    (h : r.next c = .ok (total, phase)) : r.push c = .ok ⟨r.place + c.utf8Size, total, phase⟩ := by
  rw [Reader.push, h]
  rfl

/-- Digits behind a number go on with it. -/
theorem push_digits {cs : List Char} (hcs : ∀ c ∈ cs, c.isDigit = true) {number : Nat}
    (hfit : Nat.ofDigitChars 10 cs number < wordLimit) (place : Nat) (total : Duration) :
    ∃ after, cs.foldlM Reader.push ⟨place, total, .whole number⟩ =
      .ok ⟨after, total, .whole (Nat.ofDigitChars 10 cs number)⟩ := by
  induction cs generalizing number place with
  | nil => exact ⟨place, rfl⟩
  | cons c cs ih =>
    have hc := hcs c List.mem_cons_self
    rw [ofDigitChars_cons] at hfit ⊢
    have hnext := le_ofDigitChars cs (number * 10 + digitValue c)
    have hpush : Reader.push ⟨place, total, .whole number⟩ c =
        .ok ⟨place + c.utf8Size, total, .whole (number * 10 + digitValue c)⟩ := by
      apply push_of_next
      simp only [Reader.next, hc, if_true, fit_of_lt (show number * 10 + digitValue c < _ by omega)]
      rfl
    rw [List.foldlM_cons, hpush, ok_bind]
    exact ih (fun d hd => hcs d (List.mem_cons_of_mem c hd)) hfit _

/-- Letters behind the start of a unit go on with it. -/
theorem push_letters {cs : List Char} (hcs : ∀ c ∈ cs, isUnitLetter c = true) (term : Term)
    (place : Nat) (total : Duration) :
    ∃ after, cs.foldlM Reader.push ⟨place, total, .unit term⟩ =
      .ok ⟨after, total, .unit { term with letters := term.letters ++ cs }⟩ := by
  induction cs generalizing term place with
  | nil => exact ⟨place, by rw [List.append_nil]; rfl⟩
  | cons c cs ih =>
    have hc := hcs c List.mem_cons_self
    have hpush : Reader.push ⟨place, total, .unit term⟩ c =
        .ok ⟨place + c.utf8Size, total, .unit { term with letters := term.letters ++ [c] }⟩ := by
      apply push_of_next
      simp only [Reader.next, isDigit_of_isUnitLetter hc, isBlank_of_isUnitLetter hc, hc,
        Bool.false_eq_true, if_false, if_true]
    obtain ⟨after, hafter⟩ := ih (fun d hd => hcs d (List.mem_cons_of_mem c hd))
      { term with letters := term.letters ++ [c] } (place + c.utf8Size)
    refine ⟨after, ?_⟩
    rw [List.foldlM_cons, hpush, ok_bind, hafter]
    simp only [List.append_assoc, List.singleton_append]

/-- A portion is read from the place where a number may begin. -/
theorem push_portion {p : Portion} (hp : p.Readable) (place since : Nat) (total : Duration) :
    ∃ after, p.text.foldlM Reader.push ⟨place, total, .seeking since⟩ =
      .ok ⟨after, total, .unit p.term⟩ := by
  obtain ⟨digit, digits, hdigits, hdigit⟩ := numeral_eq_cons p.number
  obtain ⟨letter, letters, hletters⟩ := List.exists_cons_of_ne_nil hp.named
  have hmore : ∀ c ∈ digits, c.isDigit = true :=
    fun c hc => isDigit_of_mem_numeral (hdigits ▸ List.mem_cons_of_mem digit hc)
  have hvalue : Nat.ofDigitChars 10 digits (digitValue digit) = p.number := by
    have hall := ofDigitChars_numeral p.number
    rwa [hdigits, ofDigitChars_cons, Nat.zero_mul, Nat.zero_add] at hall
  have hfirst : Reader.push ⟨place, total, .seeking since⟩ digit =
      .ok ⟨place + digit.utf8Size, total, .whole (digitValue digit)⟩ := by
    apply push_of_next
    simp only [Reader.next, hdigit, if_true]
  obtain ⟨behind, hnumber⟩ := push_digits hmore (hvalue ▸ hp.fits) (place + digit.utf8Size) total
  have hspelled := hp.letters
  rw [hletters] at hspelled
  have hletter := hspelled letter List.mem_cons_self
  have hunit : Reader.push ⟨behind, total, .whole p.number⟩ letter =
      .ok ⟨behind + letter.utf8Size, total, .unit ⟨p.number, none, [letter]⟩⟩ := by
    apply push_of_next
    simp only [Reader.next, isDigit_of_isUnitLetter hletter, isBlank_of_isUnitLetter hletter,
      hletter, Bool.false_eq_true, if_false, if_true]
  obtain ⟨after, hname⟩ := push_letters (fun c hc => hspelled c (List.mem_cons_of_mem _ hc))
    ⟨p.number, none, [letter]⟩ (behind + letter.utf8Size) total
  refine ⟨after, ?_⟩
  rw [Portion.text, Portion.term, hdigits, hletters, List.cons_append, List.foldlM_cons, hfirst,
    ok_bind, List.foldlM_append, hnumber, ok_bind, hvalue, List.foldlM_cons, hunit, ok_bind, hname]
  rfl

/-- Behind the first portion, each further one follows a blank, where the one
before it is added. -/
theorem finish_portions {ps : List Portion} (hps : ∀ p ∈ ps, p.Readable) (p : Portion)
    (place : Nat) {total d : Duration}
    (hsum : ((p :: ps).map Portion.term).foldlM addTerm total = .ok d) :
    ∃ r, (ps.flatMap fun q => ' ' :: q.text).foldlM Reader.push ⟨place, total, .unit p.term⟩ =
      .ok r ∧ r.finish = .ok d := by
  induction ps generalizing p place total with
  | nil =>
    refine ⟨_, rfl, ?_⟩
    rw [List.map_cons, List.foldlM_cons] at hsum
    simpa [Reader.finish] using hsum
  | cons q ps ih =>
    rw [List.map_cons, List.foldlM_cons] at hsum
    cases hadd : addTerm total p.term with
    | error fault => rw [hadd] at hsum; cases hsum
    | ok next =>
      rw [hadd, ok_bind] at hsum
      have hblank : Reader.push ⟨place, total, .unit p.term⟩ ' ' =
          .ok ⟨place + 1, next, .seeking (place + 1)⟩ := by
        apply push_of_next
        have hspace : isBlank ' ' = true := by decide
        have hnot : Char.isDigit ' ' = false := by decide
        simp only [Reader.next, hspace, hnot, hadd, Bool.false_eq_true, if_false, if_true]
        rfl
      obtain ⟨after, hq⟩ := push_portion (hps q List.mem_cons_self) (place + 1) (place + 1) next
      obtain ⟨r, hr, hfinish⟩ := ih (fun x hx => hps x (List.mem_cons_of_mem q hx)) q after hsum
      refine ⟨r, ?_, hfinish⟩
      rw [List.flatMap_cons, List.cons_append, List.foldlM_cons, hblank, ok_bind,
        List.foldlM_append, hq, ok_bind, hr]

/-- The text of some portions, separated by blanks. -/
theorem toList_intercalate (p : Portion) (ps : List Portion) :
    (String.intercalate " " ((p :: ps).map fun q => String.ofList q.text)).toList =
      p.text ++ ps.flatMap fun q => ' ' :: q.text := by
  rw [String.toList_intercalate, List.map_map]
  induction ps generalizing p with
  | nil => simp
  | cons q ps ih =>
    have hrest := ih q
    simp only [List.map_cons, Function.comp_apply, String.toList_ofList] at hrest ⊢
    rw [List.intercalate_cons_cons, hrest, List.flatMap_cons]
    simp

/-- Portions that make up a length are read as the length. -/
theorem read_portions {p : Portion} {ps : List Portion} (hps : ∀ q ∈ p :: ps, q.Readable)
    {d : Duration} (hsum : ((p :: ps).map Portion.term).foldlM addTerm Duration.zero = .ok d) :
    read (String.intercalate " " ((p :: ps).map fun q => String.ofList q.text)) = .ok d := by
  have hp := hps p List.mem_cons_self
  obtain ⟨after, hfirst⟩ := push_portion hp 0 0 Duration.zero
  obtain ⟨r, hr, hfinish⟩ :=
    finish_portions (fun q hq => hps q (List.mem_cons_of_mem p hq)) p after hsum
  obtain ⟨digit, digits, hdigits, hdigit⟩ := numeral_eq_cons p.number
  have htext := toList_intercalate p ps
  generalize String.intercalate " " ((p :: ps).map fun q => String.ofList q.text) = text at htext ⊢
  have hzero : text ≠ "0" := by
    rintro rfl
    have hlength : 1 = _ := congrArg List.length htext
    have hname := List.length_pos_iff.2 hp.named
    simp only [Portion.text, hdigits, List.length_append, List.length_cons] at hlength
    omega
  have hblank : text.toList.all isBlank = false := by
    rw [htext, Portion.text, hdigits]
    simp [isBlank_of_isDigit hdigit]
  rw [read, if_neg hzero, hblank, if_neg Bool.false_ne_true, htext, List.foldlM_append,
    Reader.start, hfirst, ok_bind, hr, ok_bind, hfinish]

/-- The name of a unit that has a plural. -/
def pluralName (number : Nat) (name : String) : String :=
  if 1 < number then name ++ "s" else name

/-- All portions of a length, the empty ones included. -/
def portions (d : Duration) : List Portion :=
  let inYear := d.seconds % yearSeconds
  let inMonth := inYear % monthSeconds
  let inDay := inMonth % daySeconds
  let years := d.seconds / yearSeconds
  let months := inYear / monthSeconds
  let days := inMonth / daySeconds
  [⟨years, .year, pluralName years "year"⟩, ⟨months, .month, pluralName months "month"⟩,
    ⟨days, .day, pluralName days "day"⟩, ⟨inDay / hourSeconds, .hour, "h"⟩,
    ⟨inDay % hourSeconds / minuteSeconds, .minute, "m"⟩, ⟨inDay % minuteSeconds, .second, "s"⟩,
    ⟨d.subNanos / 1000000, .millisecond, "ms"⟩, ⟨d.subNanos / 1000 % 1000, .microsecond, "us"⟩,
    ⟨d.subNanos % 1000, .nanosecond, "ns"⟩]

/-- The portions that are written. -/
def written (d : Duration) : List Portion := (portions d).filter (·.number ≠ 0)

/-- The parts of a length are the texts of the portions that are written. -/
theorem parts_eq (d : Duration) : parts d = (written d).map fun p => String.ofList p.text := by
  have hpart (p : Portion) (ps : List Portion) :
      ((p :: ps).filter (·.number ≠ 0)).map (fun q => String.ofList q.text) =
        part p.number p.name ++ (ps.filter (·.number ≠ 0)).map fun q => String.ofList q.text := by
    by_cases hzero : p.number = 0
    · simp [part, hzero]
    · simp [part, hzero, Portion.text]
  simp only [parts, pluralPart, written, portions, hpart, pluralName]
  simp

/-- Where a portion without a number counts nothing, a sum may leave such portions out. -/
theorem sum_filter_number (f : Portion → Nat) (hf : ∀ p : Portion, p.number = 0 → f p = 0)
    (ps : List Portion) : ((ps.filter (·.number ≠ 0)).map f).sum = (ps.map f).sum := by
  induction ps with
  | nil => rfl
  | cons p ps ih =>
    by_cases hzero : p.number = 0
    · rw [List.filter_cons_of_neg (by simp [hzero]), List.map_cons, List.sum_cons, hf p hzero,
        Nat.zero_add]
      exact ih
    · rw [List.filter_cons_of_pos (by simp [hzero]), List.map_cons, List.sum_cons, ih,
        List.map_cons, List.sum_cons]

/-- A portion without a number counts nothing. -/
theorem Portion.amount_of_number_eq_zero {p : Portion} (h : p.number = 0) : p.amount = ⟨0, 0⟩ := by
  unfold Portion.amount
  split <;> rw [h, Nat.zero_mul]

/-- The portions that are written count the seconds of the length. In the sum the
counts are variables, since a product with a large unit must not be unfolded. -/
theorem sum_seconds (d : Duration) : ((written d).map (·.amount.seconds)).sum = d.seconds := by
  have hamounts : (portions d).map (·.amount.seconds) =
      [d.seconds / yearSeconds * yearSeconds,
        d.seconds % yearSeconds / monthSeconds * monthSeconds,
        d.seconds % yearSeconds % monthSeconds / daySeconds * daySeconds,
        d.seconds % yearSeconds % monthSeconds % daySeconds / hourSeconds * hourSeconds,
        d.seconds % yearSeconds % monthSeconds % daySeconds % hourSeconds / minuteSeconds *
          minuteSeconds,
        d.seconds % yearSeconds % monthSeconds % daySeconds % minuteSeconds * 1, 0, 0, 0] := rfl
  have hsum (years months days hours minutes seconds : Nat) :
      [years, months, days, hours, minutes, seconds, 0, 0, 0].sum =
        years + months + days + hours + minutes + seconds := by
    simp only [List.sum_cons, List.sum_nil]
    omega
  rw [written, sum_filter_number (·.amount.seconds), hamounts, hsum]
  · unfold yearSeconds monthSeconds daySeconds hourSeconds minuteSeconds
    omega
  · exact fun p hp => congrArg Amount.seconds (Portion.amount_of_number_eq_zero hp)

/-- The portions that are written count the nanoseconds beyond the seconds. -/
theorem sum_nanos (d : Duration) : ((written d).map (·.amount.nanos)).sum = d.subNanos := by
  have hamounts : (portions d).map (·.amount.nanos) =
      [0, 0, 0, 0, 0, 0, d.subNanos / 1000000 * 1000000, d.subNanos / 1000 % 1000 * 1000,
        d.subNanos % 1000 * 1] := rfl
  have hsum (millis micros nanos : Nat) :
      [0, 0, 0, 0, 0, 0, millis, micros, nanos].sum = millis + micros + nanos := by
    simp only [List.sum_cons, List.sum_nil]
    omega
  rw [written, sum_filter_number (·.amount.nanos), hamounts, hsum]
  · omega
  · exact fun p hp => congrArg Amount.nanos (Portion.amount_of_number_eq_zero hp)

/-- The names under which portions are written. -/
def names : List (TimeUnit × String) :=
  [(.year, "year"), (.year, "years"), (.month, "month"), (.month, "months"), (.day, "day"),
    (.day, "days"), (.hour, "h"), (.minute, "m"), (.second, "s"), (.millisecond, "ms"),
    (.microsecond, "us"), (.nanosecond, "ns")]

/-- A portion under one of these names can be read if its number fits. -/
theorem readable_of_mem_names {p : Portion} (hfits : p.number < wordLimit)
    (hname : (p.unit, p.name) ∈ names) : p.Readable := by
  have hnames : ∀ entry ∈ names, TimeUnit.ofSpelling? entry.2 = some entry.1 ∧
      entry.2.toList.all isUnitLetter = true ∧ entry.2.toList ≠ [] := by decide +kernel
  obtain ⟨hspelled, hletters, hnamed⟩ := hnames _ hname
  exact ⟨hfits, hspelled, List.all_eq_true.1 hletters, hnamed⟩

/-- A unit whose name and plural are among the names is written with one of them. -/
theorem pluralName_mem {unit : TimeUnit} {name : String} (hone : (unit, name) ∈ names)
    (hmore : (unit, name ++ "s") ∈ names) (number : Nat) :
    (unit, pluralName number name) ∈ names := by
  unfold pluralName
  split
  · exact hmore
  · exact hone

/-- Every portion of a length can be read. -/
theorem readable_of_mem_portions {d : Duration} {p : Portion} (h : p ∈ portions d) :
    p.Readable := by
  have hseconds := d.seconds_lt
  have hsub := d.subNanos_lt
  unfold wordLimit at hseconds
  unfold Nanos.perSecond at hsub
  apply readable_of_mem_names
  · simp only [portions, yearSeconds, monthSeconds, daySeconds, hourSeconds, minuteSeconds,
      List.mem_cons, List.not_mem_nil, or_false] at h
    unfold wordLimit
    rcases h with rfl | rfl | rfl | rfl | rfl | rfl | rfl | rfl | rfl <;> simp only <;> omega
  · simp only [portions, List.mem_cons, List.not_mem_nil, or_false] at h
    rcases h with rfl | rfl | rfl | rfl | rfl | rfl | rfl | rfl | rfl <;> simp only
    · exact pluralName_mem (by decide) (by decide) _
    · exact pluralName_mem (by decide) (by decide) _
    · exact pluralName_mem (by decide) (by decide) _
    all_goals decide

/-- A length is read back from its own text. -/
theorem read_write (d : Duration) : read (write d) = .ok d := by
  unfold write
  split
  · next hzero =>
    have hd : d = Duration.zero := Duration.ext hzero
    rw [hd]
    rfl
  · next hpos =>
    have hreadable : ∀ p ∈ written d, p.Readable :=
      fun p hp => readable_of_mem_portions (List.mem_filter.1 hp).1
    have hsum : ((written d).map Portion.term).foldlM addTerm Duration.zero = .ok d := by
      apply foldlM_addTerm hreadable
      · rw [sum_seconds]
        exact (Nat.zero_add _).symm
      · rw [sum_nanos]
        exact (Nat.zero_add _).symm
    rw [parts_eq]
    cases hwritten : written d with
    | nil =>
      have hseconds := sum_seconds d
      have hnanos := sum_nanos d
      have hd := d.nanos_eq
      rw [hwritten] at hseconds hnanos
      rw [← hseconds, ← hnanos] at hd
      exact absurd hd hpos
    | cons p ps =>
      rw [hwritten] at hsum hreadable
      exact read_portions hreadable hsum

end DurationText

end FlowWatch
