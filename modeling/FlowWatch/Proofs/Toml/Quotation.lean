import FlowWatch.Proofs.Text.Numeral
import FlowWatch.Toml.Quotation
import FlowWatch.Toml.Writing

/-!
# Quoted texts read back

What the machine of the reader has left to do depends on its mode alone. So the
text of a quotation is read character by character: a run of delimiters that
does not close the quotation is kept back and comes out in front of the next
character, and every escape comes out as the character it stands for. The
delimiters at the end close the quotation, whatever run of them the text itself
ends with.
-/

namespace FlowWatch.Toml

namespace Quotation

variable {q : Quotation}

/-- How many delimiters in a row may stand for themselves. -/
def spare (q : Quotation) : Nat := q.closing - 1

/-- The longest run is one that closes the quotation behind all that is spare. -/
theorem longest_eq (q : Quotation) : q.longest = q.spare + q.closing := by
  unfold spare longest closing
  split <;> rfl

/-- A character that closes nothing leads the machine on. -/
theorem readBody_step {mode next : Mode} {c : Char} {grown text rest left : List Char}
    (hclosed : q.closed? mode (some c) = none) (hstep : q.step mode c = some (next, grown))
    (hrest : q.readBody next rest = .ok (text, left)) :
    q.readBody mode (c :: rest) = .ok (grown ++ text, left) := by
  rw [readBody, hclosed]
  simp only [hstep, hrest, Text.ok_bind]
  rfl

/-- A character that closes nothing may leave the text as it is. -/
theorem readBody_skip {mode next : Mode} {c : Char} {text rest left : List Char}
    (hclosed : q.closed? mode (some c) = none) (hstep : q.step mode c = some (next, []))
    (hrest : q.readBody next rest = .ok (text, left)) :
    q.readBody mode (c :: rest) = .ok (text, left) :=
  readBody_step hclosed hstep hrest

/-- A run that closes the quotation ends the reading, and what is spare of it
belongs to the text. -/
theorem readBody_closed {run : Nat} {rest : List Char} (hrun : q.closing ≤ run)
    (hrest : rest.head? ≠ some q.delimiter) :
    q.readBody (.content run) rest = .ok (List.replicate (run - q.closing) q.delimiter, rest) := by
  have hclosed : q.closed? (.content run) rest.head? = some (run - q.closing) := by
    simp [closed?, hrun, hrest]
  cases rest with
  | nil =>
    rw [List.head?_nil] at hclosed
    rw [readBody, hclosed]
  | cons c rest =>
    rw [List.head?_cons] at hclosed
    rw [readBody, hclosed]

/-- The delimiters at the end close the quotation, whatever short run of them the
text itself ends with. -/
theorem readBody_closing {kept run count : Nat} (hkept : kept ≤ q.spare)
    (hsum : run + count = kept + q.closing) {rest : List Char}
    (hrest : rest.head? ≠ some q.delimiter) :
    q.readBody (.content run) (List.replicate count q.delimiter ++ rest) =
      .ok (List.replicate kept q.delimiter, rest) := by
  induction count generalizing run with
  | zero =>
    have hrun : run - q.closing = kept := by omega
    rw [List.replicate_zero, List.nil_append, readBody_closed (by omega) hrest, hrun]
  | succ count ih =>
    have hlongest := longest_eq q
    have hclosed : q.closed? (.content run) (some q.delimiter) = none := by
      have hne : run ≠ q.longest := by omega
      simp [closed?, hne]
    have hstep : q.step (.content run) q.delimiter = some (.content (run + 1), []) := by
      simp [step, inContent]
    exact readBody_skip hclosed hstep (ih (by omega))

/-- A short run of delimiters closes nothing. -/
theorem closed?_content {run : Nat} (h : run ≤ q.spare) (following : Option Char) :
    q.closed? (.content run) following = none := by
  have hno : run ≠ q.longest ∧ ¬q.closing ≤ run := by
    unfold spare closing at h
    unfold longest closing
    split at h
    · next hlines => rw [if_pos hlines, if_pos hlines]; omega
    · next hline => rw [if_neg hline, if_neg hline]; omega
  simp [closed?, hno]

/-- A character that stands for itself is read behind the delimiters that were
kept back. -/
theorem readBody_plain {run : Nat} (hrun : run ≤ q.spare) {c : Char} (hc : c ≠ q.delimiter)
    (hplain : isPlain c = true ∨ c = '\n' ∧ q.multiline = true)
    (hescape : q.escapes = true → c ≠ '\\') {rest text left : List Char}
    (hrest : q.readBody (.content 0) rest = .ok (text, left)) :
    q.readBody (.content run) (c :: rest) =
      .ok (List.replicate run q.delimiter ++ [c] ++ text, left) := by
  have hbackslash : c = '\\' → q.escapes = false :=
    fun h => Bool.eq_false_iff.2 fun hq => hescape hq h
  refine readBody_step (closed?_content hrun _) ?_ hrest
  rcases hplain with hplain | ⟨rfl, hlines⟩
  · have hfeed : c ≠ '\n' := by
      rintro rfl
      exact absurd hplain (by decide)
    have hreturn : c ≠ '\r' := by
      rintro rfl
      exact absurd hplain (by decide)
    simpa [step, inContent, hc, hfeed, hreturn, hplain] using hbackslash
  · simp [step, inContent, hc, hlines]

/-- A backslash and a letter are read as the character they stand for. -/
theorem readBody_escape {run : Nat} (hrun : run ≤ q.spare) (hescapes : q.escapes = true)
    (hdelimiter : q.delimiter ≠ '\\') {letter c : Char}
    (hletter : q.inEscape letter = some (.content 0, [c])) {rest text left : List Char}
    (hrest : q.readBody (.content 0) rest = .ok (text, left)) :
    q.readBody (.content run) ('\\' :: letter :: rest) =
      .ok (List.replicate run q.delimiter ++ [c] ++ text, left) := by
  have hbehind : q.readBody .escape (letter :: rest) = .ok ([c] ++ text, left) :=
    readBody_step rfl hletter hrest
  rw [List.append_assoc]
  refine readBody_step (closed?_content hrun _) ?_ hbehind
  simp [step, inContent, hdelimiter.symm, hescapes]

/-- The code points below 128 have two hexadecimal digits behind two zeros. -/
theorem hexCode_eq {n : Nat} (h : n < 0x80) :
    ∃ a b, hexCode n = ['0', '0', a, b] ∧ hexValue? a = some (n / 16) ∧
      hexValue? b = some (n % 16) := by
  have hdigits : ∀ n < 0x80, (hexCode n).take 2 = ['0', '0'] ∧
      ((hexCode n).drop 2).map hexValue? = [some (n / 16), some (n % 16)] := by decide +kernel
  obtain ⟨hzeros, hvalues⟩ := hdigits n h
  obtain ⟨a, tail, htail, ha, hvalues⟩ := List.map_eq_cons_iff.1 hvalues
  obtain ⟨b, tail, rfl, hb, hnil⟩ := List.map_eq_cons_iff.1 hvalues
  rw [List.map_eq_nil_iff] at hnil
  refine ⟨a, b, ?_, ha, hb⟩
  rw [← List.take_append_drop 2 (hexCode n), hzeros, htail, hnil]
  rfl

/-- The code point of a character gives the character. -/
theorem charOf?_toNat (c : Char) : charOf? c.toNat = some c := by
  have hvalid : c.toNat.isValidChar := c.valid
  have hsame := Char.ofNat_toNat c
  rw [Char.ofNat, dif_pos hvalid] at hsame
  rw [charOf?, dif_pos hvalid, hsame]

/-- A code point of ASCII is read as its character. -/
theorem readBody_code {run : Nat} (hrun : run ≤ q.spare) (hescapes : q.escapes = true)
    (hdelimiter : q.delimiter ≠ '\\') {c : Char} (hc : c.toNat < 0x80)
    {rest text left : List Char} (hrest : q.readBody (.content 0) rest = .ok (text, left)) :
    q.readBody (.content run) ('\\' :: 'u' :: hexCode c.toNat ++ rest) =
      .ok (List.replicate run q.delimiter ++ [c] ++ text, left) := by
  obtain ⟨a, b, hcode, ha, hb⟩ := hexCode_eq hc
  have hvalue : c.toNat / 16 * 16 + c.toNat % 16 = c.toNat := by omega
  have hlast : q.readBody (.code 4 1 (c.toNat / 16)) (b :: rest) = .ok ([c] ++ text, left) :=
    readBody_step rfl (by simp [step, hb, hvalue, charOf?_toNat]) hrest
  have hthird : q.readBody (.code 4 2 0) (a :: b :: rest) = .ok ([c] ++ text, left) :=
    readBody_skip rfl (by simp [step, ha]) hlast
  have hbehind :
      q.readBody .escape ('u' :: '0' :: '0' :: a :: b :: rest) = .ok ([c] ++ text, left) :=
    readBody_skip rfl rfl (readBody_skip rfl rfl (readBody_skip rfl rfl hthird))
  rw [hcode, List.append_assoc]
  refine readBody_step (closed?_content hrun _) ?_ hbehind
  simp [step, inContent, hdelimiter.symm, hescapes]

/-- How one character may be spelled between quotes. -/
inductive Spelled (multiline : Bool) (c : Char) : List Char → Prop
  /-- By a backslash and a letter that stands for it. -/
  | letter (l : Char) (hl : ∀ q : Quotation, q.inEscape l = some (.content 0, [c])) :
      Spelled multiline c ['\\', l]
  /-- By its code point, within ASCII. -/
  | code (hc : c.toNat < 0x80) : Spelled multiline c ('\\' :: 'u' :: hexCode c.toNat)
  /-- By itself. -/
  | plain (hbackslash : c ≠ '\\') (hc : isPlain c = true ∨ c = '\n' ∧ multiline = true) :
      Spelled multiline c [c]

/-- What is written for a character spells it. -/
theorem spelled_escapeChar (multiline : Bool) (c : Char) :
    Spelled multiline c (escapeChar multiline c) := by
  unfold escapeChar
  split
  · next h =>
    subst h
    exact .letter 'b' fun _ => rfl
  split
  · next h =>
    subst h
    exact .letter 't' fun _ => rfl
  split
  · next h =>
    subst h
    split
    · next hlines => exact .plain (by decide) (.inr ⟨rfl, hlines⟩)
    · exact .letter 'n' fun _ => rfl
  split
  · next h =>
    subst h
    exact .letter 'f' fun _ => rfl
  split
  · next h =>
    subst h
    exact .letter 'r' fun _ => rfl
  split
  · next h =>
    subst h
    exact .letter '\\' fun _ => rfl
  split
  · next hcontrol =>
    simp only [Bool.or_eq_true, decide_eq_true_eq] at hcontrol
    exact .code (by omega)
  · next hbackslash hcontrol =>
    simp only [Bool.or_eq_true, decide_eq_true_eq] at hcontrol
    refine .plain hbackslash (.inl ?_)
    simp only [isPlain, Bool.or_eq_true, Bool.and_eq_true, decide_eq_true_eq, bne_iff_ne]
    omega

/-- A character other than a quote is read from its spelling. -/
theorem Spelled.readBody {cs : List Char} {c : Char} (h : Spelled q.multiline c cs) {run : Nat}
    (hrun : run ≤ q.spare) (hescapes : q.escapes = true) (hquote : q.delimiter = '"')
    (hc : c ≠ '"') {rest text left : List Char}
    (hrest : q.readBody (.content 0) rest = .ok (text, left)) :
    q.readBody (.content run) (cs ++ rest) =
      .ok (List.replicate run q.delimiter ++ [c] ++ text, left) := by
  have hdelimiter : q.delimiter ≠ '\\' := by
    rw [hquote]
    decide
  cases h with
  | letter l hl => exact readBody_escape hrun hescapes hdelimiter (hl q) hrest
  | code hcode => exact readBody_code hrun hescapes hdelimiter hcode hrest
  | plain hbackslash hplain =>
    exact readBody_plain hrun (hquote ▸ hc) hplain (fun _ => hbackslash) hrest

/-- A spelling of a character other than a quote starts with no quote, and with a
line end only for a line feed. -/
theorem Spelled.eq_cons {multiline : Bool} {cs : List Char} {c : Char}
    (h : Spelled multiline c cs) (hc : c ≠ '"') :
    ∃ d ds, cs = d :: ds ∧ d ≠ '"' ∧ d ≠ '\r' ∧ (d = '\n' → c = '\n') := by
  have hescape : '\\' ≠ '"' ∧ '\\' ≠ '\r' ∧ ('\\' = '\n' → c = '\n') :=
    ⟨by decide, by decide, fun h => absurd h (by decide)⟩
  cases h with
  | letter l hl => exact ⟨_, _, rfl, hescape⟩
  | code hcode => exact ⟨_, _, rfl, hescape⟩
  | plain hbackslash hplain =>
    refine ⟨c, [], rfl, hc, ?_, id⟩
    rintro rfl
    rcases hplain with hplain | ⟨hfeed, -⟩
    · exact absurd hplain (by decide)
    · exact absurd hfeed (by decide)

/-- The text between quotes is read back, with the quotes kept back so far in front
of it. Where the quotes so far are all that may stand in a row, the next one is
escaped. -/
theorem readBody_escapeAll (hescapes : q.escapes = true) (hquote : q.delimiter = '"')
    {run left : Nat} (hsum : run + left = q.spare) (cs : List Char) {rest : List Char}
    (hrest : rest.head? ≠ some q.delimiter) :
    q.readBody (.content run) (escapeAll q.multiline q.spare left cs ++
      List.replicate q.closing q.delimiter ++ rest) =
        .ok (List.replicate run q.delimiter ++ cs, rest) := by
  induction cs generalizing run left with
  | nil =>
    rw [escapeAll, List.nil_append, List.append_nil]
    exact readBody_closing (by omega) rfl hrest
  | cons c cs ih =>
    by_cases hc : c = '"'
    · subst hc
      cases left with
      | zero =>
        have hread := readBody_escape (show run ≤ q.spare by omega) hescapes
          (by rw [hquote]; decide) (show q.inEscape '"' = some (.content 0, ['"']) from rfl)
          (ih (Nat.zero_add q.spare))
        simpa [escapeAll] using hread
      | succ left =>
        have hstep : q.step (.content run) '"' = some (.content (run + 1), []) := by
          simp [step, inContent, hquote]
        have hread := readBody_skip (closed?_content (by omega) _) hstep
          (ih (show run + 1 + left = q.spare by omega))
        simpa [escapeAll, hquote, List.replicate_succ'] using hread
    · have hread := (spelled_escapeChar q.multiline c).readBody (show run ≤ q.spare by omega)
        hescapes hquote hc (ih (Nat.zero_add q.spare))
      simpa [escapeAll, hc] using hread

/-- The longest run so far is no longer than the longest one. -/
theorem le_longestRun (mark : Char) (current longest : Nat) (cs : List Char) :
    longest ≤ longestRun mark current longest cs := by
  induction cs generalizing current longest with
  | nil => exact Nat.le_refl longest
  | cons c cs ih =>
    unfold longestRun
    split
    · exact Nat.le_trans (Nat.le_max_left _ _) (ih _ _)
    · exact ih _ _

/-- A text whose runs of delimiters are short is read as it is where nothing is
escaped. -/
theorem readBody_raw (hescapes : q.escapes = false) {run longest : Nat} (hrun : run ≤ q.spare)
    (cs : List Char) (hruns : longestRun q.delimiter run longest cs ≤ q.spare)
    (hplain : ∀ c ∈ cs, c ≠ q.delimiter → isPlain c = true ∨ c = '\n' ∧ q.multiline = true)
    {rest : List Char} (hrest : rest.head? ≠ some q.delimiter) :
    q.readBody (.content run) (cs ++ List.replicate q.closing q.delimiter ++ rest) =
      .ok (List.replicate run q.delimiter ++ cs, rest) := by
  induction cs generalizing run longest with
  | nil =>
    rw [List.nil_append, List.append_nil]
    exact readBody_closing hrun rfl hrest
  | cons c cs ih =>
    have hcs : ∀ d ∈ cs, d ≠ q.delimiter → isPlain d = true ∨ d = '\n' ∧ q.multiline = true :=
      fun d hd => hplain d (List.mem_cons_of_mem c hd)
    unfold longestRun at hruns
    split at hruns
    · next hc =>
      have hnext : run + 1 ≤ q.spare := by
        have hle := le_longestRun q.delimiter (run + 1) (max longest (run + 1)) cs
        omega
      have hstep : q.step (.content run) c = some (.content (run + 1), []) := by
        simp [step, inContent, hc]
      have hread := readBody_skip (closed?_content hrun _) hstep (ih hnext hruns hcs)
      simpa [hc, List.replicate_succ'] using hread
    · next hc =>
      have hread := readBody_plain hrun hc (hplain c List.mem_cons_self hc)
        (fun h => absurd h (by simp [hescapes])) (ih (Nat.zero_le q.spare) hruns hcs)
      simpa using hread

end Quotation

/-- A text may be written between apostrophes on one line only if it has no control
character, no apostrophe and no line feed. -/
theorem Traits.style_literal {t : Traits} (h : t.style = .literal) :
    t.controls = false ∧ t.apostrophes = 0 ∧ t.lines = false := by
  unfold style at h
  repeat' split at h
  all_goals simp_all

/-- A text may be written between three apostrophes only if it has no control
character and no three apostrophes in a row. -/
theorem Traits.style_literalLines {t : Traits} (h : t.style = .literalLines) :
    t.controls = false ∧ t.apostrophes ≤ 2 := by
  unfold style at h
  repeat' split at h
  all_goals simp_all

/-- A character of a text without control characters stands for itself, except a
line feed. -/
theorem isPlain_of_controls {cs : List Char} (h : (Traits.of cs).controls = false) {c : Char}
    (hc : c ∈ cs) : Quotation.isPlain c = true ∨ c = '\n' := by
  have hcontrol : isControl c = false := by
    simp only [Traits.of, List.any_eq_false] at h
    simpa using h c hc
  simp only [isControl, Bool.or_eq_false_iff, Bool.and_eq_false_iff, decide_eq_false_iff_not,
    bne_eq_false_iff_eq, beq_eq_false_iff_ne] at hcontrol
  simp only [Quotation.isPlain, Bool.or_eq_true, Bool.and_eq_true, beq_iff_eq, decide_eq_true_eq,
    bne_iff_ne]
  obtain ⟨(hlarge | htab) | hfeed, hdelete⟩ := hcontrol
  · exact .inl (.inr ⟨by omega, hdelete⟩)
  · exact .inl (.inl htab)
  · exact .inr hfeed

/-- What follows a quoted text starts with no delimiter. -/
def NoDelimiter (rest : List Char) : Prop := rest.head? ≠ some '"' ∧ rest.head? ≠ some '\x27'

namespace Quotation

/-- A quote that no two others follow opens a quotation on one line. -/
theorem read_quote {tail : List Char} (h : ∀ rest, tail ≠ '"' :: '"' :: rest) :
    read ('"' :: tail) = basic.readBody (.content 0) tail := by
  unfold read
  split
  · next heq => exact absurd (List.cons.inj heq).2 (h _)
  · next heq => simp at heq
  · rfl

/-- An apostrophe that no two others follow opens a quotation on one line. -/
theorem read_apostrophe {tail : List Char} (h : ∀ rest, tail ≠ '\x27' :: '\x27' :: rest) :
    read ('\x27' :: tail) = literal.readBody (.content 0) tail := by
  unfold read
  split
  · next heq => simp at heq
  · next heq => exact absurd (List.cons.inj heq).2 (h _)
  · rfl

/-- A text with escapes between quotes is read back. -/
theorem read_basic (cs : List Char) {rest : List Char} (hrest : NoDelimiter rest) :
    read ('"' :: escapeAll false 0 0 cs ++ ['"'] ++ rest) = .ok (cs, rest) := by
  have hread := readBody_escapeAll (q := basic) rfl rfl (Nat.zero_add 0) cs hrest.1
  rw [List.cons_append, List.cons_append, read_quote]
  · exact hread
  · intro tail htail
    cases cs with
    | nil =>
      simp only [escapeAll, List.nil_append, List.singleton_append, List.cons.injEq,
        true_and] at htail
      exact hrest.1 (by rw [htail]; rfl)
    | cons c cs =>
      by_cases hc : c = '"'
      · simp [escapeAll, hc] at htail
      · obtain ⟨d, ds, hd, hquote, -⟩ := (spelled_escapeChar false c).eq_cons hc
        simp [escapeAll, hc, hd, hquote] at htail

/-- A text without control characters, apostrophes and line feeds is read back from
between apostrophes. -/
theorem read_literal {cs : List Char} (hstyle : (Traits.of cs).style = .literal)
    {rest : List Char} (hrest : NoDelimiter rest) :
    read ('\x27' :: cs ++ ['\x27'] ++ rest) = .ok (cs, rest) := by
  obtain ⟨hcontrols, hruns, hlines⟩ := Traits.style_literal hstyle
  have hplain : ∀ c ∈ cs, c ≠ literal.delimiter → isPlain c = true ∨
      c = '\n' ∧ literal.multiline = true := by
    intro c hc _
    rcases isPlain_of_controls hcontrols hc with hplain | rfl
    · exact .inl hplain
    · simp [Traits.of, hc] at hlines
  have hread := readBody_raw (q := literal) rfl (Nat.zero_le _) cs (Nat.le_of_eq hruns) hplain
    hrest.2
  rw [List.cons_append, List.cons_append, read_apostrophe]
  · exact hread
  · intro tail htail
    cases cs with
    | nil =>
      simp only [List.nil_append, List.singleton_append, List.cons.injEq, true_and] at htail
      exact hrest.2 (by rw [htail]; rfl)
    | cons c cs =>
      have hc : c ≠ '\x27' := by
        rintro rfl
        have hle := le_longestRun '\x27' 1 1 cs
        simp [Traits.of, longestRun] at hruns
        omega
      simp [hc] at htail

/-- Nothing is dropped from a text that starts with no line end. -/
theorem dropLineEnd_eq {cs : List Char} (hfeed : cs.head? ≠ some '\n')
    (hreturn : cs.head? ≠ some '\r') : dropLineEnd cs = cs := by
  unfold dropLineEnd
  split
  · simp at hfeed
  · simp at hreturn
  · rfl

/-- The line feed that is written behind three delimiters for a text with lines is
dropped again. -/
theorem dropLineEnd_opening {body : List Char} {lines : Bool}
    (hbody : lines = false → body.head? ≠ some '\n' ∧ body.head? ≠ some '\r') :
    dropLineEnd ((if lines then ['\n'] else []) ++ body) = body := by
  cases lines with
  | true => rfl
  | false =>
    obtain ⟨hfeed, hreturn⟩ := hbody rfl
    exact dropLineEnd_eq hfeed hreturn

end Quotation

/-- Three delimiters open a quotation of several lines, with a line feed behind
them if the text has any. -/
theorem opening_eq (delimiter : List Char) (lines : Bool) :
    opening delimiter lines = delimiter ++ if lines then ['\n'] else [] := by
  cases lines with
  | true => rfl
  | false => exact (List.append_nil delimiter).symm

namespace Quotation

/-- Three quotes open a quotation of several lines with escapes. -/
theorem read_quotes (rest : List Char) :
    read ('"' :: '"' :: '"' :: rest) = basicLines.readBody (.content 0) (dropLineEnd rest) := rfl

/-- Three apostrophes open a quotation of several lines without escapes. -/
theorem read_apostrophes (rest : List Char) :
    read ('\x27' :: '\x27' :: '\x27' :: rest) =
      literalLines.readBody (.content 0) (dropLineEnd rest) := rfl

/-- A text with escapes between three quotes is read back. -/
theorem read_basicLines (cs : List Char) {rest : List Char} (hrest : NoDelimiter rest) :
    read (opening ['"', '"', '"'] (Traits.of cs).lines ++ escapeAll true 2 2 cs ++
      ['"', '"', '"'] ++ rest) = .ok (cs, rest) := by
  have hread := readBody_escapeAll (q := basicLines) rfl rfl (Nat.zero_add 2) cs hrest.1
  rw [opening_eq]
  simp only [List.append_assoc, List.cons_append, List.nil_append] at hread ⊢
  rw [read_quotes, dropLineEnd_opening]
  · exact hread
  · intro hlines
    cases cs with
    | nil => simp [escapeAll]
    | cons c cs =>
      have hfeed : c ≠ '\n' := by
        rintro rfl
        simp [Traits.of] at hlines
      by_cases hc : c = '"'
      · simp [escapeAll, hc]
      · obtain ⟨d, ds, hd, -, hreturn, hsame⟩ := (spelled_escapeChar true c).eq_cons hc
        simp only [escapeAll, if_neg hc, hd, List.cons_append, List.head?_cons, ne_eq,
          Option.some.injEq]
        exact ⟨fun h => hfeed (hsame h), hreturn⟩

/-- A text without control characters and three apostrophes in a row is read back
from between three apostrophes. -/
theorem read_literalLines {cs : List Char} (hstyle : (Traits.of cs).style = .literalLines)
    {rest : List Char} (hrest : NoDelimiter rest) :
    read (opening ['\x27', '\x27', '\x27'] (Traits.of cs).lines ++ cs ++
      ['\x27', '\x27', '\x27'] ++ rest) = .ok (cs, rest) := by
  obtain ⟨hcontrols, hruns⟩ := Traits.style_literalLines hstyle
  have hplain : ∀ c ∈ cs, c ≠ literalLines.delimiter → isPlain c = true ∨
      c = '\n' ∧ literalLines.multiline = true := by
    intro c hc _
    rcases isPlain_of_controls hcontrols hc with hplain | hfeed
    · exact .inl hplain
    · exact .inr ⟨hfeed, rfl⟩
  have hread := readBody_raw (q := literalLines) rfl (Nat.zero_le _) cs hruns hplain hrest.2
  rw [opening_eq]
  simp only [List.append_assoc, List.cons_append, List.nil_append] at hread ⊢
  rw [read_apostrophes, dropLineEnd_opening]
  · exact hread
  · intro hlines
    cases cs with
    | nil => simp
    | cons c cs =>
      have hfeed : c ≠ '\n' := by
        rintro rfl
        simp [Traits.of] at hlines
      have hreturn : c ≠ '\r' := by
        rintro rfl
        rcases isPlain_of_controls hcontrols List.mem_cons_self with hplain | hfeed
        · exact absurd hplain (by decide)
        · exact absurd hfeed (by decide)
      simp [hfeed, hreturn]

/-- Every text is read back from its quotation, in whatever style it is written. -/
theorem read_writeText (cs : List Char) {rest : List Char} (hrest : NoDelimiter rest) :
    read (writeText cs ++ rest) = .ok (cs, rest) := by
  unfold writeText
  simp only
  split
  · exact read_basic cs hrest
  · next hstyle => exact read_literal hstyle hrest
  · exact read_basicLines cs hrest
  · next hstyle => exact read_literalLines hstyle hrest

end Quotation

end FlowWatch.Toml
