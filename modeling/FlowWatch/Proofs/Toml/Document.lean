import FlowWatch.Proofs.Toml.Setting
import FlowWatch.Toml.Document

/-!
# Documents read back

A written document consists of headers and of keys with values, each on a line of
its own, and of empty lines between sections. Reading goes line by line; what a
line does to the document depends on the line and on what has been read, and not
on the bound of the reader, as long as that is not smaller than the text. A
header settles the table under the last one, so that the document grows by whole
sections.
-/

namespace FlowWatch.Toml

open FlowWatch.Text

/-- Whether a name can stand without quotes. -/
def Bare (name : String) : Prop := name.toList ≠ [] ∧ name.toList.all isNameChar = true

/-- Whether a name is bare is decided by its characters. -/
instance (name : String) : Decidable (Bare name) := inferInstanceAs (Decidable (_ ∧ _))

/-- A character of a name is none that no name has. -/
theorem ne_of_isNameChar {c d : Char} (hc : isNameChar c = true) (hd : isNameChar d = false) :
    c ≠ d := by
  rintro rfl
  exact Bool.eq_false_iff.1 hd hc

/-- A character of a name is no blank. -/
theorem isSpace_of_isNameChar {c : Char} (h : isNameChar c = true) : isSpace c = false := by
  rw [isSpace, Bool.or_eq_false_iff, beq_eq_false_iff_ne, beq_eq_false_iff_ne]
  exact ⟨ne_of_isNameChar h (by decide), ne_of_isNameChar h (by decide)⟩

/-- A bare name starts with a character of a name. -/
theorem Bare.eq_cons {name : String} (h : Bare name) :
    ∃ c cs, name.toList = c :: cs ∧ isNameChar c = true := by
  obtain ⟨c, cs, hcs⟩ := List.exists_cons_of_ne_nil h.1
  have hall := h.2
  rw [hcs, List.all_cons, Bool.and_eq_true] at hall
  exact ⟨c, cs, hcs, hall.1⟩

/-! ### Keys -/

/-- A bare name is read up to a character that no name has. -/
theorem readName_bare {name : String} (h : Bare name) {c : Char} (hc : isNameChar c = false)
    (rest : List Char) : readName (name.toList ++ c :: rest) = .ok (name, c :: rest) := by
  obtain ⟨first, tail, htail, hfirst⟩ := h.eq_cons
  have hall : ∀ d ∈ name.toList, isNameChar d = true := List.all_eq_true.1 h.2
  have htake : (name.toList ++ c :: rest).takeWhile isNameChar = name.toList := by
    rw [List.takeWhile_append_of_pos hall, List.takeWhile_cons_of_neg (by simp [hc]),
      List.append_nil]
  have hdrop : (name.toList ++ c :: rest).dropWhile isNameChar = c :: rest := by
    rw [List.dropWhile_append_of_pos hall, List.dropWhile_cons_of_neg (by simp [hc])]
  unfold readName
  split
  · next heq =>
    rw [htail] at heq
    exact absurd (List.cons.inj heq).1 (ne_of_isNameChar hfirst (by decide))
  · next heq =>
    rw [htail] at heq
    exact absurd (List.cons.inj heq).1 (ne_of_isNameChar hfirst (by decide))
  · simp only [htake, hdrop, List.isEmpty_eq_false_iff.2 h.1, Bool.false_eq_true, if_false,
      String.ofList_toList]

/-- A bare name that no dot follows is a key. -/
theorem readKey_bare {name : String} (h : Bare name) {c d : Char} (hc : isNameChar c = false)
    {rest left : List Char} (hskip : skipSpace (c :: rest) = d :: left) (hd : d ≠ '.') :
    readKey (name.toList ++ c :: rest) = .ok (⟨[], name⟩, d :: left) := by
  obtain ⟨first, tail, htail, hfirst⟩ := h.eq_cons
  have hstart : skipSpace (name.toList ++ c :: rest) = name.toList ++ c :: rest := by
    rw [htail]
    exact skipSpace_cons (isSpace_of_isNameChar hfirst) _
  have hnames : ∀ bound, readNames bound (name.toList ++ c :: rest) = .ok ([name], d :: left) := by
    intro bound
    cases bound with
    | zero =>
      rw [readNames, hstart, readName_bare h hc, ok_bind]
      simp only [hskip]
      rfl
    | succ bound =>
      rw [readNames, hstart, readName_bare h hc, ok_bind]
      simp only [hskip]
      split
      · next heq => exact absurd (List.cons.inj heq).1 hd
      · rfl
  unfold readKey
  rw [hnames, ok_bind]
  rfl

/-! ### Entries -/

/-- A line with a key and a value. -/
def entryLine (entry : String × Setting) : List Char :=
  entry.1.toList ++ " = ".toList ++ entry.2.write ++ ['\n']

/-- An entry as a part of a document that is being read. -/
def entryItem (entry : String × Setting) : String × Item := (entry.1, .value entry.2.value)

/-- A key and its value are read up to the end of the line. -/
theorem readPair_entry {entry : String × Setting} (hkey : Bare entry.1) (hfits : entry.2.Fits)
    (depth : Nat) (rest : List Char) :
    readPair (readValue (depth + 1)) (entryLine entry ++ rest) =
      .ok ((⟨[], entry.1⟩, entry.2.value), '\n' :: rest) := by
  obtain ⟨c, tail, htail, hc⟩ := entry.2.write_eq_cons
  have hvalue := readValue_write depth hfits rest
  have hskip : skipSpace (' ' :: (entry.2.write ++ '\n' :: rest)) =
      entry.2.write ++ '\n' :: rest := by
    rw [htail]
    exact skipSpace_cons hc _
  have hequals : skipSpace (' ' :: '=' :: ' ' :: (entry.2.write ++ '\n' :: rest)) =
      '=' :: ' ' :: (entry.2.write ++ '\n' :: rest) := rfl
  have hread := readKey_bare hkey (show isNameChar ' ' = false by decide) hequals (by decide)
  have hline : entryLine entry ++ rest =
      entry.1.toList ++ ' ' :: '=' :: ' ' :: (entry.2.write ++ '\n' :: rest) := by
    rw [entryLine, show " = ".toList = [' ', '=', ' '] from rfl]
    simp only [List.append_assoc, List.cons_append, List.nil_append]
  rw [hline, readPair, hread, ok_bind]
  simp only [expect, if_true, ok_bind, hskip, hvalue]
  rfl

/-- A line end is read as the end of a line. -/
theorem readLineEnd_feed (cause : Cause) (rest : List Char) :
    readLineEnd cause ('\n' :: rest) = .ok rest := rfl

/-- A document with some finished tables and a growing one under a header. -/
def Progress.under (done : List (String × Item)) (name : String)
    (entries : List (String × Item)) : Progress :=
  ⟨⟨.opened, done⟩, ⟨.opened, entries⟩, some ⟨[], name⟩, false⟩

section Lines

variable {done entries : List (String × Item)} {name : String}

/-- A new key is put at the end of the table that grows. -/
theorem Progress.put_new {key : String} (hkey : key ∉ entries.map Prod.fst) (v : Value) :
    (under done name entries).put ⟨[], key⟩ v =
      .ok (under done name (entries ++ [(key, .value v)])) := by
  have hput : ∀ path, putKey .document path ⟨[], key⟩ v ⟨.opened, entries⟩ =
      .ok ⟨.opened, entries ++ [(key, .value v)]⟩ := by
    intro path
    rw [putKey, descend, setNew, if_neg (by simp), lookup_eq_none_iff.2 hkey]
  rw [put, under, hput, ok_bind]
  rfl

/-- A line with a new key and a value adds an entry. -/
theorem Progress.readLine_entry (done : List (String × Item)) (name : String)
    {entry : String × Setting} (hkey : Bare entry.1) (hfits : entry.2.Fits)
    (hname : entry.1 ∉ entries.map Prod.fst) (rest : List Char) :
    (under done name entries).readLine (entryLine entry ++ rest) =
      .ok (under done name (entries ++ [entryItem entry]), rest) := by
  have hpair : readPair (readValue (nestingLimit - 1)) (entryLine entry ++ rest) = _ :=
    readPair_entry hkey hfits 78 rest
  have hentry : (under done name entries).readEntry (entryLine entry ++ rest) =
      .ok (under done name (entries ++ [entryItem entry]), rest) := by
    rw [readEntry, hpair, final_ok, ok_bind]
    simp only
    rw [readLineEnd_feed, ok_bind, put_new hname]
    rfl
  obtain ⟨c, tail, htail, hc⟩ := hkey.eq_cons
  have hcons : entryLine entry ++ rest =
      c :: (tail ++ " = ".toList ++ entry.2.write ++ ['\n'] ++ rest) := by
    rw [entryLine, htail]
    rfl
  rw [hcons] at hentry ⊢
  unfold readLine
  split
  · next heq => cases heq
  · next heq => exact absurd (List.cons.inj heq).1 (ne_of_isNameChar hc (by decide))
  · next heq => exact absurd (List.cons.inj heq).1 (ne_of_isNameChar hc (by decide))
  · next heq => exact absurd (List.cons.inj heq).1 (ne_of_isNameChar hc (by decide))
  · next heq => exact absurd (List.cons.inj heq).1 (ne_of_isNameChar hc (by decide))
  · next heq => exact absurd (List.cons.inj heq).1 (ne_of_isNameChar hc (by decide))
  · exact hentry

/-! ### Headers -/

/-- A line with a header. -/
def headerLine (name : String) : List Char := '[' :: name.toList ++ [']', '\n']

/-- A header with a new name opens a table behind the finished ones. -/
theorem Progress.openTable_new {p : Progress} (hsettle : p.settle = .ok ⟨.opened, done⟩)
    (hname : name ∉ done.map Prod.fst) : p.openTable ⟨[], name⟩ = .ok (under done name []) := by
  have hkeep : done.filter (·.1 != name) = done := by
    rw [List.filter_eq_self]
    intro entry hentry
    rw [bne_iff_ne]
    rintro rfl
    exact hname (List.mem_map_of_mem hentry)
  have hdrop : underHeader ⟨[], name⟩ (fun t => .ok (t.drop name)) ⟨.opened, done⟩ =
      .ok ⟨.opened, done⟩ := by
    rw [underHeader, descend, OpenTable.drop, hkeep]
  have hfree : entryAt? [] name ⟨.opened, done⟩ = none := lookup_eq_none_iff.2 hname
  rw [openTable, hsettle, ok_bind, hdrop, ok_bind, hfree]
  rfl

/-- A line with a header of a new name opens its table. -/
theorem Progress.readLine_header {p : Progress} (hsettle : p.settle = .ok ⟨.opened, done⟩)
    (hbare : Bare name) (hname : name ∉ done.map Prod.fst) (rest : List Char) :
    p.readLine (headerLine name ++ rest) = .ok (under done name [], rest) := by
  obtain ⟨c, tail, htail, hc⟩ := hbare.eq_cons
  have hkey := readKey_bare hbare (show isNameChar ']' = false by decide)
    (skipSpace_cons (show isSpace ']' = false by decide) ('\n' :: rest)) (by decide)
  have hcons : headerLine name ++ rest = '[' :: (name.toList ++ ']' :: '\n' :: rest) := by
    rw [headerLine]
    simp only [List.append_assoc, List.cons_append, List.nil_append]
  rw [hcons, readLine]
  rw [htail, List.cons_append] at hkey ⊢
  unfold readHeader
  split
  · next heq =>
    exact absurd (List.cons.inj (List.cons.inj heq).2).1 (ne_of_isNameChar hc (by decide))
  · next heq =>
    obtain ⟨rfl, rfl⟩ := List.cons.inj (List.cons.inj heq).2
    rw [hkey, final_ok, ok_bind]
    simp only
    rw [readLineEnd_feed, ok_bind, openTable_new hsettle hname]
    rfl
  · next heq => exact absurd rfl (heq _ _)

/-- The growing table is put behind the finished ones if its name is new. -/
theorem Progress.settle_under (hname : name ∉ done.map Prod.fst) :
    (under done name entries).settle = .ok ⟨.opened, done ++ [(name, .table .opened entries)]⟩ := by
  simp only [settle, under, underHeader, descend, place, lookup_eq_none_iff.2 hname]

end Lines

/-! ### Ways through a document -/

/-- The reader gets from one place of a document to another, whatever its bound is,
as long as that covers the text. -/
def Leads (p : Progress) (cs : List Char) (next : Progress) (rest : List Char) : Prop :=
  ∀ bound, cs.length ≤ bound →
    ∃ left, rest.length ≤ left ∧ readLines bound p cs = readLines left next rest

namespace Leads

variable {p q r : Progress} {cs ds rest : List Char}

/-- Nothing needs to be read to stay where one is. -/
theorem refl (p : Progress) (cs : List Char) : Leads p cs p cs :=
  fun bound hbound => ⟨bound, hbound, rfl⟩

/-- Ways are put together. -/
theorem trans (hfirst : Leads p cs q ds) (hsecond : Leads q ds r rest) : Leads p cs r rest := by
  intro bound hbound
  obtain ⟨middle, hmiddle, hq⟩ := hfirst bound hbound
  obtain ⟨left, hleft, hr⟩ := hsecond middle hmiddle
  exact ⟨left, hleft, hq.trans hr⟩

/-- A line leads to what it makes of the document. -/
theorem of_readLine {c : Char} (hspace : isSpace c = false)
    (hline : p.readLine (c :: cs) = .ok (q, rest)) (hrest : rest.length ≤ cs.length) :
    Leads p (c :: cs) q rest := by
  intro bound hbound
  rw [List.length_cons] at hbound
  obtain ⟨left, rfl⟩ := Nat.exists_eq_add_of_lt hbound
  refine ⟨cs.length + left, by omega, ?_⟩
  rw [readLines, skipSpace_cons hspace]
  simp only [hline, ok_bind]

/-- A text that leads to the end of the document is read with any bound. -/
theorem readLines (h : Leads p cs q []) : readLines cs.length p cs = .ok q := by
  obtain ⟨left, -, hread⟩ := h cs.length (Nat.le_refl _)
  rw [hread]
  cases left with
  | zero => rfl
  | succ left => rfl

end Leads

/-- An empty line changes nothing. -/
theorem leads_feed (p : Progress) (rest : List Char) : Leads p ('\n' :: rest) p rest :=
  Leads.of_readLine (by decide) rfl (Nat.le_refl _)

/-- Lines with new keys add their entries in order. -/
theorem leads_entries {settings : List (String × Setting)} (hkeys : ∀ e ∈ settings, Bare e.1)
    (hfits : ∀ e ∈ settings, e.2.Fits) (done : List (String × Item)) (name : String)
    {entries : List (String × Item)}
    (hdistinct : (entries.map Prod.fst ++ settings.map Prod.fst).Nodup) (rest : List Char) :
    Leads (.under done name entries) (settings.flatMap entryLine ++ rest)
      (.under done name (entries ++ settings.map entryItem)) rest := by
  induction settings generalizing entries with
  | nil =>
    rw [List.map_nil, List.append_nil]
    exact Leads.refl _ rest
  | cons entry settings ih =>
    have hnew : entry.1 ∉ entries.map Prod.fst := by
      intro hmem
      rw [List.nodup_append] at hdistinct
      exact hdistinct.2.2 _ hmem _ List.mem_cons_self rfl
    have hkey := hkeys entry List.mem_cons_self
    have hline : Leads (.under done name entries)
        (entryLine entry ++ (settings.flatMap entryLine ++ rest))
        (.under done name (entries ++ [entryItem entry])) (settings.flatMap entryLine ++ rest) := by
      have hread := Progress.readLine_entry done name hkey (hfits entry List.mem_cons_self) hnew
        (settings.flatMap entryLine ++ rest)
      obtain ⟨c, tail, htail, hc⟩ := hkey.eq_cons
      rw [entryLine, htail, List.cons_append, List.cons_append, List.cons_append,
        List.cons_append] at hread ⊢
      refine Leads.of_readLine (isSpace_of_isNameChar hc) hread ?_
      simp only [List.length_append]
      omega
    have hmore := ih (fun e he => hkeys e (List.mem_cons_of_mem entry he))
      (fun e he => hfits e (List.mem_cons_of_mem entry he))
      (show ((entries ++ [entryItem entry]).map Prod.fst ++ settings.map Prod.fst).Nodup by
        simpa [entryItem] using hdistinct)
    rw [List.flatMap_cons, List.append_assoc]
    have hall := hline.trans hmore
    rwa [List.append_assoc] at hall

/-! ### Sections -/

namespace Section

/-- A section that can be read: its names are bare, its values fit, and no key stands
twice. -/
structure WellFormed (s : Section) : Prop where
  /-- The name can stand in a header. -/
  bare : Bare s.name
  /-- The keys can stand without quotes. -/
  keys : ∀ e ∈ s.settings, Bare e.1
  /-- The values can be read. -/
  fits : ∀ e ∈ s.settings, e.2.Fits
  /-- The keys are different. -/
  distinct : (s.settings.map Prod.fst).Nodup

/-- A section as a part of a document that is being read. -/
def item (s : Section) : String × Item := (s.name, .table .opened (s.settings.map entryItem))

/-- The table that a section stands for. -/
def value (s : Section) : String × Value :=
  (s.name, .table (s.settings.map fun e => (e.1, e.2.value)))

/-- A section is written as its header and its entries. -/
theorem write_eq (s : Section) : s.write = headerLine s.name ++ s.settings.flatMap entryLine := rfl

end Section

/-- A section with a new name is put behind the finished ones. -/
theorem leads_section {s : Section} (hs : s.WellFormed) {p : Progress}
    {done : List (String × Item)} (hsettle : p.settle = .ok ⟨.opened, done⟩)
    (hname : s.name ∉ done.map Prod.fst) (rest : List Char) :
    ∃ q, Leads p (s.write ++ rest) q rest ∧ q.settle = .ok ⟨.opened, done ++ [s.item]⟩ := by
  have hheader : Leads p (headerLine s.name ++ (s.settings.flatMap entryLine ++ rest))
      (.under done s.name []) (s.settings.flatMap entryLine ++ rest) := by
    have hread :=
      Progress.readLine_header hsettle hs.bare hname (s.settings.flatMap entryLine ++ rest)
    rw [headerLine, List.cons_append, List.cons_append] at hread ⊢
    refine Leads.of_readLine (by decide) hread ?_
    simp only [List.length_append]
    omega
  have hentries := leads_entries hs.keys hs.fits done s.name
    (show ([].map Prod.fst ++ s.settings.map Prod.fst).Nodup from hs.distinct) rest
  refine ⟨.under done s.name (s.settings.map entryItem), ?_, Progress.settle_under hname⟩
  rw [Section.write_eq, List.append_assoc]
  exact hheader.trans hentries

/-- Sections with different names are put behind the finished ones in order. -/
theorem leads_sections {ss : List Section} (hss : ∀ s ∈ ss, s.WellFormed) {p : Progress}
    {done : List (String × Item)} (hsettle : p.settle = .ok ⟨.opened, done⟩)
    (hdistinct : (done.map Prod.fst ++ ss.map Section.name).Nodup) :
    ∃ q, Leads p (writeSections ss) q [] ∧
      q.settle = .ok ⟨.opened, done ++ ss.map Section.item⟩ := by
  induction ss generalizing p done with
  | nil =>
    rw [List.map_nil, List.append_nil]
    exact ⟨p, Leads.refl p [], hsettle⟩
  | cons s ss ih =>
    have hs := hss s List.mem_cons_self
    have hnew : s.name ∉ done.map Prod.fst := by
      intro hmem
      rw [List.nodup_append] at hdistinct
      exact hdistinct.2.2 _ hmem _ List.mem_cons_self rfl
    cases ss with
    | nil =>
      have hsection := leads_section hs hsettle hnew []
      rwa [List.append_nil] at hsection
    | cons next ss =>
      obtain ⟨q, hfirst, hq⟩ := leads_section hs hsettle hnew ('\n' :: writeSections (next :: ss))
      obtain ⟨r, hrest, hr⟩ := ih (fun t ht => hss t (List.mem_cons_of_mem s ht)) hq
        (by simpa [Section.item] using hdistinct)
      refine ⟨r, hfirst.trans ((leads_feed q _).trans hrest), ?_⟩
      rw [hr, List.append_assoc]
      rfl

/-- A finished table of values is a table of these values. -/
theorem freezeEntries_entryItem (settings : List (String × Setting)) :
    freezeEntries (settings.map entryItem) = settings.map fun e => (e.1, e.2.value) := by
  induction settings with
  | nil => rfl
  | cons e settings ih =>
    rw [List.map_cons, entryItem, freezeEntries, ih, Item.freeze]
    rfl

/-- A finished document of sections is a table of their tables. -/
theorem freezeEntries_item (ss : List Section) :
    freezeEntries (ss.map Section.item) = ss.map Section.value := by
  induction ss with
  | nil => rfl
  | cons s ss ih =>
    rw [List.map_cons, Section.item, freezeEntries, ih, Item.freeze, freezeEntries_entryItem]
    rfl

/-- A document of sections is read back. -/
theorem read_writeSections {ss : List Section} (hss : ∀ s ∈ ss, s.WellFormed)
    (hdistinct : (ss.map Section.name).Nodup) :
    read (String.ofList (writeSections ss)) = .ok (ss.map Section.value) := by
  have hstart : Progress.start.settle = .ok ⟨.opened, []⟩ := rfl
  obtain ⟨q, hleads, hsettle⟩ := leads_sections hss hstart hdistinct
  have hmark : dropByteOrderMark (writeSections ss) = writeSections ss := by
    match ss with
    | [] => rfl
    | [_] => rfl
    | _ :: _ :: _ => rfl
  unfold read
  rw [String.toList_ofList, hmark]
  simp only [hleads.readLines, ok_bind, hsettle]
  rw [← freezeEntries_item]
  rfl

end FlowWatch.Toml
