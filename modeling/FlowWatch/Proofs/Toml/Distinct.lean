import FlowWatch.Proofs.Result
import FlowWatch.Toml.Document

/-!
# No name twice

While a document is read, an entry is added to a table only after its name was looked up
there in vain, or it takes the place of the entry of that name. So no table within a
document has two entries of one name, whether it was made by headers, by dotted keys or as
an inline table, and however deep it lies.
-/

namespace FlowWatch.Toml

/-- What is read in an attempt has the property if anything is read. -/
theorem ensures_attempt {α : Type} {P : α → Prop} {x : Except Fault α} (hx : Ensures P x) :
    Ensures (fun found => ∀ a, found = some a → P a) (attempt x) := by
  cases x with
  | error f =>
    unfold attempt
    dsimp only
    split
    · exact Ensures.error f
    · exact Ensures.ok fun a ha => nomatch ha
  | ok a =>
    refine Ensures.ok fun b hb => ?_
    cases hb
    exact hx a rfl

/-! ### Entries with different names -/

section Entries

variable {α : Type} {P : α → Prop} {entries : List (String × α)} {name : String} {a : α}

/-- The names of entries are different, and what stands under them has a property. -/
structure Named (P : α → Prop) (entries : List (String × α)) : Prop where
  /-- The names are different. -/
  names : (entries.map Prod.fst).Nodup
  /-- What stands under the names has the property. -/
  items : ∀ e ∈ entries, P e.2

/-- Without entries there is nothing to tell apart. -/
theorem named_nil : Named P [] := ⟨List.nodup_nil, List.forall_mem_nil _⟩

/-- What is looked up has the property. -/
theorem Named.of_lookup (h : Named P entries) (hname : lookup entries name = some a) : P a :=
  h.items (name, a) (mem_of_lookup hname)

/-- An entry with a new name is added at the end. -/
theorem Named.append (h : Named P entries) (hname : lookup entries name = none) (ha : P a) :
    Named P (entries ++ [(name, a)]) := by
  refine ⟨?_, fun e he => ?_⟩
  · rw [List.map_append, List.nodup_append]
    refine ⟨h.names, by simp, fun x hx y hy => ?_⟩
    rintro rfl
    rw [List.map_singleton, List.mem_singleton] at hy
    rw [hy] at hx
    exact lookup_eq_none_iff.1 hname hx
  · rcases List.mem_append.1 he with hold | hnew
    · exact h.items e hold
    · rw [List.mem_singleton.1 hnew]
      exact ha

/-- Some of the entries have different names as well. -/
theorem Named.filter (h : Named P entries) (keep : String × α → Bool) :
    Named P (entries.filter keep) :=
  ⟨h.names.sublist (List.filter_sublist.map Prod.fst),
    fun e he => h.items e (List.mem_filter.1 he).1⟩

/-- An entry is set in its place or at the end. -/
theorem Named.setEntry (h : Named P entries) (ha : P a) : Named P (setEntry entries name a) := by
  unfold Toml.setEntry
  split
  · refine ⟨?_, fun e he => ?_⟩
    · have hnames : (entries.map fun e => if e.1 == name then (name, a) else e).map Prod.fst =
          entries.map Prod.fst := by
        rw [List.map_map]
        refine List.map_congr_left fun e _ => ?_
        rw [Function.comp_apply]
        split
        · next heq => exact (beq_iff_eq.1 heq).symm
        · rfl
      rw [hnames]
      exact h.names
    · obtain ⟨old, hold, rfl⟩ := List.mem_map.1 he
      split
      · exact ha
      · exact h.items old hold
  · next habsent =>
    refine h.append ?_ ha
    rw [lookup_eq_none_iff, List.mem_map]
    rintro ⟨e, he, rfl⟩
    exact habsent (List.any_eq_true.2 ⟨e, he, beq_self_eq_true e.1⟩)

end Entries

/-! ### Values -/

/-- No table within a value has two entries of one name. -/
inductive Value.Distinct : Value → Prop
  | text (s : String) : Distinct (.text s)
  | integer (i : Int) : Distinct (.integer i)
  | real (x : Binary64) : Distinct (.real x)
  | truth (b : Bool) : Distinct (.truth b)
  | dateTime : Distinct .dateTime
  | array {items : List Value} (hitems : ∀ v ∈ items, v.Distinct) : Distinct (.array items)
  | rows {tables : List Value} (htables : ∀ v ∈ tables, v.Distinct) : Distinct (.rows tables)
  | table {entries : List (String × Value)} (hnames : (entries.map Prod.fst).Nodup)
      (hvalues : ∀ e ∈ entries, e.2.Distinct) : Distinct (.table entries)

/-- No table within an item has two entries of one name. -/
inductive Item.Distinct : Item → Prop
  | value {v : Value} (hv : v.Distinct) : Distinct (.value v)
  | table {kind : TableKind} {entries : List (String × Item)}
      (hnames : (entries.map Prod.fst).Nodup) (hitems : ∀ e ∈ entries, e.2.Distinct) :
      Distinct (.table kind entries)
  | rows {rows : List (List (String × Item))} (hnames : ∀ row ∈ rows, (row.map Prod.fst).Nodup)
      (hitems : ∀ row ∈ rows, ∀ e ∈ row, e.2.Distinct) : Distinct (.rows rows)

/-- A table that grows has different names. -/
def OpenTable.Distinct (t : OpenTable) : Prop := Named Item.Distinct t.entries

/-- The entries of a table item have different names. -/
theorem Item.Distinct.named {kind : TableKind} {entries : List (String × Item)}
    (h : (Item.table kind entries).Distinct) : Named Item.Distinct entries := by
  cases h with
  | table hnames hitems => exact ⟨hnames, hitems⟩

/-- The last row of an array of tables has different names, as have the entries of no row. -/
theorem Item.Distinct.last {rows : List (List (String × Item))} (h : (Item.rows rows).Distinct) :
    Named Item.Distinct (rows.getLast?.getD []) := by
  cases h with
  | rows hnames hitems =>
    cases hlast : rows.getLast? with
    | none => exact named_nil
    | some row =>
      have hmem := List.mem_of_getLast? hlast
      exact ⟨hnames row hmem, hitems row hmem⟩

/-- Rows followed by one with different names are an array of tables. -/
theorem Item.Distinct.append {rows kept : List (List (String × Item))}
    (h : (Item.rows rows).Distinct) (hkept : ∀ row ∈ kept, row ∈ rows)
    {entries : List (String × Item)} (hentries : Named Item.Distinct entries) :
    (Item.rows (kept ++ [entries])).Distinct := by
  cases h with
  | rows hnames hitems =>
    refine .rows (fun row hrow => ?_) fun row hrow => ?_
    · rcases List.mem_append.1 hrow with hold | hnew
      · exact hnames row (hkept row hold)
      · rw [List.mem_singleton.1 hnew]
        exact hentries.names
    · rcases List.mem_append.1 hrow with hold | hnew
      · exact hitems row (hkept row hold)
      · rw [List.mem_singleton.1 hnew]
        exact hentries.items

/-! ### Tables that grow -/

/-- In an empty table no name is there twice. -/
theorem distinct_empty (kind : TableKind) : OpenTable.Distinct ⟨kind, []⟩ := named_nil

/-- A table that has grown is an item. -/
theorem OpenTable.Distinct.item {t : OpenTable} (h : t.Distinct) (kind : TableKind) :
    (Item.table kind t.entries).Distinct :=
  .table h.names h.items

/-- If a change gives a table in which no name is there twice, it does so at the
end of a path. The way goes through a new table, a table, or the last table of an
array. -/
theorem descend_distinct (s : Surroundings) (made : TableKind)
    {change : OpenTable → Except Reason OpenTable}
    (hchange : ∀ t, t.Distinct → Ensures OpenTable.Distinct (change t)) (path : List String)
    (way : List String) {t : OpenTable} (ht : t.Distinct) :
    Ensures OpenTable.Distinct (descend s made way change path t) := by
  induction path generalizing way t with
  | nil => exact hchange t ht
  | cons name path ih =>
    have hset {item : Item} (hitem : item.Distinct) :
        Ensures (ε := Reason) OpenTable.Distinct
          (pure ⟨t.kind, setEntry t.entries name item⟩) :=
      Ensures.ok (Named.setEntry ht hitem)
    rw [descend]
    split
    · refine Ensures.bind (ih _ (distinct_empty made)) fun inner hinner => ?_
      exact hset (hinner.item inner.kind)
    · next kind entries hname =>
      split
      · exact Ensures.error _
      · have hentries : OpenTable.Distinct ⟨kind, entries⟩ := (Named.of_lookup ht hname).named
        refine Ensures.bind (ih _ hentries) fun inner hinner => ?_
        exact hset (hinner.item inner.kind)
    · next rows hname =>
      have hrows : (Item.rows rows).Distinct := Named.of_lookup ht hname
      refine Ensures.bind (ih _ hrows.last) fun inner hinner => ?_
      exact hset (hrows.append (fun _ hrow => (List.dropLast_sublist rows).mem hrow) hinner)
    · exact Ensures.error _

/-- A new key gets a name that no other has. -/
theorem setNew_distinct (table : Option (List String)) (reachedByDots : Bool) (name : String)
    {v : Value} (hv : v.Distinct) {t : OpenTable} (ht : t.Distinct) :
    Ensures OpenTable.Distinct (setNew table reachedByDots name v t) := by
  unfold setNew
  split
  · exact Ensures.error _
  · split
    · exact Ensures.error _
    · next hname => exact Ensures.ok (Named.append ht hname (.value hv))

/-- A key is put in a table without a name there twice. -/
theorem putKey_distinct (s : Surroundings) (table : Option (List String)) (key : Key) {v : Value}
    (hv : v.Distinct) {t : OpenTable} (ht : t.Distinct) :
    Ensures OpenTable.Distinct (putKey s table key v t) :=
  descend_distinct s .dotted (fun _ hinner => setNew_distinct table _ key.name hv hinner) key.path
    [] ht

/-! ### Values that are read -/

/-- In no value that is read a name is there twice. -/
def DistinctReader (reader : Reader Value) : Prop :=
  ∀ cs, Ensures (fun found => found.1.Distinct) (reader cs)

/-- A whole number has no names. -/
theorem integer?_distinct (i : Int) : Ensures Value.Distinct (integer? i) := by
  unfold integer?
  split
  · exact Ensures.error _
  · split
    · exact Ensures.error _
    · exact Ensures.ok (.integer i)

/-- A floating-point number has no names. -/
theorem real?_distinct (text : List Char) : Ensures Value.Distinct (real? text) := by
  unfold real?
  split
  · exact Ensures.error _
  · exact Ensures.error _
  · exact Ensures.ok (.real _)

/-- A word in place of a number has no names. -/
theorem readWord?_distinct {cs : List Char} {found : Value × List Char}
    (h : readWord? cs = some found) : found.1.Distinct := by
  unfold readWord? at h
  dsimp only at h
  split at h
  · cases h
    exact .real _
  · cases h
    exact .real _
  · cases h

/-- A number that ends somewhere has no names. -/
theorem finish_distinct (text rest : List Char) {value : Except Cause Value}
    (h : Ensures Value.Distinct value) :
    Ensures (fun found : Value × List Char => found.1.Distinct)
      (do pure (← finish text value, rest)) :=
  Ensures.bind (h.mapError (Fault.final text)) fun _ hv => Ensures.ok hv

/-- A number has no names. -/
theorem distinctReader_readNumber : DistinctReader readNumber := by
  have hbased (construct : Construct) (base : Nat) (isDigit : Char → Bool) :
      DistinctReader (readBased construct base isDigit) := fun cs =>
    Ensures.after fun digits => finish_distinct cs digits.2 (integer?_distinct _)
  have hplain : DistinctReader readPlain := by
    intro cs
    refine Ensures.after fun whole => Ensures.after fun fraction => Ensures.after fun exponent => ?_
    dsimp only
    split
    · exact finish_distinct cs exponent.2 (integer?_distinct _)
    · exact finish_distinct cs exponent.2 (real?_distinct _)
  intro cs
  unfold readNumber
  split
  · exact hbased _ _ _ _
  · exact hbased _ _ _ _
  · exact hbased _ _ _ _
  · split
    · next result hresult => exact Ensures.ok (readWord?_distinct hresult)
    · exact hplain _

/-- A date-time has no names. -/
theorem readDateTime?_distinct {cs : List Char} {result : Except Fault (Value × List Char)}
    (h : readDateTime? cs = some result) :
    Ensures (fun found => found.1.Distinct) result := by
  unfold readDateTime? at h
  split at h
  · cases h
    refine Ensures.mapError (Ensures.after fun day => Ensures.after fun clock => ?_) _
    exact Ensures.ok .dateTime
  · obtain ⟨minute, -, rfl⟩ := Option.map_eq_some_iff.1 h
    refine Ensures.mapError (Ensures.after fun seconds => ?_) _
    exact Ensures.ok .dateTime

/-- A value that contains no other has no names. -/
theorem distinctReader_readScalar : DistinctReader readScalar := by
  intro cs
  unfold readScalar
  split
  · exact Ensures.error _
  · dsimp only
    split
    · exact Ensures.map (P := fun _ => True) (fun _ _ => trivial) fun found _ => .text _
    · split
      · next c rest _ _ =>
        cases hdate : readDateTime? (c :: rest) with
        | none => exact distinctReader_readNumber (c :: rest)
        | some result => exact readDateTime?_distinct hdate
      · split
        · exact Ensures.error _
        · split
          · exact Ensures.error _
          · split
            · exact Ensures.ok (.truth true)
            · exact Ensures.ok (.truth false)
            · split
              · next result hresult => exact Ensures.ok (readWord?_distinct hresult)
              · exact Ensures.error _

section Nested

variable {member : Reader Value}

/-- The members of an array are read one by one. -/
theorem readMembers_distinct (hmember : DistinctReader member) (bound : Nat) (cs : List Char) :
    Ensures (fun found => ∀ v ∈ found.1, v.Distinct) (readMembers member bound cs) := by
  induction bound generalizing cs with
  | zero => exact Ensures.ok (List.forall_mem_nil _)
  | succ bound ih =>
    have hfirst : Ensures (fun found => found.1.Distinct) (readMember member cs) :=
      Ensures.after fun between => Ensures.bind (hmember between) fun found hv =>
        Ensures.after fun _ => Ensures.ok hv
    rw [readMembers]
    refine Ensures.bind (ensures_attempt hfirst) fun found hfound => ?_
    split
    · next v rest =>
      have hv : v.Distinct := hfound _ rfl
      refine Ensures.bind (ih rest) fun others hothers => ?_
      exact Ensures.ok (List.forall_mem_cons.2 ⟨hv, hothers⟩)
    · next v rest _ =>
      have hv : v.Distinct := hfound _ rfl
      exact Ensures.ok (List.forall_mem_singleton.2 hv)
    · exact Ensures.ok (List.forall_mem_nil _)

/-- An array is read by its members. -/
theorem distinctReader_readArray (hmember : DistinctReader member) :
    DistinctReader (readArray member) := fun cs =>
  Ensures.bind (readMembers_distinct hmember _ cs) fun _ hitems =>
    Ensures.after fun _ => Ensures.after fun _ => Ensures.ok (.array hitems)

/-- The value of a key is read behind it. -/
theorem readPair_distinct (hmember : DistinctReader member) (cs : List Char) :
    Ensures (fun found => found.1.2.Distinct) (readPair member cs) := by
  refine Ensures.after fun key => Ensures.mapError ?_ _
  refine Ensures.after fun behind => Ensures.bind (hmember _) fun found hv => ?_
  exact Ensures.ok hv

/-- The values of an inline table are read one by one. -/
theorem readPairs_distinct (hmember : DistinctReader member) (bound : Nat) (cs : List Char) :
    Ensures (fun found => ∀ pair ∈ found.1, pair.2.Distinct) (readPairs member bound cs) := by
  induction bound generalizing cs with
  | zero => exact Ensures.ok (List.forall_mem_nil _)
  | succ bound ih =>
    rw [readPairs]
    refine Ensures.bind (ensures_attempt (readPair_distinct hmember cs)) fun found hfound => ?_
    split
    · exact Ensures.ok (List.forall_mem_nil _)
    · next pair rest =>
      have hpair : pair.2.Distinct := hfound _ rfl
      split
      · next behind _ =>
        refine Ensures.bind (ih behind) fun others hothers => ?_
        split
        · exact Ensures.ok (List.forall_mem_singleton.2 hpair)
        · exact Ensures.ok (List.forall_mem_cons.2 ⟨hpair, hothers⟩)
      · exact Ensures.ok (List.forall_mem_singleton.2 hpair)

/-- The pairs of an inline table are put into it one by one. -/
theorem tableOf_distinct {pairs : List (Key × Value)} (h : ∀ pair ∈ pairs, pair.2.Distinct) :
    Ensures OpenTable.Distinct (tableOf pairs) :=
  Ensures.foldlM (fun _ ht pair hpair => putKey_distinct .inline none pair.1 (h pair hpair) ht)
    (distinct_empty .opened)

end Nested

/-! ### Finished values -/

/-- Entries are finished one by one. -/
theorem freezeEntries_eq_map (entries : List (String × Item)) :
    freezeEntries entries = entries.map fun e => (e.1, e.2.freeze) := by
  induction entries with
  | nil => rfl
  | cons e entries ih => rw [freezeEntries, ih, List.map_cons]

/-- Rows are finished one by one. -/
theorem freezeRows_eq_map (rows : List (List (String × Item))) :
    freezeRows rows = rows.map fun row => .table (freezeEntries row) := by
  induction rows with
  | nil => rfl
  | cons row rows ih => rw [freezeRows, ih, List.map_cons]

/-- The names of finished entries are those of the entries. -/
theorem names_freezeEntries (entries : List (String × Item)) :
    (freezeEntries entries).map Prod.fst = entries.map Prod.fst := by
  rw [freezeEntries_eq_map, List.map_map]
  rfl

/-- A finished item is a value in which no name is there twice. -/
theorem Item.Distinct.freeze {item : Item} (h : item.Distinct) : item.freeze.Distinct := by
  have hrow (row : List (String × Item)) (hnames : (row.map Prod.fst).Nodup)
      (hrow : ∀ e ∈ row, e.2.freeze.Distinct) : (Value.table (freezeEntries row)).Distinct := by
    refine .table (by rwa [names_freezeEntries]) fun e he => ?_
    rw [freezeEntries_eq_map] at he
    obtain ⟨old, hold, rfl⟩ := List.mem_map.1 he
    exact hrow old hold
  induction h with
  | value hv =>
    rw [Item.freeze]
    exact hv
  | table hnames _ ih =>
    rw [Item.freeze]
    exact hrow _ hnames ih
  | rows hnames _ ih =>
    rw [Item.freeze]
    refine .rows fun v hv => ?_
    rw [freezeRows_eq_map] at hv
    obtain ⟨row, hmem, rfl⟩ := List.mem_map.1 hv
    exact hrow row (hnames row hmem) (ih row hmem)

/-- A finished table has different names, and so have the tables in it. -/
theorem OpenTable.Distinct.freeze {t : OpenTable} (h : t.Distinct) :
    Named Value.Distinct (freezeEntries t.entries) := by
  refine ⟨by rw [names_freezeEntries]; exact h.names, fun e he => ?_⟩
  rw [freezeEntries_eq_map] at he
  obtain ⟨old, hold, rfl⟩ := List.mem_map.1 he
  exact (h.items old hold).freeze

/-- An inline table is read by its pairs. -/
theorem distinctReader_readInline {member : Reader Value} (hmember : DistinctReader member) :
    DistinctReader (readInline member) := fun cs =>
  Ensures.bind (readPairs_distinct hmember _ cs) fun _ hpairs =>
    Ensures.bind ((tableOf_distinct hpairs).mapError _) fun _ ht =>
      Ensures.after fun _ => Ensures.ok (.table ht.freeze.names ht.freeze.items)

/-- Values are read by their parts. -/
theorem distinctReader_readValue (depth : Nat) : DistinctReader (readValue depth) := by
  induction depth with
  | zero =>
    intro cs
    unfold readValue
    split
    · exact Ensures.error _
    · exact Ensures.error _
    · contradiction
    · contradiction
    · exact distinctReader_readScalar _
  | succ depth ih =>
    intro cs
    unfold readValue
    split
    · contradiction
    · contradiction
    · next rest heq =>
      cases heq
      exact distinctReader_readArray ih rest
    · next rest heq =>
      cases heq
      exact distinctReader_readInline ih rest
    · exact distinctReader_readScalar _

/-! ### Lines and documents -/

/-- Both parts of a document that is being read have different names. -/
structure Progress.Distinct (p : Progress) : Prop where
  /-- The finished part. -/
  root : p.root.Distinct
  /-- The table that grows. -/
  current : p.current.Distinct

/-- What a header changes leaves different names, if the change does. -/
theorem underHeader_distinct (key : Key) {change : OpenTable → Except Reason OpenTable}
    (hchange : ∀ t, t.Distinct → Ensures OpenTable.Distinct (change t)) {t : OpenTable}
    (ht : t.Distinct) : Ensures OpenTable.Distinct (underHeader key change t) :=
  descend_distinct .document .passed hchange key.path [] ht

/-- The growing table is put under a name that is free, or becomes a row. -/
theorem place_distinct (isRow : Bool) (key : Key) {grown t : OpenTable} (hgrown : grown.Distinct)
    (ht : t.Distinct) : Ensures OpenTable.Distinct (place isRow key grown t) := by
  unfold place
  split
  · next hname =>
    have hempty : (Item.rows []).Distinct :=
      .rows (List.forall_mem_nil _) (List.forall_mem_nil _)
    exact Ensures.ok (Named.append ht hname (hempty.append (List.forall_mem_nil _) hgrown))
  · next rows hname =>
    have hrows : (Item.rows rows).Distinct := Named.of_lookup ht hname
    exact Ensures.ok (Named.setEntry ht (hrows.append (fun _ hrow => hrow) hgrown))
  · next hname => exact Ensures.ok (Named.append ht hname (hgrown.item .opened))
  · exact Ensures.error _

/-- The document is settled. -/
theorem Progress.Distinct.settle {p : Progress} (h : p.Distinct) :
    Ensures OpenTable.Distinct p.settle := by
  unfold Progress.settle
  split
  · exact Ensures.ok h.current
  · exact underHeader_distinct _ (fun _ ht => place_distinct _ _ h.current ht) h.root

/-- The entry at the end of a path is an item of the document. -/
theorem entryAt?_distinct (path : List String) {name : String} {t : OpenTable} {item : Item}
    (ht : t.Distinct) (h : entryAt? path name t = some item) : item.Distinct := by
  induction path generalizing t with
  | nil => exact Named.of_lookup ht h
  | cons first path ih =>
    unfold entryAt? at h
    split at h
    · next kind entries hname =>
      have hinner : OpenTable.Distinct ⟨kind, entries⟩ := (Named.of_lookup ht hname).named
      exact ih hinner h
    · next rows hname =>
      have hlast : OpenTable.Distinct ⟨.opened, rows.getLast?.getD []⟩ :=
        (Named.of_lookup ht hname).last
      exact ih hlast h
    · cases h

/-- A header of a table starts with a table that was there, or with an empty one. -/
theorem Progress.Distinct.openTable {p : Progress} (h : p.Distinct) (key : Key) :
    Ensures Progress.Distinct (p.openTable key) := by
  unfold Progress.openTable
  refine Ensures.bind h.settle fun root hroot => ?_
  have hdrop (t : OpenTable) (ht : t.Distinct) : (t.drop key.name).Distinct :=
    Named.filter ht (·.1 != key.name)
  have hrest : Ensures OpenTable.Distinct
      (underHeader key (fun t => .ok (t.drop key.name)) root) :=
    underHeader_distinct key (fun t ht => Ensures.ok (hdrop t ht)) hroot
  refine Ensures.bind hrest fun rest hrest => ?_
  split
  · exact Ensures.ok ⟨hrest, distinct_empty .opened⟩
  · next entries hentry =>
    exact Ensures.ok ⟨hrest, (entryAt?_distinct key.path hroot hentry).named⟩
  · exact Ensures.error _

/-- A header of an array of tables starts with an empty table. -/
theorem Progress.Distinct.openRow {p : Progress} (h : p.Distinct) (key : Key) :
    Ensures Progress.Distinct (p.openRow key) := by
  have hreserve (t : OpenTable) (ht : t.Distinct) :
      Ensures OpenTable.Distinct (reserveRows key t) := by
    unfold reserveRows
    split
    · next hname =>
      exact Ensures.ok (Named.append ht hname
        (.rows (List.forall_mem_nil _) (List.forall_mem_nil _)))
    · exact Ensures.ok ht
    · exact Ensures.error _
  refine Ensures.bind h.settle fun root hroot => ?_
  refine Ensures.bind (underHeader_distinct key hreserve hroot) fun rest hrest => ?_
  exact Ensures.ok ⟨hrest, distinct_empty .opened⟩

/-- A key is put in the growing table. -/
theorem Progress.Distinct.put {p : Progress} (h : p.Distinct) (key : Key) {v : Value}
    (hv : v.Distinct) : Ensures Progress.Distinct (p.put key v) :=
  Ensures.bind (putKey_distinct .document _ key hv h.current) fun _ ht => Ensures.ok ⟨h.root, ht⟩

/-- A line leaves different names. -/
theorem Progress.Distinct.readLine {p : Progress} (h : p.Distinct) (cs : List Char) :
    Ensures (fun found => found.1.Distinct) (p.readLine cs) := by
  have hheader : Ensures (fun found => found.1.Distinct) (p.readHeader cs) := by
    unfold Progress.readHeader
    refine Ensures.mapError ?_ _
    split
    · refine Ensures.after fun key => ?_
      dsimp only
      split
      · refine Ensures.after fun rest => Ensures.bind ((h.openRow key.1).mapError _) ?_
        exact fun next hnext => Ensures.ok hnext
      · exact Ensures.error _
    · refine Ensures.after fun key => ?_
      dsimp only
      split
      · refine Ensures.after fun rest => Ensures.bind ((h.openTable key.1).mapError _) ?_
        exact fun next hnext => Ensures.ok hnext
      · exact Ensures.error _
    · exact Ensures.error _
  have hentry : Ensures (fun found => found.1.Distinct) (p.readEntry cs) := by
    have hpair := readPair_distinct (distinctReader_readValue (nestingLimit - 1)) cs
    refine Ensures.bind (hpair.mapError _) fun found hv => Ensures.after fun rest => ?_
    exact Ensures.bind ((h.put found.1.1 hv).mapError _) fun next hnext => Ensures.ok hnext
  unfold Progress.readLine
  split
  · exact Ensures.ok h
  · exact hheader
  · exact Ensures.map (P := fun _ => True) (fun _ _ => trivial) fun _ _ => h
  · exact Ensures.ok h
  · exact Ensures.ok h
  · exact Ensures.error _
  · exact hentry

/-- All lines together leave different names. -/
theorem readLines_distinct (bound : Nat) {p : Progress} (h : p.Distinct) (cs : List Char) :
    Ensures Progress.Distinct (readLines bound p cs) := by
  induction bound generalizing p cs with
  | zero => exact Ensures.ok h
  | succ bound ih =>
    unfold readLines
    split
    · exact Ensures.ok h
    · exact Ensures.bind (h.readLine _) fun found hfound => ih hfound found.2

/-- A document that can be read has no table with two entries of one name. -/
theorem read_distinct (text : String) : Ensures (Named Value.Distinct) (read text) := by
  have hstart : Progress.start.Distinct := ⟨distinct_empty .opened, distinct_empty .opened⟩
  refine Ensures.bind (readLines_distinct _ hstart _) fun p hp => ?_
  exact Ensures.bind (hp.settle.mapError _) fun root hroot => Ensures.ok hroot.freeze

end FlowWatch.Toml
