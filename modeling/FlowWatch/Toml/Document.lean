import FlowWatch.Toml.Name
import FlowWatch.Toml.Reading

/-!
# Documents

A document is a sequence of lines: keys with values, headers of tables, headers
of arrays of tables, comments and empty lines. The lines under a header belong
to its table, which is kept apart while it grows and is put in its place when
the next header comes or the document ends. A header may name a table that
exists only because other headers passed it; then it goes on with that table.

Every fault of a document is final. A key that cannot be set is at fault where
its line begins, and so is a header that cannot be used.
-/

namespace FlowWatch.Toml

/-- What has been read of a document: the finished part, and the table under the
last header with its path and whether it is a member of an array. -/
structure Progress where
  /-- The finished part. -/
  root : OpenTable
  /-- The table that grows. -/
  current : OpenTable
  /-- The key of its header; none before the first header. -/
  header : Option Key
  /-- Whether its header was that of an array of tables. -/
  isRow : Bool

/-- The beginning of a document. -/
def Progress.start : Progress := ⟨⟨.opened, []⟩, ⟨.opened, []⟩, none, false⟩

/-- The path of the table that grows. -/
def Progress.path (p : Progress) : List String :=
  match p.header with
  | none => []
  | some key => key.path ++ [key.name]

/-- The reason why a header cannot be used whose name is taken. -/
def takenHeader (key : Key) : Reason := .taken (writeName key.name.toList) (some key.path)

/-- Changes the table that a header stands in. -/
def underHeader (key : Key) (change : OpenTable → Except Reason OpenTable) :
    OpenTable → Except Reason OpenTable :=
  descend .document .passed [] change key.path

/-- The table with the growing one put under the name of its header: as a new
member of an array of tables, or as a new table. -/
def place (isRow : Bool) (key : Key) (grown : OpenTable) (t : OpenTable) :
    Except Reason OpenTable :=
  match isRow, lookup t.entries key.name with
  | true, none => .ok { t with entries := t.entries ++ [(key.name, .rows [grown.entries])] }
  | true, some (.rows rows) =>
    .ok { t with entries := setEntry t.entries key.name (.rows (rows ++ [grown.entries])) }
  | false, none =>
    .ok { t with entries := t.entries ++ [(key.name, .table .opened grown.entries)] }
  | _, _ => .error (takenHeader key)

/-- The document with the growing table put in its place. -/
def Progress.settle (p : Progress) : Except Reason OpenTable :=
  match p.header with
  | none => .ok p.current
  | some key => underHeader key (place p.isRow key p.current) p.root

/-- The growing table with one more key. -/
def Progress.put (p : Progress) (key : Key) (v : Value) : Except Reason Progress := do
  pure { p with current := ← putKey .document (some p.path) key v p.current }

/-- The table without the entry of a name. -/
def OpenTable.drop (t : OpenTable) (name : String) : OpenTable :=
  { t with entries := t.entries.filter (·.1 != name) }

/-- The entry at the end of a path, if there is one. -/
def entryAt? : List String → String → OpenTable → Option Item
  | [], name, t => lookup t.entries name
  | first :: path, name, t => match lookup t.entries first with
    | some (.table kind entries) => entryAt? path name ⟨kind, entries⟩
    | some (.rows rows) => entryAt? path name ⟨.opened, rows.getLast?.getD []⟩
    | _ => none

/-- A header of a table. The name must be free, or be that of a table that was
only passed so far. -/
def Progress.openTable (p : Progress) (key : Key) : Except Reason Progress := do
  let root ← p.settle
  let rest ← underHeader key (fun t => .ok (t.drop key.name)) root
  match entryAt? key.path key.name root with
  | none => pure ⟨rest, ⟨.opened, []⟩, some key, false⟩
  | some (.table .passed entries) => pure ⟨rest, ⟨.opened, entries⟩, some key, false⟩
  | some _ => throw (takenHeader key)

/-- The table with an array of tables under the name of a header. -/
def reserveRows (key : Key) (t : OpenTable) : Except Reason OpenTable :=
  match lookup t.entries key.name with
  | none => .ok { t with entries := t.entries ++ [(key.name, .rows [])] }
  | some (.rows _) => .ok t
  | some _ => .error (takenHeader key)

/-- A header of an array of tables. The name must be free or be that of such an
array. -/
def Progress.openRow (p : Progress) (key : Key) : Except Reason Progress := do
  let root ← underHeader key (reserveRows key) (← p.settle)
  pure ⟨root, ⟨.opened, []⟩, some key, true⟩

/-- The end of a line: blanks, perhaps a comment, and a line end or the end of
the document. -/
def readLineEnd (cause : Cause) (cs : List Char) : Except Fault (List Char) :=
  let rest := match skipSpace cs with
    | '#' :: comment => skipComment comment
    | rest => rest
  match rest with
  | [] => .ok []
  | '\n' :: rest => .ok rest
  | '\r' :: '\n' :: rest => .ok rest
  | rest => .error (.final rest cause)

/-- What is missing where a line does not end. -/
def noLineEnd : Cause := .missing [.lineEnd, .mark "#"]

/-- A result whose reason for a failure is a fault in front of a text. -/
def faultAt {α : Type} (cs : List Char) (result : Except Reason α) : Except Fault α :=
  result.mapError fun reason => .final cs (.because reason)

/-- A line with a key and a value. -/
def Progress.readEntry (p : Progress) (cs : List Char) : Except Fault (Progress × List Char) := do
  let ((key, v), rest) ← final (readPair (readValue (nestingLimit - 1)) cs)
  let rest ← readLineEnd noLineEnd rest
  pure (← faultAt cs (p.put key v), rest)

/-- What is missing where a header ends without its brackets. -/
def noBrackets (brackets : String) : Cause := .missing [.mark ".", .mark brackets]

/-- A line with a header. -/
def Progress.readHeader (p : Progress) (cs : List Char) : Except Fault (Progress × List Char) :=
  within .tableHeader <| match cs with
  | '[' :: '[' :: rest => do
    let (key, rest) ← final (readKey rest)
    match rest with
    | ']' :: ']' :: rest =>
      let rest ← readLineEnd noLineEnd rest
      pure (← faultAt cs (p.openRow key), rest)
    | rest => throw (.final rest (noBrackets "]]"))
  | '[' :: c :: rest => do
    let (key, rest) ← final (readKey (c :: rest))
    match rest with
    | ']' :: rest =>
      let rest ← readLineEnd noLineEnd rest
      pure (← faultAt cs (p.openTable key), rest)
    | rest => throw (.final rest (noBrackets "]"))
  | cs => throw (.final cs .unknown)

/-- One line of a document that is not at its end. -/
def Progress.readLine (p : Progress) (cs : List Char) : Except Fault (Progress × List Char) :=
  match cs with
  | [] => .ok (p, [])
  | '[' :: _ => p.readHeader cs
  | '#' :: _ => (readLineEnd .unknown cs).map fun rest => (p, rest)
  | '\n' :: rest => .ok (p, rest)
  | '\r' :: '\n' :: rest => .ok (p, rest)
  | '\r' :: _ => .error (.final cs .unknown)
  | _ => p.readEntry cs

/-- All lines. The first argument bounds their number by the length of the text. -/
def readLines : Nat → Progress → List Char → Except Fault Progress
  | 0, p, _ => .ok p
  | bound + 1, p, cs => match skipSpace cs with
    | [] => .ok p
    | cs => do
      let (p, rest) ← p.readLine cs
      readLines bound p rest

/-- The text without a byte order mark at its start. -/
def dropByteOrderMark : List Char → List Char
  | '\uFEFF' :: rest => rest
  | cs => cs

/-- Reads a document as the entries of its table. -/
def read (text : String) : Except Fault (List (String × Value)) := do
  let cs := dropByteOrderMark text.toList
  let p ← readLines cs.length Progress.start cs
  let root ← faultAt [] p.settle
  pure (freezeEntries root.entries)

/-- A key can be given only once. -/
example : (match read "a = 1\n a = 2" with
    | .ok _ => none
    | .error fault => some fault) =
      some (.final "a = 2".toList (.because (.taken "a" (some [])))) := by
  decide +kernel

end FlowWatch.Toml
