import FlowWatch.Toml.DateTime
import FlowWatch.Toml.Name
import FlowWatch.Toml.Number
import FlowWatch.Toml.Quotation

/-!
# Keys and values of documents

A key is one or several names joined by dots. A value is a text, a number, a
date-time, a truth value, an array or an inline table. Arrays may go over
several lines with comments between their members, inline tables may not. The
nesting of the two is bounded, and so is the number of names in a key.

Inside one inline table the names of dotted keys open tables, which further
dotted keys may add to; a value that was written as a whole is closed.

Where a member of an array, or a key in an inline table, does not begin, the
array or table must end; so a fault that is not final is noticed only there. The
keys of an inline table are put together when all of them have been read.
-/

namespace FlowWatch.Toml

/-- The number of nested arrays and inline tables, and of names in a key, that
is already too much. -/
def nestingLimit : Nat := 80

/-- How a table came to be, which decides what may still be added to it. -/
inductive TableKind
  /-- By a header or as a whole value: nothing is added through a dotted key. -/
  | opened
  /-- In passing, on the way of a header. -/
  | passed
  /-- By a dotted key. -/
  | dotted
  deriving DecidableEq, Repr

/-- A document, or a part of it, while it is being read. -/
inductive Item
  /-- A value written as a whole. -/
  | value (v : Value)
  /-- A table that may still grow. -/
  | table (kind : TableKind) (entries : List (String × Item))
  /-- An array of tables, which grows by further headers. -/
  | rows (rows : List (List (String × Item)))

mutual

/-- The finished value of an item. -/
def Item.freeze : Item → Value
  | .value v => v
  | .table _ entries => .table (freezeEntries entries)
  | .rows rows => .rows (freezeRows rows)

/-- The finished values of named items. -/
def freezeEntries : List (String × Item) → List (String × Value)
  | [] => []
  | (name, item) :: rest => (name, item.freeze) :: freezeEntries rest

/-- The finished values of the tables of an array. -/
def freezeRows : List (List (String × Item)) → List Value
  | [] => []
  | row :: rest => .table (freezeEntries row) :: freezeRows rest

end

/-- A table that is being read. -/
structure OpenTable where
  /-- How it came to be. -/
  kind : TableKind
  /-- Its entries. -/
  entries : List (String × Item)

/-- The entries with one of them set, in its place or at the end. -/
def setEntry {α : Type} (entries : List (String × α)) (name : String) (value : α) :
    List (String × α) :=
  if entries.any (·.1 == name) then
    entries.map fun entry => if entry.1 == name then (name, value) else entry
  else entries ++ [(name, value)]

/-- Where a path leads through, which decides what is said of a value in the way. -/
inductive Surroundings
  /-- A document. -/
  | document
  /-- An inline table, where another one counts as a key of its own. -/
  | inline
  deriving DecidableEq, Repr

/-- Why a path does not lead through a value. -/
def blockedBy (s : Surroundings) (path : List String) (name : String) : Value → Reason
  | .table entries =>
    if s = .inline then .taken name none else .noTable path (Value.table entries).kind
  | v => .noTable path v.kind

/-- Changes the table at the end of a path. Tables on the way are made if they
are missing, of the given kind. A dotted key passes only through tables that
are not opened; in an array of tables the way goes through the last one. The
third argument is the way so far. -/
def descend (s : Surroundings) (made : TableKind) (way : List String)
    (change : OpenTable → Except Reason OpenTable) :
    List String → OpenTable → Except Reason OpenTable
  | [], t => change t
  | name :: path, t => do
    let way := way ++ [name]
    let item ← match lookup t.entries name with
      | none => do
        let inner ← descend s made way change path ⟨made, []⟩
        pure (Item.table inner.kind inner.entries)
      | some (.table kind entries) =>
        if made = .dotted && kind = .opened then throw (.taken name none)
        else do
          let inner ← descend s made way change path ⟨kind, entries⟩
          pure (Item.table inner.kind inner.entries)
      | some (.rows rows) => do
        let inner ← descend s made way change path ⟨.opened, rows.getLast?.getD []⟩
        pure (Item.rows (rows.dropLast ++ [inner.entries]))
      | some (.value v) => throw (blockedBy s way name v)
    pure ⟨t.kind, setEntry t.entries name item⟩

/-- Sets a new key in a table. A key that is reached by dots must end up in a
table of dotted keys. The first argument is the path of the table that messages
name, if they name one. -/
def setNew (table : Option (List String)) (reachedByDots : Bool) (name : String) (v : Value)
    (t : OpenTable) : Except Reason OpenTable :=
  if reachedByDots != (t.kind == .dotted) then .error (.taken name none)
  else match lookup t.entries name with
    | some _ => .error (.taken name table)
    | none => .ok ⟨t.kind, t.entries ++ [(name, .value v)]⟩

/-- A key: the names before the last one, and the last one. -/
structure Key where
  /-- The names before the last one. -/
  path : List String
  /-- The last name. -/
  name : String
  deriving DecidableEq, Repr

/-- The table with a value at a key. -/
def putKey (s : Surroundings) (table : Option (List String)) (key : Key) (v : Value)
    (t : OpenTable) : Except Reason OpenTable :=
  descend s .dotted [] (setNew table (!key.path.isEmpty) key.name v) key.path t

/-- Whether the character is a blank within a line. -/
def isSpace (c : Char) : Bool := c == ' ' || c == '\t'

/-- The text without blanks at its start. -/
def skipSpace (cs : List Char) : List Char := cs.dropWhile isSpace

/-- Whether the character may stand in a comment. -/
def isCommentChar (c : Char) : Bool := c == '\t' || (0x20 ≤ c.toNat && c.toNat != 0x7F)

/-- The text behind the characters of a comment. -/
def skipComment (cs : List Char) : List Char := cs.dropWhile isCommentChar

/-- The text without blanks, line ends and comments at its start, as they may
stand between the members of an array. A comment must end with its line, and a
carriage return must belong to a line end. The first argument bounds the steps by
the length of the text. -/
def skipLines : Nat → List Char → Except Fault (List Char)
  | 0, cs => .ok cs
  | bound + 1, cs => match skipSpace cs with
    | '\n' :: rest => skipLines bound rest
    | '\r' :: '\n' :: rest => skipLines bound rest
    | '\r' :: rest => .error (.before rest .unknown)
    | '#' :: rest => match skipComment rest with
      | '\n' :: rest => skipLines bound rest
      | '\r' :: '\n' :: rest => skipLines bound rest
      | rest => .error (.before (rest.drop 1) .unknown)
    | rest => .ok rest

/-- The text without anything that may stand between members. -/
def skipBetween (cs : List Char) : Except Fault (List Char) := skipLines cs.length cs

/-- One name of a key. -/
def readName : Reader String
  | '"' :: rest => (Quotation.readLine ('"' :: rest)).map fun (t, left) => (String.ofList t, left)
  | '\x27' :: rest =>
    (Quotation.readLine ('\x27' :: rest)).map fun (t, left) => (String.ofList t, left)
  | cs =>
    let name := cs.takeWhile isNameChar
    if name.isEmpty then .error (.before cs (.invalid .key))
    else .ok (String.ofList name, cs.dropWhile isNameChar)

/-- The names of a key. They end before a dot that no name follows. The first
argument bounds the number of dots. -/
def readNames : Nat → Reader (List String)
  | 0, cs => do
    let (name, rest) ← readName (skipSpace cs)
    pure ([name], skipSpace rest)
  | bound + 1, cs => do
    let (name, rest) ← readName (skipSpace cs)
    match skipSpace rest with
    | '.' :: behind => match ← attempt (readNames bound behind) with
      | some (names, left) => pure (name :: names, left)
      | none => pure ([name], '.' :: behind)
    | rest => pure ([name], rest)

/-- Reads a key. -/
def readKey : Reader Key := fun cs => do
  let (names, rest) ← readNames cs.length cs
  if nestingLimit ≤ names.length then throw (.before cs (.because .tooDeep))
  match names.getLast? with
  | some name => pure (⟨names.dropLast, name⟩, rest)
  | none => throw (.before cs (.invalid .key))

/-- A sign that nothing else can stand for, and what to expect there. -/
def expect (sign : Char) (cause : Cause) : List Char → Except Fault (List Char)
  | c :: rest => if c = sign then .ok rest else .error (.final (c :: rest) cause)
  | [] => .error (.final [] cause)

/-- What is missing where a key ends without an equals sign. -/
def noEquals : Cause := .missing [.mark ".", .mark "="]

/-- A key and its value, which may be nothing else once the key has been read. -/
def readPair (member : Reader Value) : Reader (Key × Value) := fun cs => do
  let (key, rest) ← readKey cs
  final do
    let rest ← expect '=' noEquals rest
    let (v, rest) ← member (skipSpace rest)
    pure ((key, v), rest)

/-- A member of an array with all that may stand around it. -/
def readMember (member : Reader Value) : Reader Value := fun cs => do
  let (v, rest) ← member (← skipBetween cs)
  pure (v, ← skipBetween rest)

/-- The members of an array, each with the comma behind it if there is one, as
long as one begins. The first argument bounds their number. -/
def readMembers (member : Reader Value) : Nat → Reader (List Value)
  | 0, cs => .ok ([], cs)
  | bound + 1, cs => do
    match ← attempt (readMember member cs) with
    | some (v, ',' :: rest) =>
      let (vs, left) ← readMembers member bound rest
      pure (v :: vs, left)
    | some (v, rest) => pure ([v], rest)
    | none => pure ([], cs)

/-- An array behind its opening bracket. -/
def readArray (member : Reader Value) : Reader Value := fun cs => do
  let (vs, rest) ← readMembers member (cs.length + 1) cs
  let rest ← final (skipBetween rest)
  let left ← expect ']' ⟨some .array, [.mark "]"], none⟩ rest
  pure (.array vs, left)

/-- The pairs of an inline table, as long as a key begins. The first argument
bounds their number. -/
def readPairs (member : Reader Value) : Nat → Reader (List (Key × Value))
  | 0, cs => .ok ([], cs)
  | bound + 1, cs => do
    match ← attempt (readPair member cs) with
    | none => pure ([], cs)
    | some (pair, rest) => match skipSpace rest with
      | ',' :: behind => match ← readPairs member bound behind with
        | ([], _) => pure ([pair], ',' :: behind)
        | (pairs, left) => pure (pair :: pairs, left)
      | rest => pure ([pair], rest)

/-- The table of some pairs. -/
def tableOf (pairs : List (Key × Value)) : Except Reason OpenTable :=
  pairs.foldlM (fun t (key, v) => putKey .inline none key v t) ⟨.opened, []⟩

/-- An inline table behind its opening brace. -/
def readInline (member : Reader Value) : Reader Value := fun cs => do
  let (pairs, rest) ← readPairs member (cs.length + 1) cs
  let t ← (tableOf pairs).mapError fun reason => Fault.final cs (.because reason)
  let left ← expect '\x7d' ⟨some .inlineTable, [.mark "\x7d"], none⟩ (skipSpace rest)
  pure (.table (freezeEntries t.entries), left)

/-- What is said of a text that begins no value. -/
def noValue : Cause := ⟨some .text, [.mark "\"", .mark "\x27"], none⟩

/-- A number without a digit in front. -/
def noLeadingDigit (construct : Construct) : Cause := ⟨some construct, [.leadingDigit], none⟩

/-- A value that contains no other. -/
def readScalar : Reader Value
  | [] => .error (.before [] .unknown)
  | c :: rest =>
    let cs := c :: rest
    if c = '"' || c = '\x27' then
      (Quotation.read cs).map fun (t, left) => (.text (String.ofList t), left)
    else if c = '+' || c = '-' || c.isDigit then
      (readDateTime? cs).getD (readNumber cs)
    else if c = '_' then .error (.before cs (noLeadingDigit .integer))
    else if c = '.' then .error (.before cs (noLeadingDigit .real))
    else match cs with
      | 't' :: 'r' :: 'u' :: 'e' :: rest => .ok (.truth true, rest)
      | 'f' :: 'a' :: 'l' :: 's' :: 'e' :: rest => .ok (.truth false, rest)
      | cs => match readWord? cs with
        | some result => .ok result
        | none => .error ⟨noValue, cs.length, c = 't' || c = 'f'⟩

/-- A value, with arrays and inline tables nested at most so deep. -/
def readValue : Nat → Reader Value
  | 0, '[' :: rest => .error (.final ('[' :: rest) (.because .tooDeep))
  | 0, '\x7b' :: rest => .error (.final ('\x7b' :: rest) (.because .tooDeep))
  | depth + 1, '[' :: rest => readArray (readValue depth) rest
  | depth + 1, '\x7b' :: rest => readInline (readValue depth) rest
  | _, cs => readScalar cs

end FlowWatch.Toml
