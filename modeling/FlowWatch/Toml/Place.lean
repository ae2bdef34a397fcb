import FlowWatch.Toml.Document

/-!
# Places in documents

A path leads from a whole document to a value, or to the name of one. To say
where that stands, the document is gone over a second time: its headers and its
keys are its landmarks, each with the part of the text that it takes up. A table
made by a header takes up the header and the keys right under it. A table that
was only passed, or made by dots, takes up no part of its own; its name stands
for it, or the value around it. A name stands where it came up first, except
that a table which was only passed at first has the name in its own header.

The second pass expects a document that can be read. Of another text it may
find nothing.
-/

namespace FlowWatch.Toml

/-- A step from a value into it. -/
inductive Step
  /-- To the entry of a name. -/
  | entry (name : String)
  /-- To the member of a number, which starts at zero. -/
  | member (index : Nat)
  deriving DecidableEq, Repr

/-- What is meant at the end of a path. -/
inductive Target
  /-- The value; its name, if it takes up no part of its own. -/
  | value
  /-- The name of the value. -/
  | name
  /-- The value; the one around it, if it takes up no part of its own. -/
  | content
  deriving DecidableEq, Repr

/-- A value of a document, or the name of one. -/
structure Place where
  /-- The way to the value. -/
  path : List Step
  /-- What is meant there. -/
  target : Target
  deriving DecidableEq, Repr

/-- The place of the whole value. -/
def Place.whole : Place := ⟨[], .value⟩

/-- The place seen from one step farther out. -/
def Place.below (step : Step) (p : Place) : Place := { p with path := step :: p.path }

/-- A part of a text. -/
structure Span where
  /-- The number of characters before it. -/
  start : Nat
  /-- The number of characters up to its end. -/
  stop : Nat
  deriving DecidableEq, Repr

/-- The part of a text of a given length between two of its ends. -/
def Span.between (total : Nat) (first last : List Char) : Span :=
  ⟨total - first.length, total - last.length⟩

/-- A name and where it stands. -/
structure Mark where
  /-- The name. -/
  name : String
  /-- Where it stands. -/
  span : Span
  deriving DecidableEq, Repr

/-- A line that says something about entries. -/
inductive Landmark
  /-- A header, of an array of tables or of a table. -/
  | header (isRow : Bool) (names : List Mark) (span : Span)
  /-- A key, the text from its value on, and where the value stands. -/
  | pair (names : List Mark) (value : List Char) (span : Span)

/-- Finds something at the start of a text and gives what follows it. -/
abbrev Finder (α : Type) := List Char → Option (α × List Char)

/-- The names of a key with their places. -/
def markNames (total : Nat) : Nat → Finder (List Mark)
  | 0, _ => none
  | bound + 1, cs => do
    let cs := skipSpace cs
    let (name, rest) ← (readName cs).toOption
    let mark : Mark := ⟨name, .between total cs rest⟩
    match skipSpace rest with
    | '.' :: rest =>
      let (marks, left) ← markNames total bound rest
      pure (mark :: marks, left)
    | rest => pure ([mark], rest)

/-- The text behind a value with any nesting that a document allows. -/
def afterValue (cs : List Char) : Option (List Char) :=
  (readValue (nestingLimit - 1) cs).toOption.map Prod.snd

/-- A key with its value. -/
def Landmark.readPair (total : Nat) : Finder Landmark := fun cs => do
  let (names, rest) ← markNames total nestingLimit cs
  match rest with
  | '=' :: rest =>
    let value := skipSpace rest
    let left ← afterValue value
    pure (.pair names value (.between total value left), left)
  | _ => none

/-- The header that starts the text. -/
def Landmark.readHeader (total : Nat) : Finder Landmark := fun cs =>
  match cs with
  | '[' :: '[' :: rest => do
    match ← markNames total nestingLimit rest with
    | (names, ']' :: ']' :: left) => pure (.header true names (.between total cs left), left)
    | _ => none
  | '[' :: rest => do
    match ← markNames total nestingLimit rest with
    | (names, ']' :: left) => pure (.header false names (.between total cs left), left)
    | _ => none
  | _ => none

/-- The landmarks of a text. The first number is the length of the whole text,
the second bounds the steps. -/
def landmarks (total : Nat) : Nat → List Char → List Landmark
  | 0, _ => []
  | bound + 1, cs =>
    let follow : Option (Landmark × List Char) → List Landmark
      | some (landmark, rest) => landmark :: landmarks total bound rest
      | none => []
    match skipSpace cs with
    | [] => []
    | '\n' :: rest | '\r' :: '\n' :: rest => landmarks total bound rest
    | '#' :: rest => landmarks total bound (skipComment rest)
    | '[' :: rest => follow (Landmark.readHeader total ('[' :: rest))
    | cs => follow (Landmark.readPair total cs)

/-- The keys of an inline table behind its opening brace. -/
def inlineKeys (total : Nat) : Nat → List Char → List (List Mark × List Char)
  | 0, _ => []
  | bound + 1, cs => match Landmark.readPair total cs with
    | some (.pair names value _, rest) => (names, value) :: match skipSpace rest with
      | ',' :: rest => inlineKeys total bound rest
      | _ => []
    | _ => []

/-- The text from the member of a number on, in an array behind its opening
bracket. -/
def memberText : Nat → List Char → Option (List Char)
  | 0, cs => (skipBetween cs).toOption
  | index + 1, cs => do
    let rest ← afterValue (← (skipBetween cs).toOption)
    match ← (skipBetween rest).toOption with
    | ',' :: rest => memberText index rest
    | _ => none

/-- What is left of a path behind all the names of a key, if it starts with them. -/
def afterNames : List Mark → List Step → Option (List Step)
  | [], path => some path
  | mark :: marks, .entry name :: path => if mark.name = name then afterNames marks path else none
  | _, _ => none

/-- Where the name stands at which a path ends, among the names of a key. -/
def nameSpan? : List Mark → List Step → Option Span
  | mark :: marks, .entry name :: path =>
    if mark.name = name then
      if path.isEmpty then some mark.span else nameSpan? marks path
    else none
  | _, _ => none

/-- The part that a value takes up within another one, given its path from
there and the text from the other one on. The second number bounds the steps of
the path. -/
def ownSpan? (total : Nat) : Nat → List Step → List Char → Option Span
  | _, [], cs => (afterValue cs).map (Span.between total cs)
  | 0, _, _ => none
  | bound + 1, .member index :: path, cs => match cs with
    | '[' :: rest => do ownSpan? total bound path (← memberText index rest)
    | _ => none
  | bound + 1, path, cs => match cs with
    | '{' :: rest => (inlineKeys total rest.length rest).findSome? fun key => do
      ownSpan? total bound (← afterNames key.1 path) key.2
    | _ => none

/-- Where the name of a value stands within another one, given as above. -/
def innerName? (total : Nat) : Nat → List Step → List Char → Option Span
  | 0, _, _ => none
  | bound + 1, .member index :: path, cs => match cs with
    | '[' :: rest => do innerName? total bound path (← memberText index rest)
    | _ => none
  | bound + 1, path, cs => match cs with
    | '{' :: rest => (inlineKeys total rest.length rest).findSome? fun key =>
      (nameSpan? key.1 path).or do innerName? total bound (← afterNames key.1 path) key.2
    | _ => none

/-- A table made by a header. -/
structure HeaderTable where
  /-- Whether it is a member of an array of tables. -/
  isRow : Bool
  /-- The names of its header. -/
  names : List Mark
  /-- The part that it takes up. -/
  span : Span

/-- Where the keys right under a header end. -/
def keysStop (stop : Nat) : List Landmark → Nat
  | .pair _ _ span :: rest => keysStop span.stop rest
  | _ => stop

/-- The tables made by headers. -/
def headerTables : List Landmark → List HeaderTable
  | [] => []
  | .header isRow names span :: rest =>
    ⟨isRow, names, ⟨span.start, keysStop span.stop rest⟩⟩ :: headerTables rest
  | .pair .. :: rest => headerTables rest

/-- The keys outside arrays of tables, with the names of their headers in front
of their own. -/
def fullKeys (header : Option (List Mark)) : List Landmark → List (List Mark × List Char)
  | [] => []
  | .header isRow names _ :: rest => fullKeys (if isRow then none else some names) rest
  | .pair names value _ :: rest => match header with
    | some before => (before ++ names, value) :: fullKeys header rest
    | none => fullKeys header rest

/-- All names in the order of the text: those of headers, and of keys with the
names of their headers in front. -/
def allNames (header : List Mark) : List Landmark → List (List Mark)
  | [] => []
  | .header _ names _ :: rest => names :: allNames names rest
  | .pair names _ _ :: rest => (header ++ names) :: allNames header rest

/-- Where a table made by a header stands, or an array of such tables as a
whole, or one of its members. -/
def tableSpan? (tables : List HeaderTable) (path : List Step) : Option Span :=
  let whole := tables.filter fun t => afterNames t.names path = some []
  match whole.head?, whole.getLast?, path.getLast? with
  | some first, some last, _ => some ⟨first.span.start, last.span.stop⟩
  | _, _, some (.member index) =>
    let rows := tables.filter fun t => t.isRow && afterNames t.names path = some [.member index]
    rows[index]?.map (·.span)
  | _, _, _ => none

/-- Where the last name of the header stands that makes the table of a path. -/
def headerName? (tables : List HeaderTable) (path : List Step) : Option Span := do
  let table ← tables.find? fun t => !t.isRow && afterNames t.names path = some []
  pure (← table.names.getLast?).span

/-- A document in the form in which places are looked up. -/
structure Atlas where
  /-- The length of the text. -/
  total : Nat
  /-- The tables made by headers. -/
  tables : List HeaderTable
  /-- The keys outside arrays of tables, with the text from their values on. -/
  keys : List (List Mark × List Char)
  /-- All names in the order of the text. -/
  names : List (List Mark)

/-- The atlas of a text. -/
def Atlas.ofText (text : List Char) : Atlas :=
  let total := text.length
  let marks := landmarks total total (dropByteOrderMark text)
  ⟨total, headerTables marks, fullKeys (some []) marks, allNames [] marks⟩

/-- The part that the value of a path takes up. -/
def Atlas.valueSpan? (a : Atlas) (path : List Step) : Option Span :=
  (tableSpan? a.tables path).or <| a.keys.findSome? fun key => do
    ownSpan? a.total path.length (← afterNames key.1 path) key.2

/-- Where the name of the value of a path stands. -/
def Atlas.nameSpan? (a : Atlas) (path : List Step) : Option Span :=
  (headerName? a.tables path).or <|
    (a.names.findSome? fun names => Toml.nameSpan? names path).or <|
      a.keys.findSome? fun key => do
        innerName? a.total path.length (← afterNames key.1 path) key.2

/-- Where the value of a path stands, or else its name. -/
def Atlas.span? (a : Atlas) (path : List Step) : Option Span :=
  (a.valueSpan? path).or (a.nameSpan? path)

/-- Where a place stands in a document. -/
def Place.span? (text : List Char) (p : Place) : Option Span :=
  let a := Atlas.ofText text
  match p.target with
  | .value => a.span? p.path
  | .name => a.nameSpan? p.path
  | .content => (a.valueSpan? p.path).or (a.span? p.path.dropLast)

end FlowWatch.Toml
