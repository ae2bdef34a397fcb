import FlowWatch.Binary64.Decimal
import FlowWatch.Log.Pattern.Set
import FlowWatch.Text.Alphanumeric

/-!
# Values of fields in directives

The value of a field in a directive is a truth value, a number or a pattern, a
regular expression. Nothing here compares it with anything, so all that matters
is whether a text is such a value at all: whether the pattern is well formed,
nests no deeper than allowed, needs no properties of characters beyond ASCII, and
does not ask for the ends of words in Unicode.

A closing brace cannot occur in a value; for that reason a counted repetition is
never complete. Flags hold to the end of the group that they stand in.
-/

namespace FlowWatch.Log.Pattern

open FlowWatch.Text

/-- How deep the parts of a pattern may nest. -/
def depthLimit : Nat := 250

/-- One of the parts of a pattern that stand side by side. -/
structure Part where
  /-- Its depth. -/
  depth : Nat
  /-- Whether it can be repeated. Flags cannot. -/
  repeatable : Bool
  deriving DecidableEq, Repr

/-- What has been read of a group, or of the whole pattern outside of groups. -/
structure Branches where
  /-- The flags at its beginning. -/
  flags : Flags
  /-- The depths of its finished alternatives. -/
  finished : List Nat
  /-- The parts of the present alternative, the last one first. -/
  parts : List Part
  deriving DecidableEq, Repr

/-- Nothing yet, under some flags. -/
def Branches.fresh (f : Flags) : Branches := ⟨f, [], []⟩

/-- One more part. -/
def Branches.add (b : Branches) (depth : Nat) (repeatable : Bool) : Branches :=
  { b with parts := ⟨depth, repeatable⟩ :: b.parts }

/-- The depth of the present alternative. -/
def Branches.partsDepth (b : Branches) : Nat := depthOf (b.parts.map Part.depth)

/-- The present alternative is finished. -/
def Branches.turn (b : Branches) : Branches := ⟨b.flags, b.partsDepth :: b.finished, []⟩

/-- The depth of all alternatives. -/
def Branches.depth (b : Branches) : Nat := depthOf (b.partsDepth :: b.finished)

/-- The last part is repeated; nothing if there is none that can be. -/
def Branches.repeatLast (b : Branches) : Option Branches :=
  match b.parts with
  | ⟨depth, true⟩ :: parts => some { b with parts := ⟨depth + 1, true⟩ :: parts }
  | _ => none

/-- The letters of flags. -/
def flagLetters : List Char := ['i', 'm', 's', 'U', 'u', 'R', 'x']

/-- The flags with one of them set or taken back. Those that change nothing about
whether a pattern is well formed have no effect. -/
def Flags.change (f : Flags) (letter : Char) (on : Bool) : Flags :=
  match letter with
  | 'i' => { f with caseless := on }
  | 'u' => { f with unicode := on }
  | 'x' => { f with spaced := on }
  | _ => f

/-- The flags behind the letters of a group, given the letters before, the text
from here on and whether a hyphen came before. No letter stands twice, nor does
the hyphen, and a letter follows it. The result has the colon or the closing
parenthesis still in front. -/
def readFlags (f : Flags) (seen : List Char) (on : Bool) : List Char → Option (Flags × List Char)
  | [] => none
  | c :: rest =>
    if c = ':' || c = ')' then if seen.head? = some '-' then none else some (f, c :: rest)
    else if seen.contains c then none
    else if c = '-' then readFlags f (c :: seen) false rest
    else if flagLetters.contains c then readFlags (f.change c on) (c :: seen) on rest
    else none

/-- The name of a group, and the text behind the bracket that ends it. -/
def readGroupName (cs : List Char) : Option (String × List Char) :=
  let name := cs.takeWhile (· != '>')
  let isNameChar (c : Char) : Bool := ['_', '.', '[', ']'].contains c || isAlphanumeric c
  match name, cs.drop name.length with
  | first :: more, '>' :: rest =>
    if (first = '_' || isAlphabetic first) && more.all isNameChar then
      some (String.ofList name, rest)
    else none
  | _, _ => none

/-- What an opening parenthesis opens. -/
inductive Opening
  /-- A group, perhaps with a name, under some flags. -/
  | group (name : Option String) (flags : Flags)
  /-- Nothing: the flags change up to the end of the group around. -/
  | flags (flags : Flags)

/-- What a parenthesis opens, and the text behind that. Looking ahead and behind
is refused, and so is an empty list of flags that opens no group. -/
def readOpening (f : Flags) (cs : List Char) : Option (Opening × List Char) :=
  match f.skip cs with
  | '?' :: 'P' :: '<' :: rest => (readGroupName rest).map fun (name, left) =>
    (.group (some name) f, left)
  | '?' :: '<' :: rest => (readGroupName rest).map fun (name, left) =>
    (.group (some name) f, left)
  | '?' :: ')' :: _ => none
  | '?' :: rest => match readFlags f [] true rest with
    | some (flags, ':' :: left) => some (.group none flags, left)
    | some (flags, ')' :: left) => some (.flags flags, left)
    | _ => none
  | rest => some (.group none f, rest)

/-- A pattern that is being read. -/
structure Reading where
  /-- The flags from here on. -/
  flags : Flags
  /-- The innermost group. -/
  current : Branches
  /-- The groups around it, the innermost first. -/
  around : List Branches
  /-- The names of groups so far. -/
  names : List String
  /-- Whether an end of a word in Unicode is asked for. -/
  wordEdges : Bool

/-- The beginning of a pattern. -/
def Reading.start : Reading := ⟨.initial, .fresh .initial, [], [], false⟩

/-- One more part of the innermost group. -/
def Reading.add (r : Reading) (depth : Nat) : Reading :=
  { r with current := r.current.add depth true }

/-- The reading behind an opening parenthesis. -/
def Reading.enter (r : Reading) : Opening → Option Reading
  | .flags flags => some { r with flags := flags, current := r.current.add 0 false }
  | .group name flags =>
    if name.any r.names.contains then none
    else some { r with
      flags := flags
      current := .fresh r.flags
      around := r.current :: r.around
      names := name.toList ++ r.names }

/-- The reading behind a closing parenthesis. -/
def Reading.leave (r : Reading) : Option Reading :=
  match r.around with
  | [] => none
  | outer :: around => some { r with
      flags := r.current.flags
      current := outer.add (r.current.depth + 1) true
      around := around }

/-- The reading behind an atom. -/
def Reading.place (r : Reading) (atom : Atom) : Option Reading :=
  if r.flags.allows atom then
    some { r.add 0 with wordEdges := r.wordEdges || (atom == .wordEdge && r.flags.unicode) }
  else none

/-- The text behind the mark that makes a repetition reluctant. -/
def skipReluctance : List Char → List Char
  | '?' :: rest => rest
  | cs => cs

/-- The whole pattern read from some point on. The first number bounds the steps. -/
def Reading.run : Nat → Reading → List Char → Option Reading
  | 0, r, cs => if (r.flags.skip cs).isEmpty then some r else none
  | bound + 1, r, cs => match r.flags.skip cs with
    | [] => some r
    | '(' :: rest => do
      let (opening, left) ← readOpening r.flags rest
      run bound (← r.enter opening) left
    | ')' :: rest => do run bound (← r.leave) rest
    | '|' :: rest => run bound { r with current := r.current.turn } rest
    | '*' :: rest | '+' :: rest | '?' :: rest => do
      let current ← r.current.repeatLast
      run bound { r with current := current } (skipReluctance rest)
    | '\x7b' :: _ => none
    | '[' :: rest => do
      let (depth, left) ← readSet r.flags rest
      run bound (r.add depth) left
    | cs => do
      let (atom, left) ← readAtom r.flags cs
      run bound (← r.place atom) left

/-- Why a text is no value. -/
inductive Fault
  /-- It is no pattern, or one that is refused. -/
  | refused
  /-- The pattern asks for ends of words in Unicode. -/
  | wordEdges
  deriving DecidableEq, Repr

/-- What is wrong with a text as a pattern. -/
def patternFault? (cs : List Char) : Option Fault :=
  match Reading.run cs.length .start cs with
  | none => some .refused
  | some r =>
    if !r.around.isEmpty || depthLimit < r.current.depth then some .refused
    else if r.wordEdges then some .wordEdges
    else none

/-- What is wrong with a text as the value of a field. -/
def fault? (cs : List Char) : Option Fault :=
  if (Binary64.ofText cs).isOk then none else patternFault? cs

/-- A set may hold a closing bracket if it is the first one. -/
example : fault? "(a|[]b])*".toList = none := by decide +kernel

/-- There must be something to repeat. -/
example : fault? "a|*".toList = some .refused := by decide +kernel

/-- Ends of words are known for bytes only. -/
example : fault? "(?-u:\\b)\\b".toList = some .wordEdges := by decide +kernel

end FlowWatch.Log.Pattern
