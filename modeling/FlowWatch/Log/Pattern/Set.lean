import FlowWatch.Log.Pattern.Atom

/-!
# Sets of characters

A set stands in brackets. Its members are characters, ranges of them, classes
with a name and further sets; between them may stand doubled signs that take
what the sides have in common, what only the first one has, or what only one of
them has. All that is asked of a set here is whether it is well formed, and how
deep it nests.

Hyphens right behind the opening bracket are members, and so is a closing
bracket if it is the first one of all.
-/

namespace FlowWatch.Log.Pattern

/-- The depth of parts that stand side by side. One part alone counts as itself. -/
def depthOf : List Nat → Nat
  | [] => 0
  | [depth] => depth
  | depth :: depths => (depths.foldl max depth) + 1

/-- A set whose closing bracket is still to come. -/
structure OpenSet where
  /-- Whether it is negated. -/
  negated : Bool
  /-- The depth of what stands before the last doubled sign. -/
  before : Option Nat
  /-- The depths of the members since then. -/
  members : List Nat
  deriving DecidableEq, Repr

/-- The set with one more member. -/
def OpenSet.add (s : OpenSet) (depth : Nat) : OpenSet :=
  { s with members := depth :: s.members }

/-- The depth of the set so far. -/
def OpenSet.depth (s : OpenSet) : Nat :=
  match s.before with
  | none => depthOf s.members
  | some before => max before (depthOf s.members) + 1

/-- The set behind a doubled sign. -/
def OpenSet.join (s : OpenSet) : OpenSet := ⟨s.negated, some s.depth, []⟩

/-- The number of hyphens, blanks aside, and the text behind them. The first
number bounds the steps. -/
def countHyphens (f : Flags) : Nat → List Char → Nat × List Char
  | bound + 1, '-' :: rest =>
    let (count, left) := countHyphens f bound (f.skip rest)
    (count + 1, left)
  | _, cs => (0, cs)

/-- A set whose opening bracket has been read, with the members that only its
beginning allows. -/
def openSet (f : Flags) (cs : List Char) : Option (OpenSet × List Char) :=
  let (negated, cs) := match f.skip cs with
    | '\x5E' :: rest => (true, f.skip rest)
    | cs => (false, cs)
  let (hyphens, cs) := countHyphens f cs.length cs
  let (members, cs) := match hyphens, cs with
    | 0, ']' :: rest => ([0], f.skip rest)
    | _, _ => (List.replicate hyphens 0, cs)
  if cs.isEmpty || (!members.isEmpty && !f.allowsMember '-') then none
  else some (⟨negated, none, members⟩, cs)

/-- The names of classes in sets. -/
def className : List String :=
  ["alnum", "alpha", "ascii", "blank", "cntrl", "digit", "graph", "lower", "print", "punct",
    "space", "upper", "word", "xdigit"]

/-- A class with a name, behind an opening bracket: whether it is negated, and
the text behind it. -/
def readClass : List Char → Option (Bool × List Char)
  | ':' :: rest =>
    let (negated, cs) := match rest with
      | '\x5E' :: rest => (true, rest)
      | cs => (false, cs)
    let name := cs.takeWhile (· != ':')
    match cs.drop name.length with
    | ':' :: ']' :: left =>
      if className.contains (String.ofList name) then some (negated, left) else none
    | _ => none
  | _ => none

/-- One end of a range, or a member that is none. -/
def readMember (f : Flags) : List Char → Option (Atom × List Char)
  | [] => none
  | '\\' :: rest => readEscape f rest
  | c :: rest => some (.letter c false, rest)

/-- Whether an atom may be a member of a set. -/
def Flags.allowsAsMember (f : Flags) : Atom → Bool
  | .letter c isByte => f.allowsMember c && f.allows (.letter c isByte)
  | .properties negated => f.allows (.properties negated)
  | .any | .lineEdge | .wordEdge => false

/-- A member of a set that is no other set: a range if a hyphen follows that
another member follows in turn. -/
def readRange (f : Flags) (cs : List Char) : Option (List Char) := do
  let (first, rest) ← readMember f cs
  let single := if f.allowsAsMember first then some (f.skip rest) else none
  match f.skip rest with
  | [] => none
  | '-' :: behind =>
    if f.ahead behind = some ']' || f.ahead behind = some '-' then single
    else
      let (last, rest) ← readMember f (f.skip behind)
      match first, last with
      | .letter low _, .letter high _ =>
        if f.allowsAsMember first && f.allowsAsMember last && low ≤ high then some rest else none
      | _, _ => none
  | _ => single

/-- The doubled signs between members. -/
def isSign (c : Char) : Bool := c == '&' || c == '-' || c == '~'

/-- The depth of a set, and the text behind it, from within the given sets, of
which the first is the innermost one. The first number bounds the steps. -/
def readSets (f : Flags) : Nat → OpenSet → List OpenSet → List Char → Option (Nat × List Char)
  | 0, _, _, _ => none
  | bound + 1, s, around, cs => match f.skip cs with
    | [] => none
    | '[' :: rest => match readClass rest with
      | some (negated, left) =>
        if f.allowsMember ':' && f.allowsSign negated then
          readSets f bound (s.add 0) around left
        else none
      | none => do
        let (inner, left) ← openSet f rest
        readSets f bound inner (s :: around) left
    | ']' :: rest =>
      if !f.allowsSign s.negated then none
      else match around with
        | [] => some (s.depth + 1, rest)
        | outer :: around => readSets f bound (outer.add (s.depth + 1)) around rest
    | c :: rest =>
      if isSign c && rest.head? = some c then readSets f bound s.join around (rest.drop 1)
      else do readSets f bound (s.add 0) around (← readRange f (c :: rest))

/-- A set whose opening bracket has been read: its depth, and the text behind it. -/
def readSet (f : Flags) (cs : List Char) : Option (Nat × List Char) := do
  let (s, rest) ← openSet f cs
  readSets f cs.length s [] rest

/-- A closing bracket may be the first member. -/
example : readSet .initial "]a-z&&[^b]]x".toList = some (3, ['x']) := by decide +kernel

end FlowWatch.Log.Pattern
