import FlowWatch.Config.Reading

/-!
# Reports of failures

When the program fails, it says what it was doing, and then why, from the
nearest cause to the farthest. Several causes are numbered. The further lines
of a cause are indented like its first one.
-/

namespace FlowWatch.Daemon

/-- What the program was doing, and the causes of its failure. -/
structure Report where
  /-- What it was doing. -/
  context : String
  /-- The causes, the nearest first. -/
  causes : List String
  deriving DecidableEq, Repr

/-- How a run can fail: with a report, or at once without one. -/
inductive Trouble
  /-- The failure is reported. -/
  | reported (report : Report)
  /-- The program ends where a duration has no result. -/
  | aborted
  deriving DecidableEq, Repr

/-- The causes that an error of the settings stands for. A file that cannot be
read, a text that is no document, and a document that does not fit have the inner
reason as a cause of its own. The text about a document ends with a line end. -/
def causesOf : Config.Error → List String
  | .unreadable path reason =>
    [((Config.Error.unreadable path reason).message?).getD "", reason]
  | .syntaxError message excerpt | .shape message excerpt =>
    let reason := String.intercalate "\n" (excerpt ++ [message, ""])
    ["failed to parse TOML: " ++ reason, reason]
  | e => [e.message?.getD ""]

/-- The trouble of having no settings. -/
def Trouble.ofStop (context : String) : Config.Stop → Trouble
  | .error e => .reported ⟨context, causesOf e⟩
  | .aborted => .aborted

/-- A cause with its lines indented, the first one by a mark of the same width. -/
def indented (first further cause : String) : List String :=
  match cause.splitOn "\n" with
  | [] => [first]
  | line :: rest => (first ++ line) :: rest.map (further ++ ·)

/-- The lines of several causes with their numbers. -/
def numbered : Nat → List String → List String
  | _, [] => []
  | n, cause :: rest =>
    let digits := toString n
    let pad := String.ofList (List.replicate (5 - digits.length) ' ')
    indented (pad ++ digits ++ ": ") "       " cause ++ numbered (n + 1) rest

/-- The lines of a report. -/
def Report.lines (r : Report) : List String :=
  let head := "Error: " ++ r.context
  match r.causes with
  | [] => [head]
  | [cause] => [head, "", "Caused by:"] ++ indented "    " "    " cause
  | causes => [head, "", "Caused by:"] ++ numbered 0 causes

end FlowWatch.Daemon
