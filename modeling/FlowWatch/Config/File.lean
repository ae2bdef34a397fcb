import FlowWatch.Config.Reading

/-!
# Settings from files

What the machine says about a path is an input: there is nothing, a directory,
a file with bytes, or a refusal with its reason. Bytes must be UTF-8. A path that
cannot be followed to its end leads to nothing, but a reader is told why.
-/

namespace FlowWatch.Config

/-- What there is at a path. -/
inductive FileEntry
  /-- Nothing. -/
  | missing
  /-- Nothing that the path could lead to, for this reason. -/
  | unreachable (reason : String)
  /-- A directory. -/
  | directory
  /-- A file that can be read. -/
  | file (content : ByteArray)
  /-- Something that cannot be read, for this reason. -/
  | refused (reason : String)

/-- Whether there is anything at all. -/
def FileEntry.exists : FileEntry → Bool
  | .missing | .unreachable _ => false
  | _ => true

/-- The text of a file, or why there is none. -/
def FileEntry.text : FileEntry → Except String String
  | .missing => .error "No such file or directory (os error 2)"
  | .directory => .error "Is a directory (os error 21)"
  | .unreachable reason | .refused reason => .error reason
  | .file content => match String.fromUTF8? content with
    | some text => .ok text
    | none => .error "stream did not contain valid UTF-8"

/-- The settings of what there is at a path. -/
def ofFile (path : String) (entry : FileEntry) : Except Stop Settings :=
  match entry.text with
  | .ok text => ofText text
  | .error reason => .error (.error (.unreadable path reason))

end FlowWatch.Config
