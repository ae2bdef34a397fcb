import FlowWatch.Config.Environment
import FlowWatch.Text.ControlSequence

/-!
# The command line

An option is written with two hyphens and its name, or some with one hyphen and
a letter. Its value follows as the next word, or behind an equals sign, or
right behind the letter. A word that starts with a hyphen is never the value
of the option before it, except for a lone hyphen.

A value that is a word of its own is looked at only when the next option takes
its turn or the line ends. So an unknown word is reported before an unsuitable
value in front of it, and an unsuitable value before help that stands behind it.
-/

namespace FlowWatch.CommandLine

open FlowWatch.Config FlowWatch.Text

/-- An option of the program. -/
inductive Flag
  | config
  | enabled
  | idle
  | observe
  | maxUnits
  | logLevel
  | help
  | version
  deriving DecidableEq, Repr

namespace Flag

/-- All options, in the order in which help lists them. -/
def all : List Flag :=
  [.config, .enabled, .idle, .observe, .maxUnits, .logLevel, .help, .version]

/-- The name of the option. -/
def long : Flag → String
  | .config => "config"
  | .enabled => "health-check-enabled"
  | .idle => "health-check-idle-seconds"
  | .observe => "observe"
  | .maxUnits => "max-units"
  | .logLevel => "log-level"
  | .help => "help"
  | .version => "version"

/-- The letter of the option. -/
def letter? : Flag → Option Char
  | .config => some 'c'
  | .logLevel => some 'l'
  | .help => some 'h'
  | .version => some 'V'
  | _ => none

/-- What the value of the option is called; none for an option without one. -/
def valueName? : Flag → Option String
  | .config => some "FILE"
  | .enabled => some "BOOL"
  | .idle => some "SECONDS"
  | .observe => some "POINT"
  | .maxUnits => some "MAX_UNITS"
  | .logLevel => some "LOG_LEVEL"
  | .help | .version => none

/-- The option as messages show it. -/
def shown (f : Flag) : String :=
  match f.valueName? with
  | some value => "--" ++ f.long ++ " <" ++ value ++ ">"
  | none => "--" ++ f.long

/-- The explanation of the option. -/
def about : Flag → String
  | .config => "Path to a configuration file (TOML)"
  | .enabled => "Enable the health check endpoint (yes/no, true/false, on/off, 1/0)"
  | .idle => "Seconds without data before the pipeline is reported idle"
  | .observe => "Observation point to probe, as \x60element\x60 or \x60element:pad\x60 (repeatable)"
  | .maxUnits => "Maximum data units to produce (0 = infinite) [default: 0]"
  | .logLevel => "Log level (trace, debug, info, warn, error) [default: info]"
  | .help => "Print help"
  | .version => "Print version"

/-- Whether the option may be given several times. -/
def isRepeatable : Flag → Bool
  | .observe => true
  | _ => false

end Flag

/-- What the command line asks for. -/
structure Arguments where
  /-- The path of a configuration file. -/
  config : Option String
  /-- Whether the health check is on. -/
  enabled : Option Bool
  /-- The threshold. -/
  idle : Option Duration
  /-- The points to probe. -/
  observe : List String
  /-- How many units to produce; none or zero for no end. -/
  maxUnits : Option Nat
  /-- The level of the log. -/
  logLevel : Option String
  deriving DecidableEq

/-- A command line without any option. -/
def Arguments.blank : Arguments := ⟨none, none, none, [], none, none⟩

/-- How many units to produce; zero for no end. -/
def Arguments.unitLimit (a : Arguments) : Nat := a.maxUnits.getD 0

/-- The level of the log. -/
def Arguments.level (a : Arguments) : String := a.logLevel.getD "info"

/-- What is wrong with a command line. -/
inductive Fault
  /-- No option takes this word. -/
  | unexpected (word : String)
  /-- The option has no value. -/
  | missingValue (flag : Flag)
  /-- The option was given before. -/
  | repeated (flag : Flag)
  /-- The option takes no value. -/
  | unneededValue (flag : Flag) (value : String)
  /-- The value of the option is unsuitable. -/
  | unsuitable (flag : Flag) (value reason : String)
  deriving DecidableEq, Repr

/-- The wording of the fault. Words of the command line are shown without control
sequences, so that they cannot change how the message looks. -/
def Fault.message : Fault → String
  | .unexpected word => s!"unexpected argument '{withoutSequences word}' found"
  | .missingValue flag => s!"a value is required for '{flag.shown}' but none was supplied"
  | .repeated flag => s!"the argument '{flag.shown}' cannot be used multiple times"
  | .unneededValue flag value =>
    s!"unexpected value '{withoutSequences value}' for '{flag.shown}' found; " ++
      "no more were expected"
  | .unsuitable flag value reason =>
    s!"invalid value '{withoutSequences value}' for '{flag.shown}': {reason}"

/-- Why a command line does not lead to a run. -/
inductive Diversion
  /-- It asks for help. -/
  | help
  /-- It asks for the version. -/
  | version
  /-- Something is wrong with it. -/
  | fault (fault : Fault)
  deriving DecidableEq, Repr

/-- What has been read of a command line. -/
structure Progress where
  /-- The options so far. -/
  arguments : Arguments
  /-- The last option and its value, both not looked at yet. -/
  pending : Option (Flag × Option String)
  /-- Whether the word that ends all options has been read. -/
  ended : Bool
  deriving DecidableEq

/-- The beginning of a command line. -/
def Progress.start : Progress := ⟨Arguments.blank, none, false⟩

/-- Whether an option was given before. -/
def Arguments.has (a : Arguments) : Flag → Bool
  | .config => a.config.isSome
  | .enabled => a.enabled.isSome
  | .idle => a.idle.isSome
  | .observe => !a.observe.isEmpty
  | .maxUnits => a.maxUnits.isSome
  | .logLevel => a.logLevel.isSome
  | .help | .version => false

/-- The greatest number of units. -/
def greatestLimit : Nat := 18446744073709551615

/-- The wording of a fault in a threshold. -/
def idleReason (e : Config.Error) : String := e.message?.getD ""

/-- The options with the value of one more. -/
def Arguments.set (a : Arguments) (flag : Flag) (value : String) : Except Fault Arguments :=
  match flag with
  | .config => if value.isEmpty then .error (.missingValue flag) else .ok { a with config := value }
  | .enabled => match readTruth value with
    | some b => .ok { a with enabled := b }
    | none => .error (.unsuitable flag value (quote value ++ " is not a boolean"))
  | .idle => match readIdleSeconds value with
    | .ok d => .ok { a with idle := d }
    | .error e => .error (.unsuitable flag value (idleReason e))
  | .observe => .ok { a with observe := a.observe ++ [value] }
  | .maxUnits => match readUnsigned greatestLimit value.toList with
    | .ok n => .ok { a with maxUnits := n }
    | .error fault => .error (.unsuitable flag value fault.message)
  | .logLevel => .ok { a with logLevel := value }
  | .help | .version => .ok a

/-- An option takes its turn with its value: there must be one, and the option
must not have been given before, unless it is repeatable. -/
def Arguments.take (a : Arguments) (flag : Flag) (value : Option String) :
    Except Diversion Arguments :=
  match value with
  | none => .error (.fault (.missingValue flag))
  | some value =>
    if a.has flag && !flag.isRepeatable then .error (.fault (.repeated flag))
    else (a.set flag value).mapError .fault

/-- The option that waits takes its turn. -/
def Progress.settle (p : Progress) : Except Diversion Progress :=
  match p.pending with
  | none => .ok p
  | some (flag, value) => do
    pure { p with arguments := ← p.arguments.take flag value, pending := none }

/-- An option with the value that is attached to it, if there is one. -/
def Progress.option (p : Progress) (flag : Flag) (attached : Option String) :
    Except Diversion Progress := do
  match flag, attached with
  | .help, none => let _ ← p.settle; throw .help
  | .version, none => let _ ← p.settle; throw .version
  | .help, some value | .version, some value => throw (.fault (.unneededValue flag value))
  | flag, none => let p ← p.settle; pure { p with pending := some (flag, none) }
  | flag, some value =>
    let p ← p.settle
    pure { p with arguments := ← p.arguments.take flag (some value) }

/-- A fault that ends the reading. -/
def fail {α : Type} (word : String) : Except Diversion α := .error (.fault (.unexpected word))

/-- A word with two hyphens: a name, and perhaps a value behind an equals sign. -/
def Progress.long (p : Progress) (cs : List Char) : Except Diversion Progress :=
  let name := String.ofList (cs.takeWhile (· != '='))
  let attached := match cs.dropWhile (· != '=') with
    | [] => none
    | _ :: value => some (String.ofList value)
  match Flag.all.find? (·.long == name) with
  | some flag => p.option flag attached
  | none => fail ("--" ++ name)

/-- A word with one hyphen: a letter, and perhaps a value right behind it or
behind an equals sign. Letters without a value end the reading. -/
def Progress.letter (p : Progress) (letter : Char) (rest : List Char) :
    Except Diversion Progress :=
  match Flag.all.find? (·.letter? == some letter) with
  | none => fail (String.ofList ['-', letter])
  | some flag =>
    if flag.valueName?.isNone then p.option flag none
    else match rest with
      | [] => p.option flag none
      | '=' :: value => p.option flag (some (String.ofList value))
      | value => p.option flag (some (String.ofList value))

/-- A word that is no option: the value of the option that waits for one. -/
def Progress.word (p : Progress) (word : String) : Except Diversion Progress :=
  match p.pending with
  | some (flag, none) => .ok { p with pending := some (flag, some word) }
  | _ => fail word

/-- One more word. -/
def Progress.push (p : Progress) (word : String) : Except Diversion Progress :=
  if p.ended then fail word
  else match word.toList with
    | ['-', '-'] => .ok { p with ended := true }
    | '-' :: '-' :: rest => p.long rest
    | '-' :: letter :: rest => p.letter letter rest
    | _ => p.word word

/-- Reads the words of a command line. -/
def read (words : List String) : Except Diversion Arguments := do
  let p ← words.foldlM Progress.push Progress.start
  pure (← p.settle).arguments

/-- The name of the program. -/
def programName : String := "liveness-daemon"

/-- The version of the program. -/
def programVersion : String := "0.1.0"

/-- The lines of one option in the help. -/
def helpLines (flag : Flag) : List String :=
  let start := match flag.letter? with
    | some letter => "  -" ++ String.ofList [letter] ++ ", "
    | none => "      "
  [start ++ flag.shown, "          " ++ flag.about]

/-- The help. -/
def help : List String :=
  ["Media pipeline with an HTTP liveness probe", "", "Usage: " ++ programName ++ " [OPTIONS]", "",
    "Options:"] ++ Flag.all.flatMap helpLines

end FlowWatch.CommandLine
