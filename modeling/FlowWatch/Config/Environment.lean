import FlowWatch.Binary64.Decimal
import FlowWatch.Config.Reading
import FlowWatch.Text.Blank
import FlowWatch.Text.Numeral

/-!
# Settings from the environment

Four variables override settings of the health check. They are applied in a
fixed order. The first one that cannot be read ends the process, and what was
set before it stays set.
-/

namespace FlowWatch.Config

open FlowWatch.Text

/-- The variable that switches the health check on or off. -/
def enabledVariable : String := "HEALTH_CHECK_ENABLED"

/-- The variable of the threshold in seconds. -/
def idleVariable : String := "HEALTH_CHECK_IDLE_SECONDS"

/-- The variable of the host. -/
def hostVariable : String := "HEALTH_CHECK_HOST"

/-- The variable of the port. -/
def portVariable : String := "HEALTH_CHECK_PORT"

/-- A truth value as people write it, in any case and with blanks around. -/
def readTruth (text : String) : Option Bool :=
  let word := lowerAscii (trim text)
  if ["y", "yes", "t", "true", "on", "1"].contains word then some true
  else if ["n", "no", "f", "false", "off", "0"].contains word then some false
  else none

/-- Why a text is not a threshold. -/
inductive IdleFault
  /-- It is not a number. -/
  | notNumber (text : String) (reason : Binary64.DecimalError)
  /-- It is not positive, or not finite. -/
  | notPositive (text : String)
  /-- It is too long for any duration. -/
  | tooLong (text : String)
  /-- It is too long for a threshold. -/
  | aboveMaximum (text : String)
  deriving DecidableEq, Repr

/-- The wording of the fault. -/
def IdleFault.reason : IdleFault → String
  | .notNumber text reason => quote text ++ ": " ++ reason.message
  | .notPositive text => quote text ++ " must be a positive number of seconds"
  | .tooLong text =>
    quote text ++
      ": cannot convert float seconds to Duration: value is either too big or NaN"
  | .aboveMaximum text =>
    quote text ++
      s!" exceeds the maximum of {Duration.greatestSigned.seconds} seconds"

/-- A threshold in seconds, with a fraction if need be, rounded to nanoseconds. -/
def readIdle (text : String) : Except IdleFault Duration :=
  match Binary64.ofText (trimBlanks text.toList) with
  | .error reason => .error (.notNumber text reason)
  | .ok x =>
    if !x.isFinite || !x.isPositive then .error (.notPositive text)
    else match Duration.ofSeconds? x with
      | none => .error (.tooLong text)
      | some d => if d ≤ Duration.greatestSigned then .ok d else .error (.aboveMaximum text)

/-- A threshold in seconds, with its fault as an error. -/
def readIdleSeconds (text : String) : Except Error Duration :=
  match readIdle text with
  | .ok d => .ok d
  | .error fault => .error (.invalid idleVariable fault.reason)

/-- A truth value, with its fault as an error. -/
def readEnabled (text : String) : Except Error Bool :=
  match readTruth text with
  | some b => .ok b
  | none => .error (.invalid enabledVariable (quote text ++ " is not a boolean"))

/-- A port, with its fault as an error. -/
def readPort (text : String) : Except Error UInt16 :=
  match readUnsigned 65535 (trimBlanks text.toList) with
  | .ok n => .ok (UInt16.ofNat n)
  | .error fault => .error (.invalid portVariable (quote text ++ ": " ++ fault.message))

/-- A variable and what its value does to the settings. -/
structure Override where
  /-- The name of the variable. -/
  variableName : String
  /-- The settings with the value applied. -/
  apply : String → HealthSettings → Except Error HealthSettings

/-- The variables in the order of their application. -/
def overrides : List Override :=
  [⟨enabledVariable, fun text h => (readEnabled text).map fun b => { h with enabled := b }⟩,
   ⟨idleVariable, fun text h => (readIdleSeconds text).map fun d =>
     { h with idleThreshold := d }⟩,
   ⟨hostVariable, fun text h => .ok { h with bindHost := text }⟩,
   ⟨portVariable, fun text h => (readPort text).map fun n => { h with bindPort := n }⟩]

/-- The settings after some variables, and the error that ended it, if any. -/
def applyOverrides (environment : String → Option String) :
    List Override → HealthSettings → HealthSettings × Option Error
  | [], h => (h, none)
  | o :: rest, h => match environment o.variableName with
    | none => applyOverrides environment rest h
    | some text => match o.apply text h with
      | .ok changed => applyOverrides environment rest changed
      | .error e => (h, some e)

/-- The settings after the environment, and the error that ended it, if any. -/
def applyEnvironment (environment : String → Option String) (h : HealthSettings) :
    HealthSettings × Option Error :=
  applyOverrides environment overrides h

end FlowWatch.Config
