import FlowWatch.Config.Settings
import FlowWatch.Config.Shape
import FlowWatch.Toml.Excerpt

/-!
# Settings from documents

The settings start from their defaults, and every known key of the document
changes its own field, in the order of the document; unknown keys are skipped.
A section may also be written as an array, which gives its fields by their
places. The first unsuitable value ends the reading.
-/

namespace FlowWatch.Config

open FlowWatch.Toml

/-- A field of a section: its key, and how a value changes the section. -/
structure Field (σ : Type) where
  /-- The key of the field. -/
  key : String
  /-- The section with the field set from a value. -/
  set : Value → σ → Except Misfit σ

/-- A field set from a value whose parts have a shape. -/
def Field.ofParts {σ α : Type} (key : String) (shape : Value → Except Misfit α)
    (update : α → σ → σ) : Field σ :=
  ⟨key, fun v s => (shape v).map fun a => update a s⟩

/-- A field set from a value that has a shape as a whole. -/
def Field.of {σ α : Type} (key : String) (shape : Value → Except ShapeFault α)
    (update : α → σ → σ) : Field σ :=
  .ofParts key (fun v => ofWhole (shape v)) update

/-- One entry of a table changes the section. -/
def readEntry {σ : Type} (fields : List (Field σ)) (s : σ) (entry : String × Value) :
    Except Misfit σ :=
  match fields.find? (·.key == entry.1) with
  | some field => below (.entry entry.1) (field.set entry.2 s)
  | none => .ok s

/-- The entries of a table change a section one after the other. -/
def readEntries {σ : Type} (fields : List (Field σ)) (entries : List (String × Value))
    (s : σ) : Except Misfit σ :=
  entries.foldlM (readEntry fields) s

/-- A result about a member of an array, seen from the array. A text that is not
a duration is noticed only outside of it, and is put down to the whole array. -/
def belowMember {σ : Type} (index : Nat) (result : Except Misfit σ) : Except Misfit σ :=
  result.mapError fun m => match m.fault with
    | .duration _ => ⟨m.fault, .whole⟩
    | _ => { m with place := m.place.below (.member index) }

/-- The members of an array change the fields of a section by their places. -/
def readPlaces {σ : Type} (fields : List (Field σ)) (items : List Value) (s : σ) :
    Except Misfit σ :=
  (fields.zip items).zipIdx.foldlM
    (fun s pair => belowMember pair.2 (pair.1.1.set pair.1.2 s)) s

/-- A value in place of a section. A date-time counts as a table without known
keys. -/
def readSection {σ : Type} (label : String) (fields : List (Field σ)) (s : σ) :
    Value → Except Misfit σ
  | .table entries => readEntries fields entries s
  | .array items | .rows items => readPlaces fields items s
  | .dateTime => .ok s
  | v => .error ⟨.wrongType v label, .whole⟩

/-- The fields of the health check. -/
def healthFields : List (Field HealthSettings) :=
  [.of "enabled" asTruth fun b s => { s with enabled := b },
   .of "idle_threshold" asDuration fun d s => { s with idleThreshold := d },
   .of "bind_host" asText fun t s => { s with bindHost := t },
   .of "bind_port" (asCount 65536 "u16") fun n s => { s with bindPort := UInt16.ofNat n },
   .ofParts "binding" (asChoice Binding.all Binding.name) fun b s => { s with binding := b }]

/-- The fields of the pipeline. -/
def pipelineFields : List (Field PipelineSettings) :=
  [.ofParts "observe" asTexts fun points s => { s with observe := points },
   .of "unit_interval" asDuration fun d s => { s with unitInterval := d },
   .ofParts "timestamp_mode" (asChoice InputMode.all InputMode.name) fun m s =>
     { s with timestampMode := m },
   .of "start_utc" asText fun t s => { s with startUtc := some t },
   .of "stall_after" asDuration fun d s => { s with stallAfter := some d },
   .of "invalid_warmup_units" (asCount 4294967296 "u32") fun n s =>
     { s with invalidWarmupUnits := UInt32.ofNat n }]

/-- The two sections. Each starts from its defaults. -/
def sectionFields : List (Field Settings) :=
  [.ofParts "health_check"
     (readSection "struct HealthCheckConfig" healthFields HealthSettings.default)
     fun h s => { s with healthCheck := h },
   .ofParts "pipeline"
     (readSection "struct PipelineConfig" pipelineFields PipelineSettings.default)
     fun p s => { s with pipeline := p }]

/-- Why settings cannot be had. -/
inductive Error
  /-- The file cannot be read. -/
  | unreadable (path reason : String)
  /-- The text is not a document, as an excerpt shows. -/
  | syntaxError (message : String) (excerpt : List String)
  /-- The document has a value of the wrong shape, which an excerpt shows. -/
  | shape (message : String) (excerpt : List String)
  /-- A value is present but unusable. -/
  | invalid (key reason : String)
  deriving DecidableEq, Repr

/-- The wording of the error, except for a text that is no document. -/
def Error.message? : Error → Option String
  | .unreadable path reason =>
    some s!"failed to read config file {path}: {reason}"
  | .syntaxError .. => none
  | .shape message _ => some message
  | .invalid key reason => some s!"invalid value for {key}: {reason}"

/-- Why there are no settings: an error, or the end of the program where the
reader of durations has no result. -/
inductive Stop
  /-- An error that can be reported. -/
  | error (e : Error)
  /-- The program ends without a report. -/
  | aborted
  deriving DecidableEq, Repr

/-- What a misfit leads to in a text. -/
def Misfit.stop (text : String) (m : Misfit) : Stop :=
  match m.fault.message? with
  | some message =>
    let cs := text.toList
    .error (.shape message (((m.place.span? cs).map (excerpt cs)).getD []))
  | none => .aborted

/-- The settings of a document. -/
def ofDocument (entries : List (String × Value)) : Except Misfit Settings :=
  readEntries sectionFields entries Settings.default

/-- The settings of a text. -/
def ofText (text : String) : Except Stop Settings :=
  match Toml.read text with
  | .error fault =>
    let cs := text.toList
    .error (.error (.syntaxError fault.cause.message (excerpt cs (fault.span cs))))
  | .ok entries => match ofDocument entries with
    | .ok settings => .ok settings
    | .error misfit => .error (misfit.stop text)

/-- An empty text gives the defaults. -/
example : (ofText "").toOption = some Settings.default := by decide +kernel

end FlowWatch.Config
