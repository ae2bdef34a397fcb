import FlowWatch.Binary64.Basic

/-!
# Values of configuration documents

The value of a document is a tree of tables and arrays over texts, numbers,
truth values and date-times. A table keeps its entries in the order in which
the document brings them up, since that order decides which of several
unsuitable entries is reported. Of a date-time only its kind is kept: no
setting takes one.
-/

namespace FlowWatch.Toml

/-- A value. -/
inductive Value
  /-- A text. -/
  | text (s : String)
  /-- A whole number of 64 bits. -/
  | integer (i : Int)
  /-- A floating-point number. -/
  | real (x : Binary64)
  /-- A truth value. -/
  | truth (b : Bool)
  /-- A date, a time of day, or both. -/
  | dateTime
  /-- Values in order. -/
  | array (items : List Value)
  /-- Tables in order, each of which has a header of its own. -/
  | rows (tables : List Value)
  /-- Named values in order. -/
  | table (entries : List (String × Value))

/-- The entry of a name. -/
def lookup {α : Type} (entries : List (String × α)) (name : String) : Option α :=
  (entries.find? (·.1 == name)).map Prod.snd

section Lookup

variable {α : Type} {entries : List (String × α)} {name : String} {a : α}

/-- A name is looked up in vain exactly if no entry has it. -/
theorem lookup_eq_none_iff : lookup entries name = none ↔ name ∉ entries.map Prod.fst := by
  rw [lookup, Option.map_eq_none_iff, List.find?_eq_none, List.mem_map]
  constructor
  · rintro hnone ⟨e, he, rfl⟩
    exact hnone e he (beq_self_eq_true e.1)
  · intro hnone e he hname
    exact hnone ⟨e, he, beq_iff_eq.1 hname⟩

/-- What is looked up stands under the name. -/
theorem mem_of_lookup (h : lookup entries name = some a) : (name, a) ∈ entries := by
  obtain ⟨e, he, rfl⟩ := Option.map_eq_some_iff.1 h
  have hname := List.find?_some he
  rw [← beq_iff_eq.1 hname]
  exact List.mem_of_find?_eq_some he

end Lookup

/-- The kind of a value, as messages name it. -/
def Value.kind : Value → String
  | .text _ => "string"
  | .integer _ => "integer"
  | .real _ => "float"
  | .truth _ => "boolean"
  | .dateTime => "datetime"
  | .array _ | .rows _ => "array"
  | .table _ => "inline table"

end FlowWatch.Toml
