import JniBridge.Toml.Value
/-
Taking values apart: texts, truth values, lists and records.

A record is a table with known keys, of which others are passed over.  It may also be written as an
array, whose items then belong to the keys in their order, as many as there are.
-/

namespace JniBridge.Toml.Value

/-- The text, if it is one. -/
def text? : Value → Option String
  | .text s => some s
  | _ => none

/-- The truth value, if it is one. -/
def boolean? : Value → Option Bool
  | .boolean b => some b
  | _ => none

/-- The items of an array, each taken apart. -/
def list? {α : Type} (item? : Value → Option α) : Value → Option (List α)
  | .array _ items => items.mapM item?
  | _ => none

/-- The fields of a record, by their keys.  A date or a time is a record of which no key is known. -/
def record? (keys : List String) : Value → Option (String → Option Value)
  | .table _ entries => some fun key => entries.lookup key
  | .array _ items => some fun key => (keys.zip items).lookup key
  | .moment _ => some fun _ => none
  | _ => none

/-- A field that may be missing. -/
def optional {α : Type} (take? : Value → Option α) : Option Value → Option (Option α)
  | none => some none
  | some v => (take? v).map some

/-- A field with a value for when it is missing. -/
def orElse {α : Type} (missing : α) (take? : Value → Option α) : Option Value → Option α
  | none => some missing
  | some v => take? v

/-- A field that must be there. -/
def required {α : Type} (take? : Value → Option α) (field : Option Value) : Option α :=
  field.bind take?

end JniBridge.Toml.Value
