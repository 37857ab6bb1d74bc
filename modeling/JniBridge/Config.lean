import JniBridge.Generation
import JniBridge.Header
import JniBridge.NamePattern
import JniBridge.Toml.Decode
import JniBridge.Toml.Document
/-
Configurations: a TOML document that says what to read and how to name what is generated.

Only the package has to be given; everything else has a default.  Keys that are not known are passed
over, so that a document can serve several tools.
-/

namespace JniBridge

open Toml (Value)

/-- What a configuration asks for. -/
structure Config where
  package : String
  /-- The class that holds the native methods. -/
  container : String := "Native"
  /-- The plan file. -/
  file : String := "bindings.plan"
  includePaths : List String := []
  /-- Arguments for every partition. -/
  clangArgs : List String := []
  partitions : List Partition := []
  names : MemberNames := {}
  methodRules : List Rule := []
  structRules : List Rule := []
deriving DecidableEq, Repr

/-- Why there is no configuration. -/
inductive ConfigError where
  /-- There is no file, or it is not text. -/
  | unreadable
  /-- The text is no TOML document, or a value is missing or of the wrong type. -/
  | malformed
deriving DecidableEq, Repr

/-! ## Parts -/

/-- A list of texts. -/
def texts? : Value → Option (List String) := Value.list? Value.text?

/-- A partition, which must name its headers. -/
def Partition.ofToml? (v : Value) : Option Partition := do
  let field ← v.record? ["headers", "traverse", "clang_args"]
  return {
    headers := ← Value.required texts? (field "headers")
    traverse := ← Value.orElse [] texts? (field "traverse")
    clangArgs := ← Value.orElse [] texts? (field "clang_args") }

/-- The names of members. -/
def MemberNames.ofToml? (v : Value) : Option MemberNames := do
  let field ← v.record? ["callback_interface_method", "callback_caller_method",
    "struct_offset_field", "struct_layout_field", "struct_size_field"]
  let names : MemberNames := {}
  return {
    callbackMethod :=
      ← Value.orElse names.callbackMethod Value.text? (field "callback_interface_method")
    callerMethod := ← Value.orElse names.callerMethod Value.text? (field "callback_caller_method")
    offsetField := ← Value.orElse names.offsetField Value.text? (field "struct_offset_field")
    layoutField := ← Value.orElse names.layoutField Value.text? (field "struct_layout_field")
    sizeField := ← Value.orElse names.sizeField Value.text? (field "struct_size_field") }

/-- A rule; `option` is the key of what it asks beyond the name. -/
def Rule.ofToml? (option : String) (v : Value) : Option Rule := do
  let field ← v.record? ["name_pattern", "name_override", "exclude", option]
  return {
    pattern := ← Value.optional Value.text? (field "name_pattern")
    nameOverride := ← Value.optional Value.text? (field "name_override")
    exclude := ← Value.optional Value.boolean? (field "exclude")
    option := ← Value.optional Value.boolean? (field option) }

namespace Config

/-! ## Reading -/

/-- The configuration that a document describes. -/
def ofToml? (document : Toml.Entries) : Option Config := do
  let field (key : String) := document.lookup key
  let output ← Value.required
    (Value.record? ["package", "container_class", "file"]) (field "output")
  return {
    package := ← Value.required Value.text? (output "package")
    container := ← Value.orElse "Native" Value.text? (output "container_class")
    file := ← Value.orElse "bindings.plan" Value.text? (output "file")
    includePaths := ← Value.orElse [] texts? (field "include_paths")
    clangArgs := ← Value.orElse [] texts? (field "clang_args")
    partitions := ← Value.orElse [] (Value.list? Partition.ofToml?) (field "partition")
    names := ← Value.orElse {} MemberNames.ofToml? (field "namings")
    methodRules :=
      ← Value.orElse [] (Value.list? (Rule.ofToml? "expose_raw_method")) (field "method_rule")
    structRules :=
      ← Value.orElse [] (Value.list? (Rule.ofToml? "generate_layout_meta")) (field "struct_rule") }

/-- Reads a configuration from the bytes of a file, if there is one. -/
def read (content : Option ByteArray) : Except ConfigError Config :=
  match content.bind String.fromUTF8? with
  | none => .error .unreadable
  | some text =>
    match (Toml.read text).bind ofToml? with
    | none => .error .malformed
    | some config => .ok config

/-! ## Use -/

/-- The state in which a run begins, if all patterns are well formed. -/
def context? (config : Config) : Option Context :=
  (RuleBook.compile config.methodRules config.structRules).map fun rules =>
    { package := config.package, container := config.container, names := config.names, rules }

/-- What is reported when a run begins. -/
def startEvent (config : Config) (d : Declarations) : Event :=
  .linkingStarted config.package config.container d.functions.length d.structs.length
    d.enums.length

/-- What cannot be read is what is not there or not text. -/
theorem read_eq_unreadable_iff {content : Option ByteArray} :
    read content = .error .unreadable ↔ content.bind String.fromUTF8? = none := by
  unfold read
  cases content.bind String.fromUTF8? with
  | none => simp
  | some text =>
    simp only [reduceCtorEq, iff_false]
    split <;> simp

end Config

end JniBridge
