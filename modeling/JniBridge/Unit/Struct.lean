import JniBridge.Layout
import JniBridge.Unit.Downcall
/-
Struct wrappers: a getter and a setter for every field that can cross the boundary.

A field that cannot is left out and reported.  Names are given to all fields before any is linked, so it
has taken its names all the same.
-/

namespace JniBridge

/-- A declaration that is left out, and why. -/
structure Skipped where
  kind : DeclKind
  name : String
  reason : LinkError
deriving DecidableEq, Repr

structure FieldAccessors where
  field : String
  getter : DowncallUnit
  setter : DowncallUnit

/-- The wrapper class of a struct. -/
structure StructUnit where
  nativeName : String
  javaType : JavaType
  accessors : List FieldAccessors
  layout : Option StructLayout

/-- The answers among results. -/
def successes {α ε : Type} (results : List (Except ε α)) : List α :=
  results.filterMap fun r => r.toOption

/-- The failures among results. -/
def failures {α ε : Type} (results : List (Except ε α)) : List ε :=
  results.filterMap fun r => match r with
    | .ok _ => none
    | .error e => some e

namespace StructUnit

/-- A field with the names of its accessors. -/
structure NamedField where
  field : NamedType
  getter : String
  setter : String

/-- The getter's name before it is numbered. -/
def getterBase (f : NamedType) : String := Naming.getter f.name f.type.desugared.spelling

/-- Names the accessors of the fields; a name asked for again is numbered. -/
def nameFields (asked : List String) : List NamedType → List NamedField
  | [] => []
  | f :: fs =>
    let getter := getterBase f
    let setter := Naming.setter f.name
    let asked' := getter :: asked
    ⟨f, Naming.numbered getter (asked.count getter + 1),
      Naming.numbered setter (asked'.count setter + 1)⟩ :: nameFields (setter :: asked') fs

/-- An instance method of the wrapper. -/
def accessorSpec (javaType : JavaType) (name : String) : DowncallSpec :=
  { DowncallSpec.ofName name javaType with isInstance := true }

/-- Links both accessors of a field. -/
def linkAccessors (ctx : Context) (record : CType) (javaType : JavaType) (f : NamedField) :
    Logged FieldAccessors := do
  let getter ←
    DowncallUnit.link (Operation.getField record f.field) (accessorSpec javaType f.getter) ctx
  let setter ←
    DowncallUnit.link (Operation.setField record f.field) (accessorSpec javaType f.setter) ctx
  return ⟨f.field.name, getter, setter⟩

/-- Links a field, or reports that it is skipped. -/
def linkField (ctx : Context) (decl : StructDecl) (javaType : JavaType) (f : NamedField) :
    Logged (Except Skipped FieldAccessors) := do
  match ← (linkAccessors ctx decl.recordType javaType f).attempt with
  | .ok accessors => return .ok accessors
  | .error e =>
    let name := decl.name ++ "." ++ f.field.name
    Logged.tell (.fieldSkipped name e)
    return .error ⟨.field, name, e⟩

/-- The layout, if the wrapper is to declare it. -/
def layoutFor (ctx : Context) (decl : StructDecl) (w : Wrapper) :
    Except LinkError (Option StructLayout) :=
  if w.layout then (Layout.ofDecl ctx decl).map some else .ok none

/-- The wrapper of a registered struct, and its fields that are skipped. -/
def link (decl : StructDecl) (ctx : Context) : Logged (StructUnit × List Skipped) := do
  match ctx.wrapper? decl.name with
  | none => .fail (.structNotRegistered decl.name)
  | some wrapper =>
    let layout ← layoutFor ctx decl wrapper
    let results ← (nameFields [] decl.fields).mapM (linkField ctx decl wrapper.javaType)
    return (⟨decl.name, wrapper.javaType, successes results, layout⟩, failures results)

end StructUnit

/-- The generated code of one function. -/
structure FunctionUnit where
  nativeName : String
  method : DowncallUnit

/-- Links a function as a static method of the container. -/
def FunctionUnit.link (decl : FunctionDecl) (javaName : String) (exposeRaw : Bool)
    (ctx : Context) : Logged FunctionUnit := do
  let spec := { DowncallSpec.ofName javaName ctx.containerType with exposeRaw }
  let method ← DowncallUnit.link (Operation.callNative decl) spec ctx
  return ⟨decl.name, method⟩

end JniBridge
