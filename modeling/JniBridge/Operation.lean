import JniBridge.Declarations
import JniBridge.LinkError
import JniBridge.Vocabulary
/-
Operations: the native unit of work that generated methods wrap.

An operation is a call of a function, an access to a field through a pointer to its struct, or the
call of a Java callback from native code.  Besides its parameters' types it says what role each plays.
-/

namespace JniBridge

/-- What a parameter is, before its type is looked at. -/
inductive Role where
  /-- An ordinary argument. -/
  | value
  /-- The receiver of a field access, a pointer to the struct. -/
  | structHandle
  /-- The receiver of a callback, which on the Java side is the callback interface. -/
  | callbackObject (callback : JavaType)
deriving DecidableEq

structure OperationParameter where
  name : String
  type : CType
  role : Role := .value

inductive OperationKind where
  | callNative | getField | setField | runCallback
deriving DecidableEq, Repr

/-- `name` is that of the function, the field or the callback interface. -/
structure Operation where
  kind : OperationKind
  name : String
  returns : CType
  params : List OperationParameter

namespace Operation

/-- A parameter as an ordinary argument. -/
def argument (p : NamedType) : OperationParameter := ⟨p.name, p.type, .value⟩

/-- The receiver of an access to a field of the struct. -/
def receiver (record : CType) : OperationParameter :=
  ⟨Vocabulary.handle, CType.pointerTo record, .structHandle⟩

/-- The call of a function. -/
def callNative (decl : FunctionDecl) : Operation :=
  ⟨.callNative, decl.name, decl.returns, decl.params.map argument⟩

/-- Reading a field. -/
def getField (record : CType) (field : NamedType) : Operation :=
  ⟨.getField, field.name, field.type, [receiver record]⟩

/-- Writing a field. -/
def setField (record : CType) (field : NamedType) : Operation :=
  ⟨.setField, field.name, CType.void,
    [receiver record, ⟨Vocabulary.newValue, field.type, .value⟩]⟩

/-- Calling back into Java: the parameters of the prototype under names of their own, the last one
being the object the callback was registered with. -/
def runCallback (name : String) (proto : CType) (callback : JavaType) :
    Except LinkError Operation :=
  match proto.prototype? with
  | none => .error (.unsupportedType proto.spelling)
  | some (returns, types) =>
    match types.getLast? with
    | none => .error (.contextNotTaken proto.spelling)
    | some context =>
      .ok ⟨.runCallback, name, returns,
        types.dropLast.mapIdx (fun i t => ⟨Vocabulary.proxyParameter i, t, .value⟩) ++
          [⟨Vocabulary.callbackObject, context, .callbackObject callback⟩]⟩

/-- A field is read or written, so structs are borrowed and not copied. -/
def isFieldAccess (op : Operation) : Bool := op.kind == .getField || op.kind == .setField

def isSetter (op : Operation) : Bool := op.kind == .setField

end Operation

end JniBridge
