import JniBridge.Log
import JniBridge.Shape
import JniBridge.Unit.Upcall
/-
Linking: from an operation to its linkage.

Every value is classified by its shape and placed.  A function pointer parameter is special in three
ways: it is made up on the native side from a closure, it needs a callback interface, which is linked
in the other direction, and the parameter after it must be its context, a bare pointer to `void`, which
carries the Java object.  A callback takes no function pointers itself, so linking goes at most two
levels deep; the two levels share `linkWith` and differ in what they do at a function pointer.
-/

namespace JniBridge

/-- Where a value stands in an operation. -/
inductive Position where
  | returned
  | parameter (index : Nat)
deriving DecidableEq, Repr

/-- A classified value. -/
structure Classified where
  value : LinkedValue
  /-- What the next parameter becomes, if this one is a function pointer. -/
  slot : Option LinkedValue := none
  /-- The interface made for a function pointer. -/
  callback : Option CallbackInterface := none

/-- A linked operation and the callback interfaces that its function pointers need. -/
structure LinkedOperation where
  linkage : Linkage
  callbacks : List CallbackInterface

namespace Linking

/-! ## Values that are no function pointers -/

/-- A scalar, marked in Java if it is unsigned there only by agreement. -/
def linkPrimitive (t : CType) : Except LinkError LinkedValue := do
  let shape ← t.primitiveShape
  match shape.jni.asJava? with
  | none => .error (.unsupportedType t.spelling)
  | some plain =>
    let javaType := if shape.unsigned then plain.annotated Vocabulary.unsignedAnnotation else plain
    return .typed (.primitive t.sourceSpelling shape.jni) javaType shape.jni t

/-- The flag by which Java decides whether a native string is released. -/
def deletionFlag (name : String) (d : Direction) : Parameter where
  name := name
  javaType := some Vocabulary.deletionBehaviour
  rawType := some (.ofScalar .boolean)
  jniType := some (.scalar .boolean)
  nativeType := none
  action := .deletionFlag
  direction := d
  intermediate := Vocabulary.intermediate name
  behaviors := Behaviors.absent.set .javaToJni .transit
  isCompanion := true
  isReceiver := false

/-- The flag a string brings: in a downcall, a returned one and one that overwrites a field. -/
def deletionName? (op : Operation) (d : Direction) (position : Position) : Option String :=
  match d, position with
  | .downcall, .returned => some Vocabulary.returnDeletion
  | .downcall, .parameter _ => if op.isSetter then some Vocabulary.overwriteDeletion else none
  | .upcall, _ => none

/-- A native string; only a returned one is released as part of its own conversion. -/
def linkString (op : Operation) (d : Direction) (t : CType) (position : Position) : LinkedValue :=
  let flag := deletionName? op d position
  let released := if position = .returned then flag else none
  { LinkedValue.typed (.nativeString released) JavaType.string (.scalarArray .byte) t with
    companions := (flag.map fun name => deletionFlag name d).toList }

/-- A pointer that Java holds as a number. -/
def linkPointer (t pointee : CType) : LinkedValue :=
  .typed (.pointer pointee.sourceSpelling)
    ((JavaType.ofScalar .long).annotated (Vocabulary.pointerAnnotation t.sourceSpelling))
    (.scalar .long) t

/-- A struct: borrowed through a field, copied otherwise; a bare number without a wrapper. -/
def linkStruct (op : Operation) (ctx : Context) (t : CType) (record : String) : LinkedValue :=
  let wrapper := ctx.wrapper? record
  let javaClass := wrapper.bind fun w => w.javaType.name?
  let javaType := match wrapper with
    | some w => w.javaType
    | none => (JavaType.ofScalar .long).annotated (Vocabulary.pointerAnnotation (record ++ "*"))
  let action : Action :=
    if op.isFieldAccess then .nestedStruct record javaClass else .structCopy record javaClass
  .typed action javaType (.scalar .long) t

/-- The annotation that ties an integer to the constants of an enum class. -/
def magicConstant (ctx : Context) (enumeration : String) : String :=
  Vocabulary.magicConstant ++ "(flagsFromClass = " ++ ctx.package ++ "." ++
    Naming.escape enumeration ++ ".class)"

/-- An enum, marked in Java if its constants are generated. -/
def linkEnum (ctx : Context) (t : CType) (enumeration : String) : LinkedValue :=
  let plain := JavaType.ofScalar .int
  let javaType :=
    if ctx.hasEnum enumeration then plain.annotated (magicConstant ctx enumeration) else plain
  .typed (.enumeration enumeration) javaType (.scalar .int) t

/-- The receiver of a field access, made up in Java and cast in native code. -/
def linkHandle (t : CType) : Except LinkError LinkedValue :=
  match t.pointee?.bind CType.recordName? with
  | none => .error (.handleNotStruct t.spelling)
  | some record => .ok
    { action := .structHandle record
      jniType := some (.scalar .long)
      nativeType := some t
      intermediate := some Vocabulary.structPointer
      behaviors := some ((Behaviors.absent.set .javaToJni .generate).set .jniToNative .transit) }

/-- The receiver of a callback. -/
def linkCallbackObject (t : CType) (callback : JavaType) : LinkedValue :=
  { LinkedValue.typed .callbackObject callback .object t with
    rawType := some callback, isReceiver := true }

/-! ## Classification -/

/-- What to do at a function pointer: given its type, its prototype and where it stands. -/
abbrev PointerPolicy := CType → CType → Position → Logged Classified

/-- Classifies a value by its shape. -/
def classifyWith (policy : PointerPolicy) (op : Operation) (ctx : Context) (d : Direction)
    (t : CType) (position : Position) : Logged Classified :=
  match t.shape with
  | .error e => .fail e
  | .ok .primitive => .ofExcept ((linkPrimitive t).map fun v => { value := v })
  | .ok .nativeString => pure { value := linkString op d t position }
  | .ok (.functionPointer proto) => policy t proto position
  | .ok (.pointer pointee) => pure { value := linkPointer t pointee }
  | .ok (.record name) => pure { value := linkStruct op ctx t name }
  | .ok (.enumeration name) => pure { value := linkEnum ctx t name }

/-- Classifies a parameter by its role, and by its shape if it is an ordinary argument. -/
def classifyParameter (policy : PointerPolicy) (op : Operation) (ctx : Context) (d : Direction)
    (index : Nat) (p : OperationParameter) : Logged Classified :=
  match p.role with
  | .structHandle => .ofExcept ((linkHandle p.type).map fun v => { value := v })
  | .callbackObject callback => pure { value := linkCallbackObject p.type callback }
  | .value => classifyWith policy op ctx d p.type (.parameter index)

/-! ## Operations -/

/-- A function pointer and what its context, the next parameter, becomes. -/
structure Pending where
  owner : String
  slot : LinkedValue

/-- The parameter can be the context of the function pointer before it. -/
def isContext (p : OperationParameter) : Bool := p.role == .value && p.type.isBareVoidPointer

/-- Links the parameters from an index on, the first of them being the context of a function pointer
if one is pending. -/
def linkParameters (policy : PointerPolicy) (op : Operation) (ctx : Context) (d : Direction) :
    Option Pending → Nat → List OperationParameter →
      Logged (List (ParameterLinkage × Option CallbackInterface))
  | none, _, [] => pure []
  | some pending, _, [] => .fail (.contextNotPassed pending.owner)
  | some pending, index, p :: ps => do
    if !isContext p then
      Logged.fail (.contextNotPassed pending.owner)
    else
      Logged.tell (.contextBound p.name pending.owner)
      let linkage ← pending.slot.toParameterLinkage p.name d
      let rest ← linkParameters policy op ctx d none (index + 1) ps
      return (linkage, none) :: rest
  | none, index, p :: ps => do
    let c ← classifyParameter policy op ctx d index p
    Logged.tell (.parameterClassified p.name p.type.spelling c.value.action.name)
    let linkage ← c.value.toParameterLinkage p.name d
    let pending := c.slot.map fun slot => ⟨p.name, slot⟩
    let rest ← linkParameters policy op ctx d pending (index + 1) ps
    return (linkage, c.callback) :: rest

/-- The return value, if there is one. -/
def linkReturn (policy : PointerPolicy) (op : Operation) (ctx : Context) (d : Direction) :
    Logged (Option ReturnValue) := do
  if op.returns.isVoid then return none
  else
    let c ← classifyWith policy op ctx d op.returns .returned
    let r ← c.value.toReturnValue
    return some r

/-- Links an operation: its return value, then its parameters in order. -/
def linkWith (policy : PointerPolicy) (op : Operation) (ctx : Context) (d : Direction) :
    Logged LinkedOperation := do
  let returnValue ← linkReturn policy op ctx d
  let params ← linkParameters policy op ctx d none 0 op.params
  return ⟨⟨op, d, returnValue, params.map Prod.fst⟩, params.filterMap Prod.snd⟩

/-! ## The two levels -/

/-- A callback takes no function pointers. -/
def refusePointer : PointerPolicy := fun t _ position =>
  match position with
  | .returned => .fail .callbackReturned
  | .parameter _ => .fail (.callbackInCallback t.spelling)

end Linking

open Linking in
/-- The interface for a function pointer parameter of an operation, with its method linked. -/
def CallbackInterface.create (operation parameter : String) (proto : CType) (ctx : Context) :
    Logged CallbackInterface := do
  let name := "Callback_" ++ operation ++ "_" ++ parameter
  let type := ctx.nestedType name
  let op ← Operation.runCallback name proto type
  let linked ← linkWith refusePointer op ctx .upcall
  let method ← UpcallUnit.ofLinkage linked.linkage type ctx.names
  return ⟨operation, parameter, name, type, method⟩

namespace Linking

/-- The prototype ends in a parameter that can hold a context. -/
def takesContext (proto : CType) : Bool :=
  (proto.prototype?.bind fun (_, types) => types.getLast?).any CType.isBareVoidPointer

/-- A function pointer with its interface: a closure in native code, and the object for its context. -/
def spawned (t : CType) (callback : CallbackInterface) : Classified where
  value :=
    { action := .callbackLambda callback.method.callbackType callback.method.closure
      nativeType := some t
      behaviors := some (Behaviors.absent.set .jniToNative .generate) }
  slot := some <|
    LinkedValue.typed .callbackObject (Vocabulary.functionPointer callback.type) (.scalar .long)
      CType.voidPointer
  callback := some callback

/-- Makes the interface for a function pointer, if its prototype and the parameter after it allow. -/
def spawnCallback (op : Operation) (ctx : Context) : PointerPolicy := fun t proto position =>
  match position with
  | .returned => .fail .callbackReturned
  | .parameter index =>
    if !takesContext proto then .fail (.contextNotTaken t.spelling)
    else match op.params[index]? with
      | none => .fail (.indexOutOfRange index op.name op.params.length)
      | some p =>
        if !(op.params[index + 1]?).any isContext then .fail (.contextNotPassed p.name)
        else do
          let callback ← CallbackInterface.create op.name p.name proto ctx
          return spawned t callback

/-- What a direction does at a function pointer. -/
def policy (op : Operation) (ctx : Context) : Direction → PointerPolicy
  | .downcall => spawnCallback op ctx
  | .upcall => refusePointer

end Linking

namespace Operation

/-- Links the operation for calls in a direction. -/
def link (op : Operation) (ctx : Context) (d : Direction) : Logged LinkedOperation :=
  Linking.linkWith (Linking.policy op ctx d) op ctx d

/-- Classifies one native value as linking the operation would. -/
def classify (op : Operation) (ctx : Context) (d : Direction) (t : CType) (position : Position) :
    Logged Classified :=
  Linking.classifyWith (Linking.policy op ctx d) op ctx d t position

end Operation

end JniBridge
