import JniBridge.Code
import JniBridge.LinkError
import JniBridge.Vocabulary
/-
Actions: the expressions that move one value across the boundary.

For each shape of value an action gives, edge by edge, the expression that converts an incoming one
(`transit`) or makes one up (`generate`).  `transitEdges` and `generateEdges` list the edges on which
they answer; `transit_isOk_iff` and `generate_isOk_iff` say that the lists are exact.
-/

namespace JniBridge

open Vocabulary (helper environment)

inductive Action where
  /-- A scalar, cast to its native spelling or to its type in the native interface. -/
  | primitive (native : String) (jni : JniType)
  /-- A pointer that Java holds as a number; the pointee as it is spelled. -/
  | pointer (pointee : String)
  /-- A native string carried as bytes; the flag, if any, says whether it is released afterwards. -/
  | nativeString (deletion : Option String)
  /-- The flag that travels beside a string. -/
  | deletionFlag
  /-- A struct passed by value, whose copy Java owns. -/
  | structCopy (native : String) (javaClass : Option String)
  /-- A struct inside another struct, whose storage Java borrows. -/
  | nestedStruct (native : String) (javaClass : Option String)
  | enumeration (native : String)
  /-- The object a callback was registered with. -/
  | callbackObject
  /-- The closure that dispatches into a callback of the given interface. -/
  | callbackLambda (callback : JavaType) (code : Closure Expression)
  /-- The receiver of a field accessor. -/
  | structHandle (native : String)

namespace Action

/-- The action's name in messages. -/
def name : Action → String
  | primitive .. => "primitive"
  | pointer _ => "pointer"
  | nativeString _ => "string"
  | deletionFlag => "string deletion flag"
  | structCopy .. => "struct copy"
  | nestedStruct .. => "nested struct reference"
  | enumeration _ => "enum"
  | callbackObject => "callback object"
  | callbackLambda .. => "callback caller lambda"
  | structHandle _ => "current struct handle"

/-- A result is named before it is converted when the conversion mentions it twice. -/
def capturesResult : Action → Bool
  | nativeString _ => true
  | _ => false

/-- The edges on which an incoming expression can be converted. -/
def transitEdges : Action → Direction → List Edge
  | deletionFlag, _ => [.javaToJni]
  | callbackObject, .downcall => [.javaToJni, .jniToNative]
  | callbackObject, .upcall => [.nativeToJni, .jniToJava]
  | callbackLambda .., _ => []
  | structHandle _, _ => [.jniToNative]
  | _, _ => Edge.all

/-- The edges on which a value can be made up. -/
def generateEdges : Action → List Edge
  | callbackLambda .. => [.jniToNative]
  | structHandle _ => [.javaToJni]
  | _ => []

/-! ## Expressions -/

/-- The native pointer behind a struct's Java object; without a wrapper class Java holds it bare. -/
def handleOf (value : String) : Option String → String
  | some _ => value ++ ".getHandle()"
  | none => value

/-- A wrapper object around a native pointer; without a wrapper class Java holds it bare. -/
def wrapHandle (value : String) (tracker : String) : Option String → String
  | some javaClass => javaClass ++ "." ++ tracker ++ "(" ++ value ++ ")"
  | none => value

/-- A native pointer of the given pointee type from the number that Java holds. -/
def toNativePointer (pointee value : String) : String :=
  helper "toNativePointer" ++ "<" ++ pointee ++ ">(" ++ value ++ ")"

/-- The number that Java holds for a native pointer. -/
def toJavaPointer (value : String) : String := helper "toJavaPointer" ++ "(" ++ value ++ ")"

def staticCast (type value : String) : String := "static_cast<" ++ type ++ ">(" ++ value ++ ")"

/-- The expression that takes `value` across an edge, if the action has one for it. -/
def transit? (a : Action) (value : String) (e : Edge) (d : Direction) : Option String :=
  match a, e with
  | primitive .., .javaToJni | primitive .., .jniToJava => some value
  | primitive native _, .jniToNative => some (staticCast native value)
  | primitive _ jni, .nativeToJni => some (staticCast jni.cName value)
  | pointer _, .javaToJni | pointer _, .jniToJava => some value
  | pointer pointee, .jniToNative => some (toNativePointer pointee value)
  | pointer _, .nativeToJni => some (toJavaPointer value)
  | nativeString _, .javaToJni => some (value ++ " == null ? null : " ++ value ++ ".getBytes()")
  | nativeString _, .jniToNative =>
    some (helper "toCppString" ++ "(" ++ environment d ++ ", " ++ value ++ ")")
  | nativeString deletion, .nativeToJni =>
    some (helper "toJavaStringBytes" ++ "(" ++ environment d ++ ", " ++ value ++ ", " ++
      deletion.getD "false" ++ ")")
  | nativeString _, .jniToJava => some (value ++ " == null ? null : new String(" ++ value ++ ")")
  | deletionFlag, .javaToJni => some (value ++ ".isDeletingString()")
  | deletionFlag, _ => none
  | structCopy _ javaClass, .javaToJni => some (handleOf value javaClass)
  | structCopy native _, .jniToNative => some ("*" ++ toNativePointer native value)
  | structCopy record _, .nativeToJni =>
    some (toJavaPointer ("new " ++ record ++ "(" ++ value ++ ")"))
  | structCopy _ javaClass, .jniToJava => some (wrapHandle value "getTrackedAndOwned" javaClass)
  | nestedStruct _ javaClass, .javaToJni => some (handleOf value javaClass)
  | nestedStruct native _, .jniToNative => some (toNativePointer native value)
  | nestedStruct .., .nativeToJni => some (toJavaPointer ("&" ++ value))
  | nestedStruct _ javaClass, .jniToJava =>
    some (wrapHandle value "getTrackedAndUnowned" javaClass)
  | enumeration _, .javaToJni | enumeration _, .jniToJava => some value
  | enumeration native, .jniToNative => some (staticCast native value)
  | enumeration _, .nativeToJni => some (staticCast (JniType.scalar .int).cName value)
  | callbackObject, e =>
    match d, e with
    | .downcall, .javaToJni => some (value ++ ".getHandle()")
    | .downcall, .jniToNative => some ("reinterpret_cast<void*>(" ++ value ++ ")")
    | .upcall, .nativeToJni => some (Vocabulary.callbackContext ++ "->globalObjectRef")
    | .upcall, .jniToJava => some value
    | _, _ => none
  | callbackLambda .., _ => none
  | structHandle native, .jniToNative => some (toNativePointer native value)
  | structHandle _, _ => none

/-- The value the action makes up on an edge, if it has one for it. -/
def generate? : Action → Edge → Option Expression
  | structHandle _, .javaToJni => some (.literal "getHandle()")
  | callbackLambda _ code, .jniToNative => some (.closure code)
  | _, _ => none

/-- Converts `value` across an edge. -/
def transit (a : Action) (value : String) (e : Edge) (d : Direction) :
    Except LinkError Expression :=
  match a.transit? value e d with
  | some text => .ok (.literal text)
  | none => .error (.unsupportedEdge a.name e "transit")

/-- Makes a value up on an edge. -/
def generate (a : Action) (e : Edge) : Except LinkError Expression :=
  match a.generate? e with
  | some value => .ok value
  | none => .error (.unsupportedEdge a.name e "generate")

/-! ## The edge lists are exact -/

theorem transit?_isSome_iff (a : Action) (value : String) (e : Edge) (d : Direction) :
    (a.transit? value e d).isSome ↔ e ∈ a.transitEdges d := by
  cases a <;> cases e <;> cases d <;> simp [transit?, transitEdges, Edge.all]

theorem generate?_isSome_iff (a : Action) (e : Edge) :
    (a.generate? e).isSome ↔ e ∈ a.generateEdges := by
  cases a <;> cases e <;> simp [generate?, generateEdges]

theorem transit_isOk_iff (a : Action) (value : String) (e : Edge) (d : Direction) :
    (∃ x, a.transit value e d = .ok x) ↔ e ∈ a.transitEdges d := by
  rw [← transit?_isSome_iff a value, transit]
  cases a.transit? value e d <;> simp

theorem generate_isOk_iff (a : Action) (e : Edge) :
    (∃ x, a.generate e = .ok x) ↔ e ∈ a.generateEdges := by
  rw [← generate?_isSome_iff, generate]
  cases a.generate? e <;> simp

end Action

end JniBridge
