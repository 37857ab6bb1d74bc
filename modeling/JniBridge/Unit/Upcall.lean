import JniBridge.Unit.Body
import JniBridge.Context
/-
Upcalls, from native code into Java: native code calls a closure, the closure a static Java
dispatcher, and the dispatcher the method of a callback interface.
-/

namespace JniBridge

/-- The generated code of one upcall. -/
structure UpcallUnit where
  linkage : Linkage
  /-- The interface that users implement. -/
  callbackType : JavaType
  /-- The signature of the closure that native code is given. -/
  lambda : NativeMethod
  /-- The static dispatcher that the closure calls. -/
  caller : JavaMethod
  /-- The method of the interface. -/
  callback : JavaMethod
  run : String
  nativeBody : Body
  javaBody : Body

namespace UpcallUnit

/-- A variable on the native layer. -/
def native (name value : String) : Binding Expression := ⟨none, name, .literal value⟩

/-- The closure's view of what it was registered with. -/
def contextBinding (receiver : Parameter) : Binding Expression :=
  native Vocabulary.callbackContext <|
    Action.staticCast (Vocabulary.helper "FunctionPointerContext" ++ "*") receiver.name

/-- The look-ups of the dispatcher's class and of the dispatcher itself, keyed by their names. -/
def lookupBindings (callbackType : JavaType) (caller : JavaMethod) : List (Binding Expression) :=
  let env := Vocabulary.environment .upcall
  let classKey := Naming.templateString (callbackType.className?.getD "")
  let methodKey := Naming.templateString caller.name
  let descriptorKey := Naming.templateString caller.descriptor
  [native Vocabulary.callbackClassId
      (Vocabulary.helper "getCachedClass" ++ "<" ++ classKey ++ ">(" ++ env ++ ")"),
    native Vocabulary.callbackMethodId
      (Vocabulary.helper "getCachedStaticMethod" ++ "<" ++ classKey ++ ", " ++ methodKey ++ ", " ++
        descriptorKey ++ ">(" ++ env ++ ")")]

/-- The closure's signature. -/
def lambdaOf (l : Linkage) : NativeMethod where
  name := Vocabulary.callbackLambda
  returns := (l.returnValue.map ReturnValue.nativeType).getD CType.void
  params := l.nativeParams

/-- The dispatcher's signature. -/
def callerOf (l : Linkage) (names : MemberNames) : JavaMethod where
  name := names.callerMethod
  returns := (l.returnValue.map ReturnValue.rawType).getD JavaType.nothing
  params := l.allParameters.filterMap Parameter.rawParam?
  isStatic := true

/-- The interface method's signature, which leaves the receiver out. -/
def callbackOf (l : Linkage) (names : MemberNames) : JavaMethod where
  name := names.callbackMethod
  returns := (l.returnValue.map ReturnValue.javaType).getD JavaType.nothing
  params := (l.allParameters.filter fun p => !p.isReceiver).filterMap Parameter.javaParam?
  isStatic := false

/-- The dispatcher's call of the interface method. -/
def dispatch (l : Linkage) (receiver : Parameter) (method : String) : String :=
  Linkage.callText (receiver.javaExpression ++ "." ++ method)
    ((l.allParameters.filter fun p => !p.isReceiver && p.javaType.isSome).map
      Parameter.javaExpression)

/-- All the code around a linked callback, which must have a receiver. -/
def ofLinkage (l : Linkage) (callbackType : JavaType) (names : MemberNames) :
    Except LinkError UpcallUnit := do
  let caller := callerOf l names
  let callback := callbackOf l names
  match l.allParameters.find? Parameter.isReceiver with
  | none => .error .callbackWithoutReceiver
  | some receiver =>
    let javaBody ← l.body .java [] [] (dispatch l receiver callback.name)
    let run ← l.run
    let nativeBody ← l.body .native [contextBinding receiver] (lookupBindings callbackType caller) run
    return ⟨l, callbackType, lambdaOf l, caller, callback, run, nativeBody, javaBody⟩

/-- The closure that glue code passes in the place of the function pointer. -/
def closure (u : UpcallUnit) : Closure Expression where
  params := u.lambda.params.map fun p => (p.type.sourceSpelling, p.name)
  returns := u.lambda.returns.sourceSpelling
  body := u.nativeBody

end UpcallUnit

/-- The callback interface made for one function pointer parameter. -/
structure CallbackInterface where
  /-- The operation that takes the function pointer. -/
  operation : String
  parameter : String
  name : String
  type : JavaType
  method : UpcallUnit

end JniBridge
