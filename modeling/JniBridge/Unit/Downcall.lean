import JniBridge.Linking
import JniBridge.Symbol
/-
Downcalls, from Java into native code: a public Java method converts its arguments and calls a raw
native method, whose glue function converts them again and performs the operation.
-/

namespace JniBridge

/-- How the methods of a downcall are named and seen. -/
structure DowncallSpec where
  javaName : String
  rawName : String
  /-- The class that declares the raw method. -/
  owner : JavaType
  /-- The public method is called on an object. -/
  isInstance : Bool := false
  exposeRaw : Bool := false

/-- A static method and a private raw method named after it. -/
def DowncallSpec.ofName (javaName : String) (owner : JavaType) : DowncallSpec :=
  { javaName, rawName := javaName ++ "Raw", owner }

/-- The generated code of one downcall. -/
structure DowncallUnit where
  linked : LinkedOperation
  javaMethod : JavaMethod
  rawMethod : JavaMethod
  glueMethod : GlueMethod
  nativeMethod : NativeMethod
  run : String
  javaBody : Body
  glueBody : Body

namespace DowncallUnit

def linkage (u : DowncallUnit) : Linkage := u.linked.linkage

/-- The public method's signature. -/
def javaMethodOf (l : Linkage) (spec : DowncallSpec) : JavaMethod where
  name := spec.javaName
  returns := (l.returnValue.map ReturnValue.javaType).getD JavaType.nothing
  params := l.allParameters.filterMap Parameter.javaParam?
  isStatic := !spec.isInstance

/-- The raw method's signature. -/
def rawMethodOf (l : Linkage) (spec : DowncallSpec) : JavaMethod where
  name := spec.rawName
  returns := (l.returnValue.map ReturnValue.rawType).getD JavaType.nothing
  params := l.allParameters.filterMap Parameter.rawParam?
  isPublic := spec.exposeRaw
  isStatic := true
  isNative := true

/-- The glue function's signature. -/
def glueMethodOf (l : Linkage) (spec : DowncallSpec) : GlueMethod where
  name := Symbol.glueName spec.owner spec.rawName
  returns := (l.returnValue.map ReturnValue.jniType).getD .void
  params := l.allParameters.filterMap Parameter.jniParam?

/-- The signature of what is called in native code. -/
def nativeMethodOf (l : Linkage) : NativeMethod where
  name := l.operation.name
  returns := l.operation.returns
  params := l.nativeParams

/-- The call of the raw method. -/
def rawCall (l : Linkage) (spec : DowncallSpec) : String :=
  Linkage.callText spec.rawName
    ((l.allParameters.filter fun p => p.rawType.isSome).map Parameter.javaExpression)

/-- All the code around a linked operation. -/
def ofLinked (linked : LinkedOperation) (spec : DowncallSpec) :
    Except LinkError DowncallUnit := do
  let l := linked.linkage
  let javaBody ← l.body .java [] [] (rawCall l spec)
  let run ← l.run
  let glueBody ← l.body .native [] [] run
  return ⟨linked, javaMethodOf l spec, rawMethodOf l spec, glueMethodOf l spec, nativeMethodOf l,
    run, javaBody, glueBody⟩

/-- Links an operation as a downcall and writes the code around it. -/
def link (op : Operation) (spec : DowncallSpec) (ctx : Context) : Logged DowncallUnit := do
  let linked ← op.link ctx .downcall
  ofLinked linked spec

end DowncallUnit

end JniBridge
