import JniBridge.Action
import JniBridge.Naming
import JniBridge.Operation
import JniBridge.Signature
/-
Linkages: how the values of one operation cross the boundary.

Linking settles for each value which type it has on each layer (`LinkedValue`) and then places it: as
a `Parameter`, with a behaviour on every edge, or as the `ReturnValue`.  A parameter may bring
companions, which travel right after it.
-/

namespace JniBridge

/-! ## Values and parameters -/

/-- A parameter of the generated methods, on every layer on which it exists. -/
structure Parameter where
  name : String
  javaType : Option JavaType
  /-- The type that the raw native method declares. -/
  rawType : Option JavaType
  jniType : Option JniType
  nativeType : Option CType
  action : Action
  direction : Direction
  /-- The variable that holds the converted value. -/
  intermediate : String
  behaviors : Behaviors
  /-- A companion need not reach the callee. -/
  isCompanion : Bool
  /-- The Java call is made on this parameter. -/
  isReceiver : Bool

/-- A value whose types and action are settled, not yet placed. -/
structure LinkedValue where
  action : Action
  javaType : Option JavaType := none
  /-- The raw type, where it is not the one that belongs to the native-interface type. -/
  rawType : Option JavaType := none
  jniType : Option JniType := none
  nativeType : Option CType := none
  intermediate : Option String := none
  /-- What happens on the edges, where it is not the usual. -/
  behaviors : Option Behaviors := none
  isCompanion : Bool := false
  isReceiver : Bool := false
  companions : List Parameter := []

/-- A source parameter with its companions. -/
structure ParameterLinkage where
  parameter : Parameter
  companions : List Parameter

/-- The return value of an operation that returns one. -/
structure ReturnValue where
  javaType : JavaType
  rawType : JavaType
  jniType : JniType
  nativeType : CType
  action : Action
  /-- Parameters that control how the value is converted. -/
  companions : List Parameter

/-- How an operation crosses the boundary. -/
structure Linkage where
  operation : Operation
  direction : Direction
  returnValue : Option ReturnValue
  params : List ParameterLinkage

namespace LinkedValue

/-- A value with a type on every layer. -/
def typed (action : Action) (javaType : JavaType) (jniType : JniType) (nativeType : CType) :
    LinkedValue :=
  { action, javaType := some javaType, jniType := some jniType, nativeType := some nativeType }

/-- The type that the raw method declares. -/
def declaredRaw (v : LinkedValue) : Option JavaType :=
  v.rawType.or (v.jniType.bind JniType.asJava?)

/-- Both layers of the edge have a type; at the Java layer the raw type will do. -/
def typedOn (v : LinkedValue) (e : Edge) : Bool :=
  if e.touchesJava then v.jniType.isSome && (v.javaType.isSome || v.declaredRaw.isSome)
  else v.jniType.isSome && v.nativeType.isSome

/-- What happens to the value as a parameter: what it says itself, or the usual. -/
def behaviorsIn (v : LinkedValue) (d : Direction) : Behaviors :=
  v.behaviors.getD <|
    .usual d (v.javaType.isSome && v.jniType.isSome) (v.jniType.isSome && v.nativeType.isSome)

/-- An edge on which the value says it is converted without having the types for it. -/
def untypedEdge? (v : LinkedValue) (d : Direction) : Option Edge :=
  if v.isCompanion then none
  else v.behaviors.bind fun bs =>
    [d.javaEdge, d.nativeEdge].find? fun e => bs.get e == .transit && !v.typedOn e

/-- Places the value as a parameter. -/
def toParameter (v : LinkedValue) (name : String) (d : Direction) : Except LinkError Parameter :=
  let behaviors := v.behaviorsIn d
  match v.untypedEdge? d with
  | some e => .error (.edgeUntyped name e)
  | none =>
    if !v.isCompanion && !behaviors.supports d.finalEdge then
      .error (.edgeMissing name v.action.name d.finalEdge)
    else .ok
      { name, direction := d, behaviors
        javaType := v.javaType, rawType := v.declaredRaw
        jniType := v.jniType, nativeType := v.nativeType, action := v.action
        intermediate := v.intermediate.getD (Vocabulary.intermediate name)
        isCompanion := v.isCompanion, isReceiver := v.isReceiver }

/-- Places the value as a parameter, with its companions. -/
def toParameterLinkage (v : LinkedValue) (name : String) (d : Direction) :
    Except LinkError ParameterLinkage :=
  (v.toParameter name d).map fun p => ⟨p, v.companions⟩

/-- Places the value as a return value, which needs a type on every layer. -/
def toReturnValue (v : LinkedValue) : Except LinkError ReturnValue :=
  match v.javaType, v.jniType, v.nativeType with
  | some javaType, some jniType, some nativeType =>
    match v.rawType.or jniType.asJava? with
    | some rawType => .ok ⟨javaType, rawType, jniType, nativeType, v.action, v.companions⟩
    | none => .error (.returnOpaque jniType)
  | _, _, _ => .error (.returnUntyped v.action.name)

end LinkedValue

namespace Parameter

/-- The parameter on an edge: nothing if it does not take the edge. -/
def on (p : Parameter) (e : Edge) : Except LinkError (Option Expression) :=
  match p.behaviors.get e with
  | .none => .ok none
  | .transit => (p.action.transit p.name e p.direction).map some
  | .generate => (p.action.generate e).map some

/-- The variable to use behind an edge: the intermediate one if the edge is taken. -/
def convertedOn (p : Parameter) (e : Edge) : String :=
  if p.behaviors.supports e then p.intermediate else p.name

/-- How the native call refers to the parameter. -/
def nativeExpression (p : Parameter) : String := p.convertedOn p.direction.nativeEdge

/-- How the Java call refers to the parameter. -/
def javaExpression (p : Parameter) : String := p.convertedOn p.direction.javaEdge

/-- The parameter of the public Java method. -/
def javaParam? (p : Parameter) : Option (Param JavaType) :=
  p.javaType.map fun t => ⟨t, Naming.escape p.name⟩

/-- The parameter of the raw Java method. -/
def rawParam? (p : Parameter) : Option (Param JavaType) :=
  p.rawType.map fun t => ⟨t, Naming.escape p.name⟩

/-- The parameter of the glue function. -/
def jniParam? (p : Parameter) : Option (Param JniType) := p.jniType.map fun t => ⟨t, p.name⟩

/-- The parameter of the native function. -/
def nativeParam? (p : Parameter) : Option (Param CType) := p.nativeType.map fun t => ⟨t, p.name⟩

end Parameter

/-- The parameters that a source parameter gives rise to. -/
def ParameterLinkage.generated (l : ParameterLinkage) : List Parameter :=
  l.parameter :: l.companions

namespace Linkage

/-- All generated parameters: each source parameter and its companions, then those of the return
value. -/
def allParameters (l : Linkage) : List Parameter :=
  l.params.flatMap ParameterLinkage.generated ++
    (l.returnValue.map ReturnValue.companions).getD []

/-- The parameters of the native function. -/
def nativeParams (l : Linkage) : List (Param CType) :=
  l.params.filterMap fun p => p.parameter.nativeParam?

/-! ## The native call -/

/-- A call of a function. -/
def callText (function : String) (arguments : List String) : String :=
  function ++ "(" ++ ", ".intercalate arguments ++ ")"

/-- The assignment to a field, or the call that overwrites the string in it and may release the old
one. -/
def assignText (target value : String) (deletion : Option Parameter) : String :=
  let converted := callText (Vocabulary.helper "passAsC") [value]
  match deletion with
  | some flag => callText (Vocabulary.helper "overwriteString") [target, converted, flag.name]
  | none => target ++ " = " ++ converted

/-- How native code calls the static dispatcher of a callback. -/
def callbackText (returns : JniType) (arguments : List String) : String :=
  callText
    ("(" ++ Vocabulary.environment .upcall ++ ")->CallStatic" ++ returns.callSuffix ++ "Method")
    (Vocabulary.callbackClassId :: Vocabulary.callbackMethodId :: arguments)

/-- The native statement or expression that performs an operation on the parameters as this linkage
converts them. -/
def runOperation (l : Linkage) (op : Operation) : Except LinkError String :=
  let arguments := l.params.map fun p => p.parameter.nativeExpression
  match op.kind with
  | .callNative => .ok (callText op.name arguments)
  | .getField =>
    match arguments with
    | receiver :: _ => .ok (receiver ++ "->" ++ op.name)
    | [] => .error .getterWithoutHandle
  | .setField =>
    match arguments with
    | [receiver, value] =>
      .ok (assignText (receiver ++ "->" ++ op.name) value
        (l.params[1]?.bind fun p => p.companions.head?))
    | _ => .error .setterArity
  | .runCallback =>
    .ok (callbackText ((l.returnValue.map ReturnValue.jniType).getD .void) arguments)

/-- The native statement or expression that performs the linked operation itself. -/
def run (l : Linkage) : Except LinkError String := l.runOperation l.operation

end Linkage

end JniBridge
