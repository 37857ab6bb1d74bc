import JniBridge.Linkage
/-
Bodies of generated methods: every parameter converted in turn, then the call, then the result.

One function builds the bodies on both layers.  It walks all generated parameters of a linkage, binds
the converted value of each one that takes the layer's edge, and ends with the call; a result is
converted on the edge that leads back.
-/

namespace JniBridge

/-- The layer on which a body runs. -/
inductive Layer where
  | java | native
deriving DecidableEq, Repr

namespace Layer

/-- The edge a parameter takes on the layer. -/
def parameterEdge : Layer → Direction → Edge
  | java, d => d.javaEdge
  | native, d => d.nativeEdge

/-- The edge a return value takes on the layer. -/
def returnEdge : Layer → Direction → Edge
  | java, d => d.javaReturnEdge
  | native, d => d.nativeReturnEdge

end Layer

/-- The type with which a converted parameter is declared; native code leaves it to the compiler. -/
def Parameter.bindingType (p : Parameter) : Edge → Option JavaType
  | .javaToJni => p.rawType
  | .jniToJava => p.javaType
  | .jniToNative | .nativeToJni => none

/-- The variable that holds the converted parameter, if the parameter takes the edge. -/
def Parameter.binding (p : Parameter) (e : Edge) : Except LinkError (Option (Binding Expression)) :=
  (p.on e).map fun value => value.map fun v => ⟨p.bindingType e, p.intermediate, v⟩

/-- The variable that captures a result, as the layer declares it. -/
def ReturnValue.captureType (r : ReturnValue) : Layer → Direction → Option JavaType
  | .native, _ => none
  | .java, .downcall => some r.rawType
  | .java, .upcall => some r.javaType

/-- The end of a body that returns the value of `run`. -/
def ReturnValue.completion (r : ReturnValue) (layer : Layer) (d : Direction) (run : String) :
    Except LinkError (Completion Expression) :=
  let e := layer.returnEdge d
  if r.action.capturesResult then
    (r.action.transit Vocabulary.returnValue e d).map fun value =>
      .answer (some ⟨r.captureType layer d, Vocabulary.returnValue, .literal run⟩) value
  else
    (r.action.transit run e d).map fun value => .answer none value

namespace Linkage

/-- The variables that hold the converted parameters on a layer. -/
def bindings (l : Linkage) (layer : Layer) : Except LinkError (List (Binding Expression)) :=
  (l.allParameters.mapM fun (p : Parameter) => p.binding (layer.parameterEdge l.direction)).map
    fun bs => bs.filterMap id

/-- The end of the body on a layer. -/
def completion (l : Linkage) (layer : Layer) (run : String) :
    Except LinkError (Completion Expression) :=
  match l.returnValue with
  | none => .ok (.statement run)
  | some r => r.completion layer l.direction run

/-- The body on a layer, with bindings of its own before and after those of the parameters. -/
def body (l : Linkage) (layer : Layer) (before after : List (Binding Expression)) (run : String) :
    Except LinkError Body := do
  let bound ← l.bindings layer
  let completion ← l.completion layer run
  return ⟨before ++ bound ++ after, completion⟩

end Linkage

end JniBridge
