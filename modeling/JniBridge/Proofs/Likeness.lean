import JniBridge.Proofs.Together
import JniBridge.Unit.Downcall
/-
Linkages that are alike, and the code around them.

Two linkages of one operation may differ in Java's half of it, because wrappers and enums differ, or in
how native types are built, because only their spellings get into generated code.  A `Likeness` says
which of the two is left open.  What is never left open is the native half: names, raw types,
native-interface types, behaviours, and what an action does on the native edges.

The code around linkages that are alike is alike (`UpcallUnit.ofLinkage_alike`,
`DowncallUnit.ofLinked_alike`), and it is written for one of them exactly if it is for the other.
-/

namespace JniBridge

/-- What two runs have in common beyond the native half. -/
structure Likeness where
  /-- Java's half is the same. -/
  java : Prop
  /-- Native types are equal and not only spelled alike, and so are failures. -/
  exact : Prop

namespace Likeness

variable (k : Likeness)

/-- The same, if Java's half is. -/
def Java {α : Type} (a b : α) : Prop := k.java → a = b

/-- The types are spelled alike where generated code spells them. -/
structure Native (t t' : CType) : Prop where
  spelled : t.sourceSpelling = t'.sourceSpelling
  exact : k.exact → t = t'

def Failure (e e' : LinkError) : Prop := k.exact → e = e'

/-- The same on the native layer; on the Java layer, if Java's half is. -/
def On {α : Type} : Layer → α → α → Prop
  | .native, a, b => a = b
  | .java, a, b => k.Java a b

variable {k}

theorem Native.refl (t : CType) : k.Native t t := ⟨rfl, fun _ => rfl⟩

theorem Failure.refl (e : LinkError) : k.Failure e e := fun _ => rfl

theorem On.of_eq {α : Type} {a b : α} (layer : Layer) (h : a = b) : k.On layer a b := by
  cases layer with
  | native => exact h
  | java => exact fun _ => h

theorem On.congr {α β : Type} {layer : Layer} {a b : α} (f : α → β) (h : k.On layer a b) :
    k.On layer (f a) (f b) := by
  cases layer with
  | native => exact congrArg f h
  | java => exact fun hjava => congrArg f (h hjava)

theorem On.congr₂ {α β γ : Type} {layer : Layer} {a b : α} {a' b' : β} (f : α → β → γ)
    (h : k.On layer a b) (h' : k.On layer a' b') : k.On layer (f a a') (f b b') := by
  cases layer with
  | native => exact congrArg₂ f h h'
  | java => exact fun hjava => congrArg₂ f (h hjava) (h' hjava)

end Likeness

variable {k : Likeness}

/-! ## Actions -/

/-- The actions are the same but for the wrapper classes that they name. -/
inductive Action.SameNatively : Action → Action → Prop
  | refl (a : Action) : SameNatively a a
  | structCopy (record : String) (javaClass javaClass' : Option String) :
    SameNatively (.structCopy record javaClass) (.structCopy record javaClass')
  | nestedStruct (record : String) (javaClass javaClass' : Option String) :
    SameNatively (.nestedStruct record javaClass) (.nestedStruct record javaClass')

structure Action.Alike (k : Likeness) (a a' : Action) : Prop where
  native : a.SameNatively a'
  java : k.Java a a'

namespace Action

theorem Alike.refl (a : Action) : Alike k a a := ⟨.refl a, fun _ => rfl⟩

variable {a a' : Action}

theorem SameNatively.name (h : a.SameNatively a') : a.name = a'.name := by
  cases h <;> rfl

theorem SameNatively.capturesResult (h : a.SameNatively a') :
    a.capturesResult = a'.capturesResult := by
  cases h <;> rfl

/-- Wrapper classes are made up nowhere. -/
theorem SameNatively.generate (h : a.SameNatively a') (e : Edge) : a.generate e = a'.generate e := by
  cases h with
  | refl => rfl
  | structCopy | nestedStruct => cases e <;> rfl

/-- On the native edges the actions do the same. -/
theorem SameNatively.transit_native (h : a.SameNatively a') (value : String) {e : Edge}
    (he : e.touchesJava = false) (d : Direction) : a.transit value e d = a'.transit value e d := by
  cases h with
  | refl => rfl
  | structCopy | nestedStruct =>
    cases e with
    | jniToNative | nativeToJni => rfl
    | javaToJni | jniToJava => exact nomatch he

/-- On the Java edges they do something together. -/
theorem Alike.transit_java (h : a.Alike k a') (value : String) (e : Edge) (d : Direction) :
    Together k.Java k.Failure (a.transit value e d) (a'.transit value e d) := by
  have hjava : k.Java (a.transit value e d) (a'.transit value e d) := fun hk => by rw [h.java hk]
  cases h.native with
  | refl => exact Together.refl _ (fun _ _ => rfl) Likeness.Failure.refl
  | structCopy | nestedStruct =>
    cases e with
    | jniToNative | nativeToJni | javaToJni | jniToJava =>
      exact .ok fun hk => Except.ok.inj (hjava hk)

/-- So on the edges of either layer they do the same, as far as that layer is to be the same. -/
theorem Alike.transit (h : a.Alike k a') (value : String) (layer : Layer) {e : Edge}
    (he : layer = .native → e.touchesJava = false) (d : Direction) :
    Together (k.On layer) k.Failure (a.transit value e d) (a'.transit value e d) := by
  cases layer with
  | native =>
    rw [h.native.transit_native value (he rfl) d]
    exact Together.refl _ (fun _ => rfl) Likeness.Failure.refl
  | java => exact h.transit_java value e d

end Action

/-! ## Parameters and values -/

structure Parameter.Alike (k : Likeness) (p p' : Parameter) : Prop where
  name : p.name = p'.name
  inJava : p.javaType.isSome = p'.javaType.isSome
  java : k.Java p.javaType p'.javaType
  rawType : p.rawType = p'.rawType
  jniType : p.jniType = p'.jniType
  nativeType : Option.Rel k.Native p.nativeType p'.nativeType
  action : p.action.Alike k p'.action
  direction : p.direction = p'.direction
  intermediate : p.intermediate = p'.intermediate
  behaviors : p.behaviors = p'.behaviors
  isCompanion : p.isCompanion = p'.isCompanion
  isReceiver : p.isReceiver = p'.isReceiver

theorem Parameter.Alike.refl (p : Parameter) : Alike k p p where
  name := rfl
  inJava := rfl
  java := fun _ => rfl
  rawType := rfl
  jniType := rfl
  nativeType := by
    cases p.nativeType with
    | none => exact .none
    | some t => exact .some (Likeness.Native.refl t)
  action := Action.Alike.refl p.action
  direction := rfl
  intermediate := rfl
  behaviors := rfl
  isCompanion := rfl
  isReceiver := rfl

/-- The flags that a value brings are the same on both sides. -/
structure LinkedValue.Alike (k : Likeness) (v v' : LinkedValue) : Prop where
  action : v.action.Alike k v'.action
  inJava : v.javaType.isSome = v'.javaType.isSome
  java : k.Java v.javaType v'.javaType
  rawType : v.rawType = v'.rawType
  jniType : v.jniType = v'.jniType
  nativeType : Option.Rel k.Native v.nativeType v'.nativeType
  intermediate : v.intermediate = v'.intermediate
  behaviors : v.behaviors = v'.behaviors
  isCompanion : v.isCompanion = v'.isCompanion
  isReceiver : v.isReceiver = v'.isReceiver
  companions : v.companions = v'.companions

/-- A value with a type on every layer. -/
theorem LinkedValue.typed_alike {a a' : Action} {java java' : JavaType} {j : JniType}
    {t t' : CType} (ha : a.Alike k a') (hjava : k.Java java java') (ht : k.Native t t') :
    (typed a java j t).Alike k (typed a' java' j t') where
  action := ha
  inJava := rfl
  java := fun hk => congrArg some (hjava hk)
  rawType := rfl
  jniType := rfl
  nativeType := .some ht
  intermediate := rfl
  behaviors := rfl
  isCompanion := rfl
  isReceiver := rfl
  companions := rfl

structure ParameterLinkage.Alike (k : Likeness) (l l' : ParameterLinkage) : Prop where
  parameter : l.parameter.Alike k l'.parameter
  companions : l.companions = l'.companions

structure ReturnValue.Alike (k : Likeness) (r r' : ReturnValue) : Prop where
  java : k.Java r.javaType r'.javaType
  rawType : r.rawType = r'.rawType
  jniType : r.jniType = r'.jniType
  nativeType : k.Native r.nativeType r'.nativeType
  action : r.action.Alike k r'.action
  companions : r.companions = r'.companions

/-- The operations are called alike. -/
structure Operation.Alike (k : Likeness) (op op' : Operation) : Prop where
  kind : op.kind = op'.kind
  name : op.name = op'.name
  returns : k.Native op.returns op'.returns

structure Linkage.Alike (k : Likeness) (l l' : Linkage) : Prop where
  operation : l.operation.Alike k l'.operation
  direction : l.direction = l'.direction
  returnValue : Option.Rel (ReturnValue.Alike k) l.returnValue l'.returnValue
  params : List.Forall₂ (ParameterLinkage.Alike k) l.params l'.params

/-! ## Placing -/

namespace LinkedValue.Alike

variable {v v' : LinkedValue}

theorem declaredRaw (h : v.Alike k v') : v.declaredRaw = v'.declaredRaw := by
  rw [LinkedValue.declaredRaw, LinkedValue.declaredRaw, h.rawType, h.jniType]

theorem behaviorsIn (h : v.Alike k v') (d : Direction) : v.behaviorsIn d = v'.behaviorsIn d := by
  rw [LinkedValue.behaviorsIn, LinkedValue.behaviorsIn, h.behaviors, h.inJava, h.jniType,
    isSome_eq_of_rel h.nativeType]

theorem untypedEdge? (h : v.Alike k v') (d : Direction) : v.untypedEdge? d = v'.untypedEdge? d := by
  have htyped : v.typedOn = v'.typedOn := by
    funext e
    rw [typedOn, typedOn, h.jniType, h.inJava, h.declaredRaw, isSome_eq_of_rel h.nativeType]
  rw [LinkedValue.untypedEdge?, LinkedValue.untypedEdge?, h.isCompanion, h.behaviors, htyped]

/-- Values that are alike are placed alike, or neither is. -/
theorem toParameterLinkage (h : v.Alike k v') (name : String) (d : Direction) :
    Together (ParameterLinkage.Alike k) k.Failure (v.toParameterLinkage name d)
      (v'.toParameterLinkage name d) := by
  unfold LinkedValue.toParameterLinkage LinkedValue.toParameter
  refine Together.map ?_
  dsimp only
  rw [← h.untypedEdge? d]
  cases v.untypedEdge? d with
  | some e => exact .error (Likeness.Failure.refl _)
  | none =>
    dsimp only
    rw [← h.isCompanion, ← h.behaviorsIn d, ← h.action.native.name]
    split
    · exact .error (Likeness.Failure.refl _)
    · refine .ok ⟨?_, h.companions⟩
      exact
        { name := rfl, inJava := h.inJava, java := h.java, rawType := h.declaredRaw
          jniType := h.jniType, nativeType := h.nativeType, action := h.action, direction := rfl
          intermediate := by simp only [h.intermediate]
          behaviors := rfl, isCompanion := rfl
          isReceiver := h.isReceiver }

theorem toReturnValue (h : v.Alike k v') :
    Together (ReturnValue.Alike k) k.Failure v.toReturnValue v'.toReturnValue := by
  obtain ⟨action, java, raw, jni, native, intermediate, behaviors, companion, receiver,
    companions⟩ := v
  obtain ⟨action', java', raw', jni', native', intermediate', behaviors', companion', receiver',
    companions'⟩ := v'
  obtain rfl : raw = raw' := h.rawType
  obtain rfl : jni = jni' := h.jniType
  have hname : action.name = action'.name := h.action.native.name
  unfold LinkedValue.toReturnValue
  dsimp only
  rw [hname]
  have hin : java.isSome = java'.isSome := h.inJava
  have hjava : k.Java java java' := h.java
  have hnative : Option.Rel k.Native native native' := h.nativeType
  cases java with
  | none =>
    obtain rfl : java' = none := Option.isNone_iff_eq_none.1 (by simpa using hin.symm)
    exact .error (Likeness.Failure.refl _)
  | some java =>
    obtain ⟨java', rfl⟩ := Option.isSome_iff_exists.1 hin.symm
    cases jni with
    | none => exact .error (Likeness.Failure.refl _)
    | some j =>
      cases hnative with
      | none => exact .error (Likeness.Failure.refl _)
      | some ht =>
        dsimp only
        cases raw.or j.asJava? with
        | none => exact .error (Likeness.Failure.refl _)
        | some rawType =>
          exact .ok ⟨fun hk => Option.some.inj (hjava hk), rfl, rfl, ht, h.action, h.companions⟩

end LinkedValue.Alike

/-! ## Parameters on the layers -/

/-- The edges on the native layer do not touch Java. -/
theorem Layer.parameterEdge_native (layer : Layer) (d : Direction) :
    layer = .native → (layer.parameterEdge d).touchesJava = false := by
  rintro rfl
  cases d <;> rfl

theorem Layer.returnEdge_native (layer : Layer) (d : Direction) :
    layer = .native → (layer.returnEdge d).touchesJava = false := by
  rintro rfl
  cases d <;> rfl

namespace Parameter.Alike

variable {p p' : Parameter}

theorem nativeExpression (h : p.Alike k p') : p.nativeExpression = p'.nativeExpression := by
  rw [Parameter.nativeExpression, Parameter.nativeExpression, convertedOn, convertedOn, h.behaviors,
    h.direction, h.intermediate, h.name]

theorem javaExpression (h : p.Alike k p') : p.javaExpression = p'.javaExpression := by
  rw [Parameter.javaExpression, Parameter.javaExpression, convertedOn, convertedOn, h.behaviors,
    h.direction, h.intermediate, h.name]

theorem rawParam? (h : p.Alike k p') : p.rawParam? = p'.rawParam? := by
  rw [Parameter.rawParam?, Parameter.rawParam?, h.rawType, h.name]

theorem jniParam? (h : p.Alike k p') : p.jniParam? = p'.jniParam? := by
  rw [Parameter.jniParam?, Parameter.jniParam?, h.jniType, h.name]

theorem javaParam? (h : p.Alike k p') (hk : k.java) : p.javaParam? = p'.javaParam? := by
  rw [Parameter.javaParam?, Parameter.javaParam?, h.java hk, h.name]

/-- The parameter of the native function keeps its name and the spelling of its type. -/
theorem nativeParam? (h : p.Alike k p') :
    Option.Rel (fun a b : Param CType => k.Native a.type b.type ∧ a.name = b.name) p.nativeParam?
      p'.nativeParam? := by
  exact rel_map h.nativeType fun _ _ ht => ⟨ht, h.name⟩

/-- On every edge the parameters are converted together, or not at all. -/
theorem on (h : p.Alike k p') (layer : Layer) {e : Edge}
    (he : layer = .native → e.touchesJava = false) :
    Together (k.On layer) k.Failure (p.on e) (p'.on e) := by
  unfold Parameter.on
  rw [← h.behaviors]
  cases p.behaviors.get e with
  | none => exact .ok (.of_eq layer rfl)
  | transit =>
    refine Together.map ?_
    rw [← h.name, ← h.direction]
    exact (h.action.transit p.name layer he p.direction).imp (fun _ _ hx => hx.congr some)
      fun _ _ hE => hE
  | generate =>
    rw [← h.action.native.generate e]
    exact Together.map (Together.refl _ (fun _ => .of_eq layer rfl) Likeness.Failure.refl)

/-- So are the variables that hold them. -/
theorem binding (h : p.Alike k p') (layer : Layer) (d : Direction) :
    Together (k.On layer) k.Failure (p.binding (layer.parameterEdge d))
      (p'.binding (layer.parameterEdge d)) := by
  have htype : k.On layer (p.bindingType (layer.parameterEdge d))
      (p'.bindingType (layer.parameterEdge d)) := by
    cases layer with
    | native => cases d <;> exact rfl
    | java =>
      cases d with
      | downcall => exact fun _ => h.rawType
      | upcall => exact h.java
  unfold Parameter.binding
  refine Together.map ?_
  refine (h.on layer (layer.parameterEdge_native d)).imp (fun x x' hx => ?_) fun _ _ hE => hE
  rw [← h.intermediate]
  exact htype.congr₂ (fun t (x : Option Expression) => x.map fun v =>
    (⟨t, p.intermediate, v⟩ : Binding Expression)) hx

end Parameter.Alike

/-! ## Bodies -/

namespace Linkage.Alike

variable {l l' : Linkage}

theorem generated {q q' : ParameterLinkage} (h : q.Alike k q') :
    List.Forall₂ (Parameter.Alike k) q.generated q'.generated := by
  refine .cons h.parameter ?_
  rw [← h.companions]
  exact List.forall₂_same.2 fun p _ => .refl p

/-- All generated parameters are alike, one by one. -/
theorem allParameters (h : l.Alike k l') :
    List.Forall₂ (Parameter.Alike k) l.allParameters l'.allParameters := by
  refine List.rel_append (List.rel_flatMap h.params fun _ _ hq => generated hq) ?_
  have hcompanions : l.returnValue.map ReturnValue.companions =
      l'.returnValue.map ReturnValue.companions :=
    eq_of_rel (rel_map h.returnValue fun _ _ hr => hr.companions)
  rw [← hcompanions]
  exact List.forall₂_same.2 fun p _ => .refl p

/-- The variables that hold the parameters are the same, as far as their layer is. -/
theorem bindings (h : l.Alike k l') (layer : Layer) :
    Together (k.On layer) k.Failure (l.bindings layer) (l'.bindings layer) := by
  unfold Linkage.bindings
  rw [← h.direction]
  refine Together.map ?_
  refine (together_mapM h.allParameters fun p p' hp => hp.binding layer l.direction).imp
    (fun bs bs' hbs => ?_) fun _ _ hE => hE
  induction hbs with
  | nil => exact .of_eq layer rfl
  | @cons b b' bs bs' hb _ ih =>
    have hcons := hb.congr₂ (fun (b : Option (Binding Expression)) rest => b.toList ++ rest) ih
    cases b <;> cases b' <;> simpa using hcons

/-- A result is converted together, or not at all. -/
theorem completion (h : l.Alike k l') (layer : Layer) (run : String) :
    Together (k.On layer) k.Failure (l.completion layer run) (l'.completion layer run) := by
  obtain ⟨op, d, returnValue, params⟩ := l
  obtain ⟨op', d', returnValue', params'⟩ := l'
  obtain rfl : d = d' := h.direction
  have hreturn : Option.Rel (ReturnValue.Alike k) returnValue returnValue' := h.returnValue
  cases hreturn with
  | none => exact .ok (.of_eq layer rfl)
  | @some r r' hr =>
    have htype : k.On layer (r.captureType layer d) (r'.captureType layer d) := by
      cases layer with
      | native => cases d <;> exact rfl
      | java =>
        cases d with
        | downcall => exact fun _ => congrArg some hr.rawType
        | upcall => exact fun hk => congrArg some (hr.java hk)
    show Together _ _ (r.completion layer d run) (r'.completion layer d run)
    unfold ReturnValue.completion
    dsimp only
    rw [← hr.action.native.capturesResult]
    split
    · refine Together.map ?_
      refine (hr.action.transit _ layer (layer.returnEdge_native d) d).imp (fun x x' hx => ?_)
        fun _ _ hE => hE
      exact htype.congr₂ (fun t (x : Expression) => Completion.answer
        (some (⟨t, Vocabulary.returnValue, .literal run⟩ : Binding Expression)) x) hx
    · refine Together.map ?_
      refine (hr.action.transit run layer (layer.returnEdge_native d) d).imp (fun x x' hx => ?_)
        fun _ _ hE => hE
      exact hx.congr (Completion.answer none)

/-- So are the bodies. -/
theorem body (h : l.Alike k l') (layer : Layer) (before after : List (Binding Expression))
    (run : String) :
    Together (k.On layer) k.Failure (l.body layer before after run)
      (l'.body layer before after run) := by
  refine (h.bindings layer).bind fun bs bs' hbs => ?_
  refine (h.completion layer run).bind fun c c' hc => .ok ?_
  exact hbs.congr₂ (fun bs c => (⟨before ++ bs ++ after, c⟩ : Body)) hc

/-- The operation is performed in the same way. -/
theorem run (h : l.Alike k l') : l.run = l'.run := by
  have harguments : (l.params.map fun p => p.parameter.nativeExpression) =
      l'.params.map fun p => p.parameter.nativeExpression :=
    map_eq_map_of_forall₂ h.params fun _ _ hp => hp.parameter.nativeExpression
  have hflag : (l.params[1]?.bind fun p => p.companions.head?) =
      l'.params[1]?.bind fun p => p.companions.head? := by
    have hsecond := rel_getElem? h.params 1
    generalize l.params[1]? = q at hsecond
    generalize l'.params[1]? = q' at hsecond
    cases hsecond with
    | none => rfl
    | some hq => exact congrArg List.head? hq.companions
  have hreturns : l.returnValue.map ReturnValue.jniType = l'.returnValue.map ReturnValue.jniType :=
    eq_of_rel (rel_map h.returnValue fun _ _ hr => hr.jniType)
  unfold Linkage.run runOperation
  rw [h.operation.kind, h.operation.name, harguments, hflag, hreturns]

end Linkage.Alike

/-! ## Signatures -/

/-- The methods are called alike and take parameters that are spelled alike. -/
structure NativeMethod.Alike (k : Likeness) (m m' : NativeMethod) : Prop where
  name : m.name = m'.name
  returns : k.Native m.returns m'.returns
  params : List.Forall₂ (fun p p' : Param CType => k.Native p.type p'.type ∧ p.name = p'.name)
    m.params m'.params

namespace Linkage.Alike

variable {l l' : Linkage}

theorem nativeParams (h : l.Alike k l') :
    List.Forall₂ (fun p p' : Param CType => k.Native p.type p'.type ∧ p.name = p'.name)
      l.nativeParams l'.nativeParams :=
  List.rel_filterMap (fun _ _ hp => hp.parameter.nativeParam?) h.params

theorem rawParams (h : l.Alike k l') :
    l.allParameters.filterMap Parameter.rawParam? =
      l'.allParameters.filterMap Parameter.rawParam? :=
  filterMap_eq_of_forall₂ h.allParameters fun _ _ hp => hp.rawParam?

theorem javaParams (h : l.Alike k l') (hk : k.java) :
    l.allParameters.filterMap Parameter.javaParam? =
      l'.allParameters.filterMap Parameter.javaParam? :=
  filterMap_eq_of_forall₂ h.allParameters fun _ _ hp => hp.javaParam? hk

theorem rawReturns (h : l.Alike k l') :
    l.returnValue.map ReturnValue.rawType = l'.returnValue.map ReturnValue.rawType :=
  eq_of_rel (rel_map h.returnValue fun _ _ hr => hr.rawType)

theorem javaReturns (h : l.Alike k l') (hk : k.java) :
    l.returnValue.map ReturnValue.javaType = l'.returnValue.map ReturnValue.javaType :=
  eq_of_rel (rel_map h.returnValue fun _ _ hr => hr.java hk)

end Linkage.Alike

/-! ## Units -/

structure UpcallUnit.Alike (k : Likeness) (u u' : UpcallUnit) : Prop where
  linkage : u.linkage.Alike k u'.linkage
  callbackType : u.callbackType = u'.callbackType
  lambda : u.lambda.Alike k u'.lambda
  caller : u.caller = u'.caller
  callback : k.Java u.callback u'.callback
  run : u.run = u'.run
  nativeBody : u.nativeBody = u'.nativeBody
  javaBody : k.Java u.javaBody u'.javaBody

namespace UpcallUnit

variable {l l' : Linkage}

theorem lambdaOf_alike (h : l.Alike k l') : (lambdaOf l).Alike k (lambdaOf l') where
  name := rfl
  returns := by
    unfold lambdaOf
    generalize hr : l.returnValue = r
    generalize hr' : l'.returnValue = r'
    have hreturn := h.returnValue
    rw [hr, hr'] at hreturn
    cases hreturn with
    | none => exact .refl _
    | some hresult => exact hresult.nativeType
  params := h.nativeParams

theorem callerOf_eq (h : l.Alike k l') (names : MemberNames) :
    callerOf l names = callerOf l' names := by
  unfold callerOf
  rw [h.rawReturns, h.rawParams]

theorem callbackOf_java (h : l.Alike k l') (names : MemberNames) :
    k.Java (callbackOf l names) (callbackOf l' names) := by
  intro hk
  have hparams : (l.allParameters.filter fun p => !p.isReceiver).filterMap Parameter.javaParam? =
      (l'.allParameters.filter fun p => !p.isReceiver).filterMap Parameter.javaParam? := by
    have hfilter : List.Forall₂ (Parameter.Alike k)
        (l.allParameters.filter fun p => !p.isReceiver)
        (l'.allParameters.filter fun p => !p.isReceiver) :=
      forall₂_filter h.allParameters fun p p' hp => by rw [hp.isReceiver]
    exact filterMap_eq_of_forall₂ hfilter fun _ _ hp => hp.javaParam? hk
  unfold callbackOf
  rw [h.javaReturns hk, hparams]

/-- The dispatcher calls the interface with the same arguments. -/
theorem dispatch_eq (h : l.Alike k l') {receiver receiver' : Parameter}
    (hreceiver : receiver.Alike k receiver') (method : String) :
    dispatch l receiver method = dispatch l' receiver' method := by
  have hfilter : List.Forall₂ (Parameter.Alike k)
      (l.allParameters.filter fun p => !p.isReceiver && p.javaType.isSome)
      (l'.allParameters.filter fun p => !p.isReceiver && p.javaType.isSome) :=
    forall₂_filter h.allParameters fun p p' hp => by rw [hp.isReceiver, hp.inJava]
  unfold dispatch
  rw [hreceiver.javaExpression, map_eq_map_of_forall₂ hfilter fun _ _ hp => hp.javaExpression]

/-- The code around callbacks that are alike is alike. -/
theorem ofLinkage_alike (h : l.Alike k l') (callbackType : JavaType) (names : MemberNames) :
    Together (Alike k) k.Failure (ofLinkage l callbackType names)
      (ofLinkage l' callbackType names) := by
  unfold ofLinkage
  have hfind := rel_find? h.allParameters fun p p' hp => hp.isReceiver
  generalize l.allParameters.find? Parameter.isReceiver = receiver at hfind
  generalize l'.allParameters.find? Parameter.isReceiver = receiver' at hfind
  cases hfind with
  | none => exact .error (Likeness.Failure.refl _)
  | @some receiver receiver' hreceiver =>
    have hcontext : contextBinding receiver = contextBinding receiver' := by
      rw [contextBinding, contextBinding, hreceiver.name]
    have hname : (callbackOf l names).name = (callbackOf l' names).name := rfl
    dsimp only
    rw [← callerOf_eq h names, ← h.run, ← hcontext, ← hname, ← dispatch_eq h hreceiver]
    refine (h.body .java [] [] _).bind fun javaBody javaBody' hjava => ?_
    cases l.run with
    | error e => exact .error (Likeness.Failure.refl e)
    | ok run =>
      refine (h.body .native _ _ run).bind fun nativeBody nativeBody' hnative => .ok ?_
      exact ⟨h, rfl, lambdaOf_alike h, rfl, callbackOf_java h names, rfl, hnative, hjava⟩

/-- What glue code passes in the place of the function pointer is the same. -/
theorem Alike.closure {u u' : UpcallUnit} (h : u.Alike k u') : u.closure = u'.closure := by
  have hparams : (u.lambda.params.map fun p => (p.type.sourceSpelling, p.name)) =
      u'.lambda.params.map fun p => (p.type.sourceSpelling, p.name) :=
    map_eq_map_of_forall₂ h.lambda.params fun _ _ hp => by rw [hp.1.spelled, hp.2]
  rw [UpcallUnit.closure, UpcallUnit.closure, hparams, h.lambda.returns.spelled, h.nativeBody]

end UpcallUnit

structure CallbackInterface.Alike (k : Likeness) (cb cb' : CallbackInterface) : Prop where
  operation : cb.operation = cb'.operation
  parameter : cb.parameter = cb'.parameter
  name : cb.name = cb'.name
  type : cb.type = cb'.type
  method : cb.method.Alike k cb'.method

structure LinkedOperation.Alike (k : Likeness) (linked linked' : LinkedOperation) : Prop where
  linkage : linked.linkage.Alike k linked'.linkage
  callbacks : List.Forall₂ (CallbackInterface.Alike k) linked.callbacks linked'.callbacks

structure DowncallUnit.Alike (k : Likeness) (u u' : DowncallUnit) : Prop where
  linked : u.linked.Alike k u'.linked
  javaMethod : k.Java u.javaMethod u'.javaMethod
  rawMethod : u.rawMethod = u'.rawMethod
  glueMethod : u.glueMethod = u'.glueMethod
  nativeMethod : u.nativeMethod.Alike k u'.nativeMethod
  run : u.run = u'.run
  javaBody : k.Java u.javaBody u'.javaBody
  glueBody : u.glueBody = u'.glueBody

namespace DowncallUnit

/-- The code around downcalls that are alike is alike. -/
theorem ofLinked_alike {linked linked' : LinkedOperation} (h : linked.Alike k linked')
    (spec : DowncallSpec) :
    Together (Alike k) k.Failure (ofLinked linked spec) (ofLinked linked' spec) := by
  obtain ⟨l, callbacks⟩ := linked
  obtain ⟨l', callbacks'⟩ := linked'
  have hl : l.Alike k l' := h.linkage
  have hcall : rawCall l spec = rawCall l' spec := by
    have hfilter : List.Forall₂ (Parameter.Alike k)
        (l.allParameters.filter fun p => p.rawType.isSome)
        (l'.allParameters.filter fun p => p.rawType.isSome) :=
      forall₂_filter hl.allParameters fun p p' hp => by rw [hp.rawType]
    unfold rawCall
    rw [map_eq_map_of_forall₂ hfilter fun _ _ hp => hp.javaExpression]
  have hraw : rawMethodOf l spec = rawMethodOf l' spec := by
    unfold rawMethodOf
    rw [hl.rawReturns, hl.rawParams]
  have hglue : glueMethodOf l spec = glueMethodOf l' spec := by
    have hreturns : l.returnValue.map ReturnValue.jniType =
        l'.returnValue.map ReturnValue.jniType :=
      eq_of_rel (rel_map hl.returnValue fun _ _ hr => hr.jniType)
    unfold glueMethodOf
    rw [hreturns, filterMap_eq_of_forall₂ hl.allParameters fun _ _ hp => hp.jniParam?]
  have hjava : k.Java (javaMethodOf l spec) (javaMethodOf l' spec) := by
    intro hk
    unfold javaMethodOf
    rw [hl.javaReturns hk, hl.javaParams hk]
  have hnative : (nativeMethodOf l).Alike k (nativeMethodOf l') :=
    ⟨hl.operation.name, hl.operation.returns, hl.nativeParams⟩
  unfold ofLinked
  dsimp only
  rw [← hcall, ← hl.run]
  refine (hl.body .java [] [] _).bind fun javaBody javaBody' hjavaBody => ?_
  cases l.run with
  | error e => exact .error (Likeness.Failure.refl e)
  | ok run =>
    refine (hl.body .native [] [] run).bind fun glueBody glueBody' hglueBody => .ok ?_
    exact ⟨h, hjava, hraw, hglue, hnative, rfl, hjavaBody, hglueBody⟩

end DowncallUnit

end JniBridge
