import JniBridge.Proofs.Callback
/-
The trampoline of a callback agrees with the method that it looks up.

The closure's signature, the dispatcher's signature and its descriptor, and the variadic call that gets
from the one to the other are each read off the linkage of the callback in a way of its own.  No
compiler checks the call against the descriptor, so that they agree in number, order and types is a
matter of `CallbackInterface.agrees_of_create` alone.  The dispatcher, once it is reached, passes on what
it is given to the method of the interface (`UpcallUnit.Dispatches`).
-/

namespace JniBridge

open Linking

/-! ## Suffixes and descriptors -/

/-- The call functions for methods that return a value of a primitive type, by the middle of their names,
and the descriptors of what these return. -/
def JniType.scalarCalls : List (String × String) :=
  [("Boolean", "Z"), ("Byte", "B"), ("Char", "C"), ("Short", "S"), ("Int", "I"), ("Long", "J"),
    ("Float", "F"), ("Double", "D")]

/-- The middle of the name of a call function belongs to what a method of the descriptor returns. -/
structure JniType.SuffixAgrees (suffix descriptor : String) : Prop where
  void : suffix = "Void" ↔ descriptor = "V"
  scalar : ∀ row ∈ JniType.scalarCalls, suffix = row.1 ↔ descriptor = row.2
  /-- Classes and arrays are objects. -/
  object : suffix = "Object" ↔
    descriptor.toList.head? = some 'L' ∨ descriptor.toList.head? = some '['

namespace JniType

theorem suffixAgrees_scalar (k : JavaScalar) : SuffixAgrees (scalar k).callSuffix k.descriptor := by
  refine ⟨?_, ?_, ?_⟩
  · cases k <;> decide
  · cases k <;> decide
  · cases k <;> decide

/-- A descriptor that starts like a class or an array is that of no scalar. -/
theorem suffixAgrees_object {descriptor : String}
    (h : descriptor.toList.head? = some 'L' ∨ descriptor.toList.head? = some '[') :
    SuffixAgrees "Object" descriptor := by
  have hvoid : descriptor ≠ "V" := by
    rintro rfl
    exact absurd h (by decide)
  have hnames : ∀ row ∈ scalarCalls, "Object" ≠ row.1 := by decide
  have hinitials : ∀ row ∈ scalarCalls,
      ¬ (row.2.toList.head? = some 'L' ∨ row.2.toList.head? = some '[') := by decide
  refine ⟨⟨fun hs => absurd hs (by decide), fun hd => absurd hd hvoid⟩, fun row hrow => ⟨?_, ?_⟩,
    ⟨fun _ => h, fun _ => rfl⟩⟩
  · exact fun hs => absurd hs (hnames row hrow)
  · rintro rfl
    exact absurd h (hinitials row hrow)

/-- The suffix of a type belongs to the descriptor of its Java counterpart. -/
theorem suffixAgrees_of_asJava {j : JniType} {t : JavaType} (h : j.asJava? = some t) :
    SuffixAgrees j.callSuffix t.descriptor := by
  cases j with
  | void =>
    obtain rfl := Option.some.inj h
    exact ⟨by decide, by decide, by decide⟩
  | scalar k =>
    obtain rfl := Option.some.inj h
    exact suffixAgrees_scalar k
  | string =>
    obtain rfl := Option.some.inj h
    exact suffixAgrees_object (Or.inl (by decide))
  | scalarArray k =>
    obtain rfl := Option.some.inj h
    exact suffixAgrees_object (Or.inr (by cases k <;> decide))
  | object | classObject | throwable | methodId | objectArray => exact nomatch h

end JniType

/-! ## The linkage of a callback, read in its ways -/

namespace Linking

variable {name : String} {returns : CType} {values : List CType} {context : CType}
  {callback : JavaType} {ctx : Context} {linked : LinkedOperation}

/-- Every parameter of a callback has a native type and a raw type, the receiver's being the
interface. -/
theorem LinkedAs.dispatch_typed
    (h : LinkedAs (.dispatch name returns values context callback) ctx .upcall linked) :
    ∀ q ∈ linked.linkage.allParameters, q.nativeType.isSome ∧ q.rawType.isSome := by
  obtain ⟨qs, hall, hqs⟩ := h.dispatch_parameters
  intro q hq
  rw [hall] at hq
  -- the values first, then the receiver
  rcases List.mem_append.1 hq with hq | hq
  · refine forall_mem_of_forall₂ (Q := fun q => q.nativeType.isSome ∧ q.rawType.isSome) hqs
      (fun p q hplain => ?_) q hq
    obtain ⟨_, _, -, hraw, -⟩ := hplain.jni
    exact ⟨by rw [hplain.native]; rfl, by rw [hraw]; rfl⟩
  · obtain rfl := List.mem_singleton.1 hq
    exact ⟨rfl, rfl⟩

/-- Its parameters are named and typed like those of the operation. -/
theorem LinkedAs.dispatch_native
    (h : LinkedAs (.dispatch name returns values context callback) ctx .upcall linked) :
    linked.linkage.allParameters.map (fun q => (q.name, q.nativeType)) =
      (Operation.dispatch name returns values context callback).params.map
        fun p => (p.name, some p.type) := by
  obtain ⟨qs, hall, hqs⟩ := h.dispatch_parameters
  have hvalues : qs.map (fun q => (q.name, q.nativeType)) =
      (Operation.proxies values).map fun p => (p.name, some p.type) := by
    refine (map_eq_map_of_forall₂ hqs fun p q hplain => ?_).symm
    rw [hplain.named, hplain.native]
  rw [hall, List.map_append, hvalues, Operation.dispatch, List.map_append]
  rfl

theorem LinkedAs.dispatch_types
    (h : LinkedAs (.dispatch name returns values context callback) ctx .upcall linked) :
    linked.linkage.params.map (fun l => l.parameter.nativeType) =
      (values ++ [context]).map some := by
  have hnative := congrArg (List.map Prod.snd) h.dispatch_native
  rw [List.map_map, List.map_map, h.upcall_parameters, List.map_map] at hnative
  rw [← Operation.map_type_dispatch name returns values context callback, List.map_map]
  exact hnative

/-- The raw types are those of the native interface, and last the interface. -/
theorem LinkedAs.dispatch_raw
    (h : LinkedAs (.dispatch name returns values context callback) ctx .upcall linked) :
    linked.linkage.allParameters.map Parameter.rawType =
      (linked.linkage.params.dropLast.map fun l => l.parameter.jniType.bind JniType.asJava?) ++
        [some callback] := by
  obtain ⟨qs, hall, hqs⟩ := h.dispatch_parameters
  have hdrop : linked.linkage.params.dropLast.map ParameterLinkage.parameter = qs := by
    rw [List.map_dropLast, ← h.upcall_parameters, hall, List.dropLast_concat]
  have hvalues : qs.map Parameter.rawType = qs.map fun q => q.jniType.bind JniType.asJava? := by
    refine List.map_congr_left fun q hq => ?_
    refine forall_mem_of_forall₂ (Q := fun q => q.rawType = q.jniType.bind JniType.asJava?) hqs
      (fun p q hplain => ?_) q hq
    obtain ⟨j, raw, hj, hraw, hjava⟩ := hplain.jni
    rw [hj, hraw]
    exact hjava.symm
  rw [hall, List.map_append, hvalues, ← hdrop, List.map_map]
  rfl

/-- In Java every parameter of a callback is converted, under its own name. -/
theorem LinkedAs.dispatch_arrives
    (h : LinkedAs (.dispatch name returns values context callback) ctx .upcall linked) :
    ∀ q ∈ linked.linkage.allParameters, q.behaviors.get .jniToJava = .transit ∧
      q.intermediate = Vocabulary.intermediate q.name := by
  obtain ⟨qs, hall, hqs⟩ := h.dispatch_parameters
  intro q hq
  rw [hall] at hq
  rcases List.mem_append.1 hq with hq | hq
  · refine forall_mem_of_forall₂ (Q := fun q => q.behaviors.get .jniToJava = .transit ∧
      q.intermediate = Vocabulary.intermediate q.name) hqs (fun p q hplain => ⟨?_, ?_⟩) q hq
    · rw [hplain.behaviors]
      rfl
    · rw [hplain.intermediate, hplain.named]
  · obtain rfl := List.mem_singleton.1 hq
    exact ⟨rfl, rfl⟩

/-- The values of a callback are declared by the interface's method, and passed to it in variables. -/
theorem LinkedAs.dispatch_passed
    (h : LinkedAs (.dispatch name returns values context callback) ctx .upcall linked)
    (names : MemberNames) (method : String) :
    ∃ qs, linked.linkage.allParameters =
        qs ++ [(linkCallbackObject context callback).placed Vocabulary.callbackObject .upcall] ∧
      (UpcallUnit.callbackOf linked.linkage names).params.map (fun p => some p.type) =
        qs.map Parameter.javaType ∧
      UpcallUnit.dispatch linked.linkage
          ((linkCallbackObject context callback).placed Vocabulary.callbackObject .upcall) method =
        Vocabulary.intermediate Vocabulary.callbackObject ++ "." ++ method ++ "(" ++
          ", ".intercalate (qs.map Parameter.intermediate) ++ ")" := by
  obtain ⟨qs, hall, hqs⟩ := h.dispatch_parameters
  have hpassed : ∀ q ∈ qs, q.isReceiver = false ∧ q.javaType.isSome ∧
      q.javaExpression = q.intermediate := by
    refine forall_mem_of_forall₂ hqs fun p q hplain => ⟨hplain.notReceiver, hplain.java, ?_⟩
    rw [Parameter.javaExpression, Parameter.convertedOn, hplain.direction, hplain.behaviors]
    rfl
  -- both tests leave out the receiver, and nothing else
  have hfilter : ∀ keep : Parameter → Bool, (∀ q ∈ qs, keep q = true) →
      keep ((linkCallbackObject context callback).placed Vocabulary.callbackObject .upcall) = false →
      linked.linkage.allParameters.filter keep = qs := by
    intro keep hkept hlast
    rw [hall, List.filter_append, List.filter_eq_self.2 hkept,
      List.filter_cons_of_neg (by rw [hlast]; exact Bool.false_ne_true)]
    exact List.append_nil qs
  refine ⟨qs, hall, ?_, ?_⟩
  · rw [UpcallUnit.callbackOf]
    dsimp only
    rw [hfilter _ (fun q hq => by rw [(hpassed q hq).1]; rfl) rfl]
    refine map_filterMap_of_forall fun q hq => ?_
    obtain ⟨t, ht⟩ := Option.isSome_iff_exists.1 (hpassed q hq).2.1
    exact ⟨⟨t, Naming.escape q.name⟩, by rw [Parameter.javaParam?, ht]; rfl, ht.symm⟩
  · rw [UpcallUnit.dispatch,
      hfilter _ (fun q hq => by rw [(hpassed q hq).1, (hpassed q hq).2.1]; rfl) rfl,
      List.map_congr_left fun q hq => (hpassed q hq).2.2]
    rfl

/-- What the variables of a callback are called. -/
theorem dispatch_converted :
    (Operation.dispatch name returns values context callback).params.map
        OperationParameter.converted =
      (Operation.dispatch name returns values context callback).params.map
        fun p => Vocabulary.intermediate p.name := by
  refine List.map_congr_left fun p hp => ?_
  have hrole : p.role ≠ .structHandle := by
    rcases List.mem_append.1 hp with hp | hp
    · rw [Operation.role_of_mem_proxies p hp]
      exact nofun
    · obtain rfl := List.mem_singleton.1 hp
      exact nofun
  rw [OperationParameter.converted, if_neg hrole]

end Linking

/-! ## Agreement -/

-- the texts are spelled out as they are to be read, and not by what writes them

/-- Native code gets into Java: the closure looks the dispatcher up by its own class, name and
descriptor, and calls it on the variables that hold the parameters. -/
structure UpcallUnit.Calls (u : UpcallUnit) (suffix className : String)
    (bound : List (Binding Expression)) : Prop where
  bindings : u.nativeBody.bindings =
    ⟨none, "func$$context",
        .literal "static_cast<bndjni::FunctionPointerContext*>(func$callbackObject)"⟩ ::
      bound ++
      [⟨none, "func$$classId", .literal ("bndjni::getCachedClass<" ++
          Naming.templateString className ++ ">(func$$context->getEnv())")⟩,
        ⟨none, "func$$methodId", .literal ("bndjni::getCachedStaticMethod<" ++
          Naming.templateString className ++ ", " ++ Naming.templateString u.caller.name ++ ", " ++
          Naming.templateString u.caller.descriptor ++ ">(func$$context->getEnv())")⟩]
  /-- One variable holds each parameter, converted. -/
  holds : List.Forall₂ (fun l b => b.Holds l.parameter .nativeToJni) u.linkage.params bound
  run : u.run = "(func$$context->getEnv())->CallStatic" ++ suffix ++ "Method" ++ "(" ++
    ", ".intercalate ("func$$classId" :: "func$$methodId" :: bound.map Binding.name) ++ ")"
  completion : u.linkage.Completes .native u.run u.nativeBody.completion

/-- Java gets to the user: the dispatcher calls the interface's method on the variable that holds the
object, with the variables that hold the values. -/
structure UpcallUnit.Dispatches (u : UpcallUnit) (values : List (Binding Expression))
    (object : Binding Expression) : Prop where
  bindings : u.javaBody.bindings = values ++ [object]
  /-- One variable holds each parameter, converted. -/
  holds : List.Forall₂ (fun p b => b.Holds p .jniToJava) u.linkage.allParameters
    u.javaBody.bindings
  objectType : object.type = some u.callbackType
  /-- The variables have the types that the method declares. -/
  types : u.callback.params.map (fun p => some p.type) = values.map Binding.type
  completion : u.linkage.Completes .java (object.name ++ "." ++ u.callback.name ++ "(" ++
    ", ".intercalate (values.map Binding.name) ++ ")") u.javaBody.completion

/-- The trampoline of a callback, made for a prototype, agrees with the method that it looks up. -/
structure CallbackInterface.Agrees (cb : CallbackInterface) (returns : CType) (types : List CType) :
    Prop where
  /-- The closure is spelled like the prototype. -/
  closureTypes : cb.method.closure.params.map Prod.fst = types.map CType.sourceSpelling
  closureReturns : cb.method.closure.returns =
    if returns.isVoid then "void" else returns.sourceSpelling
  /-- The linkage has the parameters of the prototype. -/
  linkedTypes : cb.method.linkage.params.map (fun l => l.parameter.nativeType) = types.map some
  /-- So has the dispatcher, under the closure's names. -/
  callerNames : cb.method.caller.params.map Param.name =
    cb.method.closure.params.map fun p => Naming.escape p.2
  callerTypes : cb.method.caller.params.map (fun p => some p.type) =
    (cb.method.linkage.params.dropLast.map fun l => l.parameter.jniType.bind JniType.asJava?) ++
      [some cb.type]
  /-- The closure calls the dispatcher in the way of what it returns. -/
  calls : ∃ (jni : JniType) (className : String) (bound : List (Binding Expression)),
    jni.asJava? = some cb.method.caller.returns ∧
    JniType.SuffixAgrees jni.callSuffix cb.method.caller.returns.descriptor ∧
    cb.type.className? = some className ∧ cb.method.Calls jni.callSuffix className bound ∧
    bound.map Binding.name = cb.method.closure.params.map fun p => Vocabulary.intermediate p.2
  /-- The dispatcher passes on what it is called with. -/
  dispatches : ∃ values object, cb.method.Dispatches values object

section agreement

variable {u : UpcallUnit} {name : String} {returns : CType} {values : List CType}
  {context : CType} {callback : JavaType} {ctx : Context} {linked : LinkedOperation}
  {names : MemberNames}

/-- The closure takes the parameters of the operation. -/
theorem UpcallUnit.Around.closure_params {receiver : Parameter}
    (hu : u.Around linked.linkage receiver callback names)
    (h : LinkedAs (.dispatch name returns values context callback) ctx .upcall linked) :
    u.closure.params = (Operation.dispatch name returns values context callback).params.map
      fun p => (p.type.sourceSpelling, p.name) := by
  have hparams : u.lambda.params =
      linked.linkage.allParameters.filterMap Parameter.nativeParam? := by
    rw [hu.lambda, h.upcall_parameters, List.filterMap_map]
    rfl
  have hspelled : u.closure.params = linked.linkage.allParameters.map
      fun q => ((q.nativeType.getD CType.void).sourceSpelling, q.name) := by
    rw [UpcallUnit.closure, hparams]
    refine map_filterMap_of_forall fun q hq => ?_
    obtain ⟨t, ht⟩ := Option.isSome_iff_exists.1 (h.dispatch_typed q hq).1
    exact ⟨⟨t, q.name⟩, by rw [Parameter.nativeParam?, ht]; rfl, by rw [ht]; rfl⟩
  have hnative := congrArg (List.map fun (x : String × Option CType) =>
    ((x.2.getD CType.void).sourceSpelling, x.1)) h.dispatch_native
  rw [List.map_map, List.map_map] at hnative
  exact hspelled.trans hnative

theorem UpcallUnit.Around.closure_returns {receiver : Parameter}
    (hu : u.Around linked.linkage receiver callback names)
    (h : LinkedAs (.dispatch name returns values context callback) ctx .upcall linked) :
    u.closure.returns = if returns.isVoid then "void" else returns.sourceSpelling := by
  rw [UpcallUnit.closure, hu.lambda]
  rcases h.returns with ⟨hvoid, hr⟩ | ⟨hvoid, r, hr, hsettled⟩
  · have hreturns : returns.isVoid := hvoid
    rw [if_pos hreturns, UpcallUnit.lambdaOf, hr]
    rfl
  · have hreturns : returns.isVoid = false := hvoid
    have hnative : r.nativeType = returns := hsettled.native
    rw [if_neg (by rw [hreturns]; exact Bool.false_ne_true), UpcallUnit.lambdaOf, hr]
    exact congrArg CType.sourceSpelling hnative

/-- The dispatcher takes the parameters of the operation, with their raw types. -/
theorem UpcallUnit.Around.caller_params {receiver : Parameter}
    (hu : u.Around linked.linkage receiver callback names)
    (h : LinkedAs (.dispatch name returns values context callback) ctx .upcall linked) :
    u.caller.params.map (fun p => (some p.type, p.name)) =
      linked.linkage.allParameters.map fun q => (q.rawType, Naming.escape q.name) := by
  rw [hu.caller]
  refine map_filterMap_of_forall fun q hq => ?_
  obtain ⟨t, ht⟩ := Option.isSome_iff_exists.1 (h.dispatch_typed q hq).2
  exact ⟨⟨t, Naming.escape q.name⟩, by rw [Parameter.rawParam?, ht]; rfl, by rw [ht]⟩

/-- Its parameters are named like those of the closure, as far as Java allows. -/
theorem UpcallUnit.Around.caller_names {receiver : Parameter}
    (hu : u.Around linked.linkage receiver callback names)
    (h : LinkedAs (.dispatch name returns values context callback) ctx .upcall linked) :
    u.caller.params.map Param.name = u.closure.params.map fun p => Naming.escape p.2 := by
  have hescaped := congrArg (List.map Prod.snd) (hu.caller_params h)
  have hnative := congrArg (List.map fun (x : String × Option CType) => Naming.escape x.1)
    h.dispatch_native
  rw [List.map_map, List.map_map] at hescaped hnative
  rw [hu.closure_params h, List.map_map]
  exact hescaped.trans hnative

theorem UpcallUnit.Around.caller_types {receiver : Parameter}
    (hu : u.Around linked.linkage receiver callback names)
    (h : LinkedAs (.dispatch name returns values context callback) ctx .upcall linked) :
    u.caller.params.map (fun p => some p.type) =
      (linked.linkage.params.dropLast.map fun l => l.parameter.jniType.bind JniType.asJava?) ++
        [some callback] := by
  have hraw := congrArg (List.map Prod.fst) (hu.caller_params h)
  rw [List.map_map, List.map_map] at hraw
  rw [← h.dispatch_raw]
  exact hraw

/-- The native-interface type of the result is that of what the dispatcher returns. -/
theorem UpcallUnit.Around.caller_returns {receiver : Parameter}
    (hu : u.Around linked.linkage receiver callback names)
    (h : LinkedAs (.dispatch name returns values context callback) ctx .upcall linked) :
    ((linked.linkage.returnValue.map ReturnValue.jniType).getD .void).asJava? =
      some u.caller.returns := by
  rw [hu.caller, UpcallUnit.callerOf]
  rcases h.returns with ⟨-, hr⟩ | ⟨-, r, hr, hsettled⟩
  · rw [hr]
    rfl
  · rw [hr]
    exact hsettled.java

/-- What the look-ups say. -/
theorem UpcallUnit.lookupBindings_eq (caller : JavaMethod) {className : String}
    (hclass : callback.className? = some className) : lookupBindings callback caller =
      [⟨none, "func$$classId", .literal ("bndjni::getCachedClass<" ++
          Naming.templateString className ++ ">(func$$context->getEnv())")⟩,
        ⟨none, "func$$methodId", .literal ("bndjni::getCachedStaticMethod<" ++
          Naming.templateString className ++ ", " ++ Naming.templateString caller.name ++ ", " ++
          Naming.templateString caller.descriptor ++ ">(func$$context->getEnv())")⟩] := by
  have hend : ∀ keys : String, keys ++ ">(" ++ Vocabulary.environment .upcall ++ ")" =
      keys ++ ">(func$$context->getEnv())" := by
    intro keys
    rw [String.append_assoc, String.append_assoc]
    exact congrArg (keys ++ ·) (by decide)
  unfold lookupBindings
  dsimp only
  rw [hclass, hend, hend]
  rfl

/-- The closure calls the dispatcher on the variables that hold its parameters. -/
theorem UpcallUnit.Around.calls {context' : CType} {className : String}
    (hu : u.Around linked.linkage
      ((linkCallbackObject context' callback).placed Vocabulary.callbackObject .upcall) callback
      names)
    (h : LinkedAs (.dispatch name returns values context callback) ctx .upcall linked)
    (hclass : callback.className? = some className) :
    ∃ bound, u.Calls
        ((linked.linkage.returnValue.map ReturnValue.jniType).getD .void).callSuffix className
        bound ∧
      bound.map Binding.name = u.closure.params.map fun p => Vocabulary.intermediate p.2 := by
  obtain ⟨bound, hbindings, hholds, hnames⟩ := h.native_variables hu.nativeBody
  refine ⟨bound, ⟨?_, ?_, ?_, ?_⟩, ?_⟩
  · rw [hbindings, UpcallUnit.lookupBindings_eq u.caller hclass]
    rfl
  · rw [hu.linkage]
    exact hholds
  · rw [hnames]
    exact Except.ok.inj (hu.run.symm.trans h.dispatch_run)
  · rw [hu.linkage]
    exact hu.nativeBody.completion
  · rw [hnames, dispatch_converted, hu.closure_params h, List.map_map]
    rfl

/-- The dispatcher binds one variable for each parameter, in order. -/
theorem UpcallUnit.Around.java_variables {receiver : Parameter}
    (hu : u.Around linked.linkage receiver callback names)
    (h : LinkedAs (.dispatch name returns values context callback) ctx .upcall linked) :
    List.Forall₂ (fun p b => Binding.Holds b p .jniToJava) linked.linkage.allParameters
      u.javaBody.bindings := by
  obtain ⟨bs, hbs, hholds⟩ := hu.javaBody.bindings
  rw [h.direction] at hholds
  have hall : (linked.linkage.allParameters.filter fun p =>
      p.behaviors.supports (Layer.java.parameterEdge .upcall)) = linked.linkage.allParameters := by
    refine List.filter_eq_self.2 fun q hq => ?_
    show (q.behaviors.get .jniToJava != .none) = true
    rw [(h.dispatch_arrives q hq).1]
    rfl
  rw [hall] at hholds
  rw [hbs, List.nil_append, List.append_nil]
  exact hholds

/-- The dispatcher calls the method on the variables that hold its parameters. -/
theorem UpcallUnit.Around.dispatches
    (hu : u.Around linked.linkage
      ((linkCallbackObject context callback).placed Vocabulary.callbackObject .upcall) callback
      names)
    (h : LinkedAs (.dispatch name returns values context callback) ctx .upcall linked) :
    ∃ values object, u.Dispatches values object := by
  have hjava := hu.java_variables h
  obtain ⟨qs, hall, htypes, hdispatch⟩ := h.dispatch_passed names u.callback.name
  have hsplit := hjava
  rw [hall] at hsplit
  obtain ⟨bound, last, hbindings, hvalues, hlast⟩ := exists_append_of_forall₂ hsplit
  obtain ⟨object, _, hobject, hnil, rfl⟩ := List.forall₂_cons_left_iff.1 hlast
  obtain rfl := List.forall₂_nil_left_iff.1 hnil
  refine ⟨bound, object, hbindings, ?_, ?_, ?_, ?_⟩
  · rw [hu.linkage]
    exact hjava
  · rw [hobject.type, hu.callbackType]
    rfl
  · rw [hu.callback, htypes]
    exact map_eq_map_of_forall₂ hvalues fun _ _ hb => hb.type.symm
  · have hcompletion := hu.javaBody.completion
    rw [hdispatch, map_eq_map_of_forall₂ hvalues fun _ _ hb => hb.name.symm] at hcompletion
    rw [hu.linkage, hobject.name]
    exact hcompletion

end agreement

/-- If an interface is made for a prototype, its trampoline agrees with the method that it looks up. -/
theorem CallbackInterface.agrees_of_create {operation parameter : String} {proto : CType}
    {ctx : Context} {cb : CallbackInterface}
    (h : (CallbackInterface.create operation parameter proto ctx).outcome = .ok cb) :
    ∃ returns types, proto.prototype? = some (returns, types) ∧ types ≠ [] ∧
      cb.Agrees returns types := by
  have hcreated := (CallbackInterface.create_ends operation parameter proto ctx).of_ok h
  obtain ⟨returns, values, context, linked, hproto, hlinked, haround⟩ := hcreated.method
  have htypes := Operation.map_type_dispatch cb.name returns values context cb.type
  have hreturns := haround.caller_returns hlinked
  have hclass : cb.type.className? = some (JavaType.binaryName ctx.package
      (ctx.container ++ "." ++ cb.name)) := by
    rw [hcreated.type]
    rfl
  obtain ⟨bound, hcalls, hnames⟩ := haround.calls hlinked hclass
  refine ⟨returns, values ++ [context], hproto, by simp, ?_⟩
  exact
    { closureTypes := by
        rw [haround.closure_params hlinked, List.map_map, ← htypes, List.map_map]
        rfl
      closureReturns := haround.closure_returns hlinked
      linkedTypes := by
        rw [haround.linkage]
        exact hlinked.dispatch_types
      callerNames := haround.caller_names hlinked
      callerTypes := by
        rw [haround.linkage]
        exact haround.caller_types hlinked
      calls := ⟨_, _, bound, hreturns, JniType.suffixAgrees_of_asJava hreturns, hclass, hcalls,
        hnames⟩
      dispatches := haround.dispatches hlinked }

/-- A handler of a number, an array of bytes and its context. -/
theorem CallbackInterface.agrees_of_create_handler :
    ∃ cb, (CallbackInterface.create "register" "handler"
        (.function (.ofScalar .bool "bool") [.ofScalar .int "int",
          .pointerTo (.ofScalar .charSigned "char"), .voidPointer])
        { package := "com.geo", container := "Native" }).outcome = .ok cb ∧
      cb.method.caller.descriptor = "(I[BLcom/geo/Native$Callback_register_handler;)Z" ∧
      ∃ returns types,
        (CType.function (.ofScalar .bool "bool") [.ofScalar .int "int",
          .pointerTo (.ofScalar .charSigned "char"), .voidPointer]).prototype? =
            some (returns, types) ∧ types ≠ [] ∧ cb.Agrees returns types :=
  ⟨_, rfl, rfl, CallbackInterface.agrees_of_create rfl⟩

end JniBridge
