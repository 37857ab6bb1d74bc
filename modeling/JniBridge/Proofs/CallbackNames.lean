import JniBridge.Proofs.Hygiene
import JniBridge.Proofs.Numbering
import JniBridge.Proofs.Trampoline
/-
The names in the trampoline of a callback never clash.

The parameters of a callback have no names that could be taken over from a header.  Those that carry values
are numbered, and the last one has a fixed name (`Vocabulary.callbackParameters`).  So all names in the
closure and in the dispatcher are known once the number of parameters is (`UpcallUnit.NamedAs`), and it is
enough to look at these:

  1. the numbering tells positions apart, and no numbered name has a `$` in it;
  2. a variable is named by its parameter and ends in `$int`, which none of the others does, the fixed
     names of the closure included;
  3. Java reserves no word that starts like a numbered name.

Unlike for functions (`DowncallUnit.hygienic_iff_clear`) nothing has to be asked of the declaration:
`CallbackInterface.hygienic_of_create` holds of every interface.
-/

namespace JniBridge

open Linking

/-! ## The names of the parameters -/

namespace Vocabulary

/-- Numbering tells positions apart. -/
theorem proxyParameter_injective : Function.Injective proxyParameter := by
  intro i j h
  rw [proxyParameter, proxyParameter, String.append_right_inj] at h
  exact Naming.toString_injective h

theorem toList_proxyParameter (i : Nat) :
    (proxyParameter i).toList = "proxyParam".toList ++ (toString i).toList :=
  String.toList_append

/-- Behind its beginning a numbered name has digits only. -/
theorem mark_not_mem_proxyParameter (i : Nat) : '$' ∉ (proxyParameter i).toList := by
  intro h
  rw [toList_proxyParameter] at h
  rcases List.mem_append.1 h with hname | hdigit
  · exact absurd hname (by decide)
  · rw [Nat.toString_eq_repr, Nat.toList_repr] at hdigit
    exact absurd (Nat.isDigit_of_mem_toDigits (by decide) (by decide) hdigit) (by decide)

theorem mark_mem_intermediate (name : String) : '$' ∈ (intermediate name).toList := by
  rw [intermediate, String.toList_append]
  exact List.mem_append_right _ (by decide)

/-- No word that Java reserves starts like a numbered name. -/
theorem unescaped_proxyParameter (i : Nat) : Naming.Unescaped (proxyParameter i) := by
  have hreserved : ∀ word ∈ Naming.reserved, ¬ "proxyParam".toList <+: word.toList := by
    decide +kernel
  refine ⟨fun hmem => hreserved _ hmem ⟨_, (toList_proxyParameter i).symm⟩, ?_⟩
  rw [toList_proxyParameter]
  exact (by decide : some 'p' ≠ some '@')

/-- The names of a callback's parameters, if it takes so many values. -/
def callbackParameters (values : Nat) : List String :=
  (List.range values).map proxyParameter ++ [callbackObject]

/-- What a closure declares before and behind the variables for its parameters. -/
def callbackFixed : List String := [callbackContext, callbackClassId, callbackMethodId]

/-- What holds of every numbered name and of the one for the object holds of all. -/
theorem forall_mem_callbackParameters {P : String → Prop} (hproxy : ∀ i, P (proxyParameter i))
    (hobject : P callbackObject) {n : Nat} : ∀ name ∈ callbackParameters n, P name := by
  intro name hname
  rcases List.mem_append.1 hname with hvalue | hlast
  · obtain ⟨i, -, rfl⟩ := List.mem_map.1 hvalue
    exact hproxy i
  · obtain rfl := List.mem_singleton.1 hlast
    exact hobject

theorem callbackParameters_nodup (n : Nat) : (callbackParameters n).Nodup := by
  refine List.Nodup.append (List.nodup_range.map proxyParameter_injective)
    (List.nodup_singleton _) fun name hvalue hlast => ?_
  obtain ⟨i, -, rfl⟩ := List.mem_map.1 hvalue
  refine mark_not_mem_proxyParameter i ?_
  rw [List.mem_singleton.1 hlast]
  decide

theorem escape_callbackParameters {n : Nat} :
    ∀ name ∈ callbackParameters n, Naming.escape name = name := by
  refine forall_mem_callbackParameters (fun i => ?_) ?_
  · exact (Naming.escape_eq_self_iff _).2 (unescaped_proxyParameter i)
  · exact (Naming.escape_eq_self_iff _).2 (by decide)

/-- A parameter is not called like a variable. -/
theorem callbackParameters_ne_intermediate {n : Nat} :
    ∀ name ∈ callbackParameters n, ∀ m, name ≠ intermediate m := by
  refine forall_mem_callbackParameters (fun i m heq => ?_) ?_
  · refine mark_not_mem_proxyParameter i ?_
    rw [heq]
    exact mark_mem_intermediate m
  · exact FunctionDecl.ne_intermediate_of_not_suffix (by decide)

theorem callbackParameters_not_fixed {n : Nat} :
    ∀ name ∈ callbackParameters n, name ∉ callbackFixed := by
  refine forall_mem_callbackParameters (fun i hfixed => ?_) (by decide)
  have hmarks : ∀ name ∈ callbackFixed, '$' ∈ name.toList := by decide
  exact mark_not_mem_proxyParameter i (hmarks _ hfixed)

theorem callbackFixed_ne_intermediate :
    ∀ name ∈ callbackFixed, ∀ m, name ≠ intermediate m := by
  intro name hname
  have hsuffix : ∀ name ∈ callbackFixed, ¬ "$int".toList <:+ name.toList := by decide
  exact FunctionDecl.ne_intermediate_of_not_suffix (hsuffix name hname)

/-! ## The names of the variables -/

/-- The variables for the parameters and the one for the result. -/
def callbackVariables (values : Nat) : List String :=
  (callbackParameters values).map intermediate ++ [returnValue]

/-- The result is named like the variable of a parameter that no callback has. -/
theorem callbackVariables_eq (n : Nat) :
    callbackVariables n = (callbackParameters n ++ ["returnValue"]).map intermediate := by
  rw [List.map_append]
  rfl

theorem exists_of_mem_callbackVariables {n : Nat} {name : String} (h : name ∈ callbackVariables n) :
    ∃ m, name = intermediate m := by
  rw [callbackVariables_eq] at h
  obtain ⟨m, -, rfl⟩ := List.mem_map.1 h
  exact ⟨m, rfl⟩

theorem callbackVariables_nodup (n : Nat) : (callbackVariables n).Nodup := by
  rw [callbackVariables_eq]
  refine List.Nodup.map intermediate_injective ?_
  refine List.Nodup.append (callbackParameters_nodup n) (List.nodup_singleton _) ?_
  intro name hparam hresult
  obtain rfl := List.mem_singleton.1 hresult
  refine forall_mem_callbackParameters (P := fun name => name ≠ "returnValue") (fun i heq => ?_)
    (by decide) _ hparam rfl
  have hhead := congrArg (fun s => s.toList.head?) heq
  rw [toList_proxyParameter] at hhead
  exact absurd hhead (by decide : some 'p' ≠ some 'r')

/-- No variable is called like a parameter. -/
theorem callbackVariables_disjoint (n : Nat) :
    (callbackVariables n).Disjoint (callbackParameters n) := by
  intro name hvariable hparam
  obtain ⟨m, hm⟩ := exists_of_mem_callbackVariables hvariable
  exact callbackParameters_ne_intermediate name hparam m hm

/-- What a closure declares, in order: the context, the variables for the parameters, what it looks up, and
the result. -/
def closureVariables (values : Nat) : List String :=
  callbackContext :: (callbackParameters values).map intermediate ++
    [callbackClassId, callbackMethodId] ++ [returnValue]

theorem closureVariables_perm (n : Nat) :
    (closureVariables n).Perm (callbackFixed ++ callbackVariables n) := by
  unfold closureVariables callbackFixed callbackVariables
  rw [← List.append_assoc]
  -- the look-ups are moved before the variables
  exact (List.Perm.cons _ List.perm_append_comm).append_right _

theorem closureVariables_nodup (n : Nat) : (closureVariables n).Nodup := by
  refine (closureVariables_perm n).nodup_iff.2 ?_
  refine List.Nodup.append (by decide) (callbackVariables_nodup n) fun name hfixed hvariable => ?_
  obtain ⟨m, hm⟩ := exists_of_mem_callbackVariables hvariable
  exact callbackFixed_ne_intermediate name hfixed m hm

theorem closureVariables_disjoint (n : Nat) :
    (closureVariables n).Disjoint (callbackParameters n) := by
  intro name hdeclared hparam
  rcases List.mem_append.1 ((closureVariables_perm n).mem_iff.1 hdeclared) with hfixed | hvariable
  · exact callbackParameters_not_fixed name hparam hfixed
  · exact callbackVariables_disjoint n hvariable hparam

end Vocabulary

/-! ## Reading them off -/

theorem Operation.map_name_dispatch (name : String) (returns : CType) (values : List CType)
    (context : CType) (callback : JavaType) :
    (Operation.dispatch name returns values context callback).params.map OperationParameter.name =
      Vocabulary.callbackParameters values.length := by
  have hproxies : (Operation.proxies values).map OperationParameter.name =
      (List.range values.length).map Vocabulary.proxyParameter := by
    refine List.ext_getElem (by simp [Operation.proxies]) fun i _ _ => ?_
    simp [Operation.proxies]
  rw [Operation.dispatch, List.map_append, hproxies]
  rfl

namespace Linking

variable {name : String} {returns : CType} {values : List CType} {context : CType}
  {callback : JavaType} {ctx : Context} {linked : LinkedOperation}

theorem LinkedAs.dispatch_names
    (h : LinkedAs (.dispatch name returns values context callback) ctx .upcall linked) :
    linked.linkage.allParameters.map Parameter.name =
      Vocabulary.callbackParameters values.length := by
  have hnames := congrArg (List.map Prod.fst) h.dispatch_native
  rw [List.map_map, List.map_map] at hnames
  rw [← Operation.map_name_dispatch name returns values context callback]
  exact hnames

end Linking

/-- The names in the trampoline of a callback that takes so many values. -/
structure UpcallUnit.NamedAs (u : UpcallUnit) (values : Nat) : Prop where
  closureParams : u.closure.params.map Prod.snd = Vocabulary.callbackParameters values
  callerParams : u.caller.params.map Param.name = Vocabulary.callbackParameters values
  /-- The context comes first, and what is looked up comes after all parameters. -/
  nativeBindings : u.nativeBody.bindings.map Binding.name =
    Vocabulary.callbackContext ::
      (Vocabulary.callbackParameters values).map Vocabulary.intermediate ++
      [Vocabulary.callbackClassId, Vocabulary.callbackMethodId]
  javaBindings : u.javaBody.bindings.map Binding.name =
    (Vocabulary.callbackParameters values).map Vocabulary.intermediate
  nativeCaptured : ∀ b ∈ u.nativeBody.completion.capture?, b.name = Vocabulary.returnValue
  javaCaptured : ∀ b ∈ u.javaBody.completion.capture?, b.name = Vocabulary.returnValue

/-- What captures a result is always called the same. -/
theorem Linkage.Completes.named {l : Linkage} {layer : Layer} {run : String}
    {c : Completion Expression} (h : l.Completes layer run c) :
    ∀ b ∈ c.capture?, b.name = Vocabulary.returnValue := by
  intro b hb
  cases h with
  | nothing _ => exact nomatch hb
  | converted _ _ _ => exact nomatch hb
  | captured _ _ _ =>
    obtain rfl := Option.some.inj hb
    rfl

/-- A body declares its bindings, and after them at most the result. -/
theorem Steps.bound_sublist {body : Body}
    (h : ∀ b ∈ body.completion.capture?, b.name = Vocabulary.returnValue) :
    body.bound.Sublist (body.bindings.map Binding.name ++ [Vocabulary.returnValue]) := by
  refine List.Sublist.append (List.Sublist.refl _) ?_
  cases hcapture : body.completion.capture? with
  | none => exact List.nil_sublist _
  | some b =>
    have hname := h b hcapture
    rw [Option.map_some, hname]
    exact List.Sublist.refl _

namespace UpcallUnit

section around

variable {u : UpcallUnit} {name : String} {returns : CType} {values : List CType}
  {context : CType} {callback : JavaType} {ctx : Context} {linked : LinkedOperation}
  {names : MemberNames}

/-- The names in a trampoline are known from the number of values. -/
theorem Around.namedAs {context' : CType}
    (hu : u.Around linked.linkage
      ((linkCallbackObject context' callback).placed Vocabulary.callbackObject .upcall) callback
      names)
    (h : LinkedAs (.dispatch name returns values context callback) ctx .upcall linked) :
    u.NamedAs values.length := by
  have hparams := Operation.map_name_dispatch name returns values context callback
  have hclosure : u.closure.params.map Prod.snd = Vocabulary.callbackParameters values.length := by
    rw [hu.closure_params h, List.map_map, ← hparams]
    rfl
  refine ⟨hclosure, ?_, ?_, ?_, hu.nativeBody.completion.named, hu.javaBody.completion.named⟩
  · -- escaping has nothing to do
    have hescape : u.caller.params.map Param.name =
        (Vocabulary.callbackParameters values.length).map Naming.escape := by
      rw [hu.caller_names h, ← hclosure, List.map_map]
      rfl
    rw [hescape, List.map_congr_left Vocabulary.escape_callbackParameters]
    exact List.map_id _
  · obtain ⟨bound, hbindings, -, hnames⟩ := h.native_variables hu.nativeBody
    rw [hbindings, List.map_append, List.map_append, hnames, dispatch_converted, ← hparams,
      List.map_map]
    rfl
  · rw [← h.dispatch_names, List.map_map,
      ← map_eq_map_of_forall₂ (hu.java_variables h) fun _ _ hb => hb.name.symm]
    exact List.map_congr_left fun q hq => (h.dispatch_arrives q hq).2

end around

end UpcallUnit

/-! ## Conversion in the dispatcher -/

/-- What goes from the native interface to Java shows what it was converted from. -/
theorem Action.transit?_toJava_injective {a : Action} {x y text : String} {d : Direction}
    (hx : a.transit? x .jniToJava d = some text) (hy : a.transit? y .jniToJava d = some text) :
    x = y := by
  have hxy : a.transit? x .jniToJava d = a.transit? y .jniToJava d := hx.trans hy.symm
  cases a with
  | primitive native jni => exact Option.some.inj hxy
  | pointer pointee => exact Option.some.inj hxy
  | enumeration native => exact Option.some.inj hxy
  | nativeString deletion =>
    exact eq_of_written_twice " == null ? null : new String(" ")" (Option.some.inj hxy)
  | structCopy native javaClass | nestedStruct native javaClass =>
    -- a number is put into a wrapper, or passed on as it is
    cases javaClass with
    | none => exact Option.some.inj hxy
    | some javaClass =>
      have hwrapped := (String.append_left_inj _).1 (Option.some.inj hxy)
      exact (String.append_right_inj _).1 hwrapped
  | callbackObject =>
    cases d with
    | downcall => exact nomatch hx
    | upcall => exact Option.some.inj hxy
  | deletionFlag => exact nomatch hx
  | callbackLambda callback code => exact nomatch hx
  | structHandle native => exact nomatch hx

/-- In Java there is no other expression that it could be converted from. -/
theorem Binding.ConvertsFrom.eq_toJava {b : Binding Expression} {p : Parameter} {x y : String}
    (hx : b.ConvertsFrom p .jniToJava x) (hy : b.ConvertsFrom p .jniToJava y) : x = y := by
  obtain ⟨text, htext, hvalue⟩ := hx.text
  obtain ⟨text', htext', hvalue'⟩ := hy.text
  obtain rfl := Expression.literal.inj (hvalue.symm.trans hvalue')
  exact Action.transit?_toJava_injective htext htext'

/-- The variable is converted from what is declared, and from nothing else. -/
def UpcallUnit.Converts (u : UpcallUnit) (declared : String) (b : Binding Expression) : Prop :=
  ∃ p ∈ u.linkage.allParameters, b.Holds p .jniToJava ∧
    ∀ incoming, b.ConvertsFrom p .jniToJava incoming ↔ incoming = declared

/-- So are all variables of the dispatcher, one from each of its parameters. -/
theorem UpcallUnit.Around.java_converts {u : UpcallUnit} {name : String} {returns : CType}
    {values : List CType} {context : CType} {callback : JavaType} {ctx : Context}
    {linked : LinkedOperation} {names : MemberNames} {receiver : Parameter}
    (hu : u.Around linked.linkage receiver callback names)
    (h : LinkedAs (.dispatch name returns values context callback) ctx .upcall linked) :
    List.Forall₂ u.Converts (Vocabulary.callbackParameters values.length) u.javaBody.bindings := by
  rw [← h.dispatch_names, List.forall₂_map_left_iff]
  have hboth := (List.forall₂_and_left _ _).2
    ⟨fun q hq => And.intro hq (h.dispatch_arrives q hq).1, hu.java_variables h⟩
  refine hboth.imp fun q b hqb => ?_
  obtain ⟨⟨hq, htransit⟩, hholds⟩ := hqb
  have hconverts := hholds.convertsFrom htransit
  rw [← hu.linkage] at hq
  refine ⟨q, hq, hholds, fun incoming => ⟨fun hincoming => hincoming.eq_toJava hconverts, ?_⟩⟩
  rintro rfl
  exact hconverts

/-! ## Hygiene -/

/-- No name in the trampoline is declared twice where it can be seen: not among the parameters of the
closure or the dispatcher, not among the variables of their bodies, and not by both.  Each variable is
declared before it is needed and converted from what the signature declares. -/
structure UpcallUnit.Hygienic (u : UpcallUnit) : Prop where
  closureParams : (u.closure.params.map Prod.snd).Nodup
  /-- The context, one variable for each parameter, and what is looked up, in this order. -/
  nativeBindings : u.nativeBody.bindings.map Binding.name =
    Vocabulary.callbackContext :: (u.closure.params.map fun p => Vocabulary.intermediate p.2) ++
      [Vocabulary.callbackClassId, Vocabulary.callbackMethodId]
  nativeBound : u.nativeBody.bound.Nodup
  nativeFresh : u.nativeBody.bound.Disjoint (u.closure.params.map Prod.snd)
  callerParams : (u.caller.params.map Param.name).Nodup
  callerEscaped : ∀ p ∈ u.caller.params, Naming.escape p.name = p.name
  javaConverts : List.Forall₂ u.Converts (u.caller.params.map Param.name) u.javaBody.bindings
  javaBound : u.javaBody.bound.Nodup
  javaFresh : u.javaBody.bound.Disjoint (u.caller.params.map Param.name)

namespace UpcallUnit.NamedAs

variable {u : UpcallUnit} {n : Nat}

theorem native_sublist (hu : u.NamedAs n) :
    u.nativeBody.bound.Sublist (Vocabulary.closureVariables n) := by
  have hsublist := Steps.bound_sublist hu.nativeCaptured
  rwa [hu.nativeBindings] at hsublist

theorem java_sublist (hu : u.NamedAs n) :
    u.javaBody.bound.Sublist (Vocabulary.callbackVariables n) := by
  have hsublist := Steps.bound_sublist hu.javaCaptured
  rwa [hu.javaBindings] at hsublist

/-- Once the names are known, nothing is left to ask but where conversion starts. -/
theorem hygienic (hu : u.NamedAs n)
    (hconverts : List.Forall₂ u.Converts (Vocabulary.callbackParameters n) u.javaBody.bindings) :
    u.Hygienic where
  closureParams := by
    rw [hu.closureParams]
    exact Vocabulary.callbackParameters_nodup n
  nativeBindings := by
    rw [hu.nativeBindings, ← hu.closureParams, List.map_map]
    rfl
  nativeBound := (Vocabulary.closureVariables_nodup n).sublist hu.native_sublist
  nativeFresh := by
    rw [hu.closureParams]
    intro name hbound hparam
    exact Vocabulary.closureVariables_disjoint n (hu.native_sublist.subset hbound) hparam
  callerParams := by
    rw [hu.callerParams]
    exact Vocabulary.callbackParameters_nodup n
  callerEscaped := by
    intro p hp
    refine Vocabulary.escape_callbackParameters (n := n) p.name ?_
    rw [← hu.callerParams]
    exact List.mem_map_of_mem hp
  javaConverts := by
    rw [hu.callerParams]
    exact hconverts
  javaBound := (Vocabulary.callbackVariables_nodup n).sublist hu.java_sublist
  javaFresh := by
    rw [hu.callerParams]
    intro name hbound hparam
    exact Vocabulary.callbackVariables_disjoint n (hu.java_sublist.subset hbound) hparam

end UpcallUnit.NamedAs

/-- No name clashes in the trampoline of a callback, however many parameters it has. -/
theorem CallbackInterface.hygienic_of_create {operation parameter : String} {proto : CType}
    {ctx : Context} {cb : CallbackInterface}
    (h : (CallbackInterface.create operation parameter proto ctx).outcome = .ok cb) :
    cb.method.Hygienic := by
  have hcreated := (CallbackInterface.create_ends operation parameter proto ctx).of_ok h
  obtain ⟨returns, values, context, linked, -, hlinked, haround⟩ := hcreated.method
  have hnamed := haround.namedAs hlinked
  exact hnamed.hygienic (haround.java_converts hlinked)

/-- A callback that is given a number and a text and returns a text. -/
theorem CallbackInterface.hygienic_of_create_translator :
    ∃ cb, (CallbackInterface.create "register" "translator"
        (.function (.pointerTo (.ofScalar .charSigned "char")) [.ofScalar .int "int",
          .pointerTo (.ofScalar .charSigned "char"), .voidPointer])
        { package := "com.geo", container := "Native" }).outcome = .ok cb ∧
      cb.method.nativeBody.bound = ["func$$context", "proxyParam0$int", "proxyParam1$int",
        "func$callbackObject$int", "func$$classId", "func$$methodId", "returnValue$int"] ∧
      cb.method.caller.params.map Param.name =
        ["proxyParam0", "proxyParam1", "func$callbackObject"] ∧
      cb.method.Hygienic :=
  ⟨_, rfl, rfl, rfl, @CallbackInterface.hygienic_of_create "register" "translator"
    (.function (.pointerTo (.ofScalar .charSigned "char")) [.ofScalar .int "int",
      .pointerTo (.ofScalar .charSigned "char"), .voidPointer])
    { package := "com.geo", container := "Native" } _ rfl⟩

end JniBridge
