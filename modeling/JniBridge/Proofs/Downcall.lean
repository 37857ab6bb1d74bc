import JniBridge.Proofs.Acceptance
import JniBridge.Unit.Downcall
/-
What becomes of the arguments of a downcall.

Three signatures, two bodies and a call are read off one list of generated parameters, each by a test
of its own.  In a downcall these tests agree (`Parameter.Aligned`): the raw method, its glue function
and the variables of the Java body all list the same parameters, with types that belong together, and
the parameters of the operation go on into native code, in order (`DowncallUnit.faithful_of_link`).

The unit around a linked operation is always written (`DowncallUnit.ofLinked_ok`).
-/

namespace JniBridge

open Linking

/-! ## The unit -/

namespace DowncallUnit

/-- The unit is the code around a linked downcall: its signatures are read off the linkage, and its
bodies do what they should. -/
structure Around (u : DowncallUnit) (made : LinkedOperation) (spec : DowncallSpec) : Prop where
  linked : u.linked = made
  javaMethod : u.javaMethod = javaMethodOf made.linkage spec
  rawMethod : u.rawMethod = rawMethodOf made.linkage spec
  glueMethod : u.glueMethod = glueMethodOf made.linkage spec
  nativeMethod : u.nativeMethod = nativeMethodOf made.linkage
  run : made.linkage.run = .ok u.run
  javaBody : made.linkage.Conducts .java [] [] (rawCall made.linkage spec) u.javaBody
  glueBody : made.linkage.Conducts .native [] [] u.run u.glueBody

/-- A sound linkage has its unit, if the operation itself can be written. -/
theorem ofLinked_ok {linked : LinkedOperation} {run : String} (hl : linked.linkage.Sound)
    (hrun : linked.linkage.run = .ok run) (spec : DowncallSpec) :
    ∃ u, ofLinked linked spec = .ok u ∧ u.Around linked spec := by
  obtain ⟨javaBody, hjava, hconductsJava⟩ := hl.body_ok .java [] [] (rawCall linked.linkage spec)
  obtain ⟨glueBody, hglue, hconductsGlue⟩ := hl.body_ok .native [] [] run
  refine ⟨⟨linked, javaMethodOf linked.linkage spec, rawMethodOf linked.linkage spec,
    glueMethodOf linked.linkage spec, nativeMethodOf linked.linkage, run, javaBody, glueBody⟩, ?_,
    ⟨rfl, rfl, rfl, rfl, rfl, hrun, hconductsJava, hconductsGlue⟩⟩
  rw [ofLinked]
  show (linked.linkage.body .java [] [] _ >>= _) = _
  rw [hjava, hrun]
  show (linked.linkage.body .native _ _ run >>= _) = _
  rw [hglue]
  rfl

end DowncallUnit

/-! ## What native code runs -/

-- the texts are spelled out as they are to be read, and not by what writes them

/-- The operation is performed on variables: a function is applied to all of them, a field is read
through the first, and assigned the second.  A string that is overwritten may have to be released, which
is left to a helper. -/
inductive Operation.Performs : Operation → List String → String → Prop
  | call (decl : FunctionDecl) (names : List String) :
    Performs (.callNative decl) names (decl.name ++ "(" ++ ", ".intercalate names ++ ")")
  | get (record : CType) (field : NamedType) (receiver : String) :
    Performs (.getField record field) [receiver] (receiver ++ "->" ++ field.name)
  | assign (record : CType) (field : NamedType) (receiver value : String)
    (h : ¬ field.type.IsString) :
    Performs (.setField record field) [receiver, value]
      (receiver ++ "->" ++ field.name ++ " = " ++ ("bndjni::passAsC(" ++ value ++ ")"))
  | overwrite (record : CType) (field : NamedType) (receiver value : String)
    (h : field.type.IsString) :
    Performs (.setField record field) [receiver, value]
      ("bndjni::overwriteString(" ++ (receiver ++ "->" ++ field.name) ++ ", " ++
        ("bndjni::passAsC(" ++ value ++ ")") ++ ", overwrittenValueDeletionBehaviour)")

namespace Linkage

theorem passAsC_eq (value : String) :
    callText (Vocabulary.helper "passAsC") [value] = "bndjni::passAsC(" ++ value ++ ")" := by
  have hname : Vocabulary.helper "passAsC" ++ "(" = "bndjni::passAsC(" := by decide
  rw [callText, String.intercalate_singleton, hname]

/-- What is no string is assigned. -/
theorem assignText_none (target value : String) :
    assignText target value none = target ++ " = " ++ ("bndjni::passAsC(" ++ value ++ ")") := by
  rw [← passAsC_eq]
  rfl

/-- A string is overwritten with the flag that it brings. -/
theorem assignText_some (target value : String) (flag : Parameter) :
    assignText target value (some flag) = "bndjni::overwriteString(" ++ target ++ ", " ++
      ("bndjni::passAsC(" ++ value ++ ")") ++ (", " ++ flag.name ++ ")") := by
  have hname : Vocabulary.helper "overwriteString" ++ "(" = "bndjni::overwriteString(" := by decide
  rw [← passAsC_eq]
  show callText (Vocabulary.helper "overwriteString") [target, _, flag.name] = _
  rw [callText, String.intercalate_cons_cons, String.intercalate_cons_cons,
    String.intercalate_singleton, hname]
  simp only [String.append_assoc]

end Linkage

/-- Writing a field takes the struct and a value, and makes no interface: no context could follow. -/
theorem Linking.LinkedAs.params_setField {record : CType} {field : NamedType} {ctx : Context}
    {linked : LinkedOperation} (h : LinkedAs (.setField record field) ctx .downcall linked) :
    linked.callbacks = [] ∧ ∃ handle v i,
      linked.linkage.params =
        [handle, ⟨v.placed Vocabulary.newValue .downcall, v.companions⟩] ∧
      Settled (.setField record field) .downcall field.type (.parameter i) v := by
  obtain ⟨rs, hrs, hmap, hcallbacks⟩ := h.params
  rw [hmap, hcallbacks]
  have hps : (Operation.setField record field).params =
      [Operation.receiver record, ⟨Vocabulary.newValue, field.type, .value⟩] := rfl
  rw [hps] at hrs
  cases hrs with
  | value role _ _ => exact nomatch role
  | receiver role _ => exact nomatch role
  | pointer role _ _ _ _ _ => exact nomatch role
  | handle _ _ _ rest =>
    cases rest with
    | handle role _ _ _ => exact nomatch role
    | receiver role _ => exact nomatch role
    | pointer _ _ _ _ _ rest =>
      -- its context would have to follow the last parameter
      exact nomatch rest
    | value _ settled rest =>
      cases rest
      exact ⟨rfl, _, _, _, rfl, settled⟩

/-- The flag by which Java decides about an overwritten string. -/
def Linking.overwriteFlag : Parameter := deletionFlag Vocabulary.overwriteDeletion .downcall

/-- A setter's new value brings its flag if it is a string. -/
theorem Linking.flags_setField (record : CType) (field : NamedType) (i : Nat) :
    flags (.setField record field) .downcall field.type (.parameter i) =
      if field.type.isNativeString then [overwriteFlag] else [] :=
  flags_eq _ .downcall field.type (.parameter i)

/-- A field is assigned with the flag that its own type brings. -/
theorem Linking.LinkedAs.overwrite_flag {record : CType} {field : NamedType} {ctx : Context}
    {linked : LinkedOperation} (h : LinkedAs (.setField record field) ctx .downcall linked) :
    (linked.linkage.params[1]?.bind fun p => p.companions.head?) =
      if field.type.isNativeString then some overwriteFlag else none := by
  obtain ⟨-, handle, v, i, hparams, settled⟩ := h.params_setField
  rw [hparams]
  show List.head? _ = _
  rw [settled.companions, flags_setField]
  split
  · rfl
  · rfl

/-- A field is set by an assignment, or by the helper if it holds a string. -/
theorem Operation.Performs.set (record : CType) (field : NamedType) (receiver value : String) :
    Performs (.setField record field) [receiver, value]
      (Linkage.assignText (receiver ++ "->" ++ field.name) value
        (if field.type.isNativeString then some overwriteFlag else none)) := by
  by_cases hs : field.type.IsString
  · have hflag : ", " ++ overwriteFlag.name ++ ")" = ", overwrittenValueDeletionBehaviour)" := by
      decide
    rw [if_pos ((CType.isNativeString_iff _).2 hs), Linkage.assignText_some, hflag]
    exact .overwrite record field receiver value hs
  · rw [if_neg (mt (CType.isNativeString_iff _).1 hs), Linkage.assignText_none]
    exact .assign record field receiver value hs

/-- Whatever Java asks for, a linkage of it can be run, on the variables that hold its parameters. -/
theorem Linking.LinkedAs.run_ok {op : Operation} {ctx : Context} {linked : LinkedOperation}
    (h : LinkedAs op ctx .downcall linked) (hop : op.Offered) :
    ∃ run, linked.linkage.run = .ok run ∧
      op.Performs (op.params.map OperationParameter.converted) run := by
  have harguments := h.arguments
  rw [Linkage.run, h.operation]
  unfold Linkage.runOperation
  rw [harguments]
  cases hop with
  | call decl => exact ⟨_, rfl, .call decl _⟩
  | get hrecord field => exact ⟨_, rfl, .get _ field _⟩
  | set hrecord field =>
    refine ⟨_, rfl, ?_⟩
    rw [h.overwrite_flag]
    exact .set _ field _ _

/-! ## One list, read three ways -/

section aligned

variable {ps : List Parameter}

/-- The raw method declares the parameters that are converted in Java. -/
theorem map_type_rawParams (h : ∀ p ∈ ps, p.Aligned) :
    (ps.filterMap Parameter.rawParam?).map (fun q => some q.type) =
      (ps.filter fun p => p.behaviors.supports .javaToJni).map Parameter.rawType := by
  induction ps with
  | nil => rfl
  | cons p ps ih =>
    obtain ⟨hp, hps⟩ := List.forall_mem_cons.1 h
    have htaken := hp.taken
    cases hraw : p.rawType with
    | none =>
      rw [hraw] at htaken
      rw [List.filterMap_cons_none (by rw [Parameter.rawParam?, hraw]; rfl),
        List.filter_cons_of_neg (by rw [htaken]; exact Bool.false_ne_true), ih hps]
    | some raw =>
      rw [hraw] at htaken
      have hparam : p.rawParam? = some ⟨raw, Naming.escape p.name⟩ := by
        rw [Parameter.rawParam?, hraw]
        rfl
      rw [List.filterMap_cons_some hparam, List.filter_cons_of_pos (by rw [htaken]; rfl),
        List.map_cons, List.map_cons, ih hps, hraw]

/-- So does its glue function, in the types that belong to them. -/
theorem map_type_jniParams (h : ∀ p ∈ ps, p.Aligned) :
    (ps.filterMap Parameter.jniParam?).map (fun q => q.type.asJava?) =
      (ps.filter fun p => p.behaviors.supports .javaToJni).map Parameter.rawType := by
  induction ps with
  | nil => rfl
  | cons p ps ih =>
    obtain ⟨hp, hps⟩ := List.forall_mem_cons.1 h
    have htaken := hp.taken.trans hp.jni.symm
    have hraw := hp.raw
    cases hjni : p.jniType with
    | none =>
      rw [hjni] at htaken
      rw [List.filterMap_cons_none (by rw [Parameter.jniParam?, hjni]; rfl),
        List.filter_cons_of_neg (by rw [htaken]; exact Bool.false_ne_true), ih hps]
    | some jni =>
      rw [hjni] at htaken hraw
      have hparam : p.jniParam? = some ⟨jni, p.name⟩ := by
        rw [Parameter.jniParam?, hjni]
        rfl
      rw [List.filterMap_cons_some hparam, List.filter_cons_of_pos (by rw [htaken]; rfl),
        List.map_cons, List.map_cons, ih hps, ← hraw]
      rfl

/-- The raw call passes the variables of the Java body. -/
theorem map_javaExpression (h : ∀ p ∈ ps, p.Aligned ∧ p.direction = .downcall) :
    (ps.filter fun p => p.rawType.isSome).map Parameter.javaExpression =
      (ps.filter fun p => p.behaviors.supports .javaToJni).map Parameter.intermediate := by
  have hfilter : (ps.filter fun p => p.rawType.isSome) =
      ps.filter fun p => p.behaviors.supports .javaToJni :=
    List.filter_congr fun p hp => (h p hp).1.taken.symm
  rw [hfilter]
  refine List.map_congr_left fun p hp => ?_
  obtain ⟨hmem, htaken⟩ := List.mem_filter.1 hp
  rw [Parameter.javaExpression, Parameter.convertedOn, (h p hmem).2]
  exact if_pos htaken

end aligned

/-! ## The arguments of a downcall -/

namespace DowncallUnit

/-- No argument is lost, duplicated, reordered or given another type between Java and native code. -/
structure Faithful (u : DowncallUnit) (op : Operation) (spec : DowncallSpec) : Prop where
  rawLength : u.rawMethod.params.length = u.javaBody.bindings.length
  glueLength : u.glueMethod.params.length = u.javaBody.bindings.length
  /-- The variables of the Java body have the types that the raw method declares. -/
  rawTypes : u.rawMethod.params.map (fun p => some p.type) = u.javaBody.bindings.map Binding.type
  /-- So have the parameters of the glue function. -/
  glueTypes : u.glueMethod.params.map (fun p => p.type.asJava?) =
    u.javaBody.bindings.map Binding.type
  /-- The Java body ends with the raw call on all its variables. -/
  rawCall : u.linkage.Completes .java
    (spec.rawName ++ "(" ++ ", ".intercalate (u.javaBody.bindings.map Binding.name) ++ ")")
    u.javaBody.completion
  /-- What is called in native code has the parameters of the operation. -/
  nativeNames : u.nativeMethod.params.map Param.name = op.params.map OperationParameter.name
  /-- The glue function binds one variable for each of them. -/
  intermediates : u.glueBody.bindings.map Binding.name = op.params.map OperationParameter.converted
  /-- The variable holds that parameter, converted. -/
  crossings : List.Forall₂ (fun l b => b.Holds l.parameter .jniToNative) u.linkage.params
    u.glueBody.bindings
  /-- It ends with the operation on all its variables. -/
  performs : op.Performs (u.glueBody.bindings.map Binding.name) u.run
  glueCall : u.linkage.Completes .native u.run u.glueBody.completion

/-- The parameters of the native function are those of the operation. -/
theorem map_name_nativeParams {d : Direction} {ps : List OperationParameter}
    {ls : List ParameterLinkage} (h : List.Forall₂ (Reaches d) ps ls) :
    (ls.filterMap fun l => l.parameter.nativeParam?).map Param.name =
      ps.map OperationParameter.name := by
  have hnamed : (ls.filterMap fun l => l.parameter.nativeParam?).map Param.name =
      ls.map fun l => l.parameter.name := by
    refine map_filterMap_of_forall fun l hl => ?_
    have htyped := forall_mem_of_forall₂ h (fun _ _ hl => hl.typed) l hl
    obtain ⟨t, ht⟩ := Option.isSome_iff_exists.1 htyped
    exact ⟨⟨t, l.parameter.name⟩, by rw [Parameter.nativeParam?, ht]; rfl, rfl⟩
  rw [hnamed]
  exact (map_eq_map_of_forall₂ h fun _ _ hl => hl.named.symm).symm

/-- In a downcall all generated parameters are aligned, and know their direction. -/
theorem aligned_of_linked {op : Operation} {ctx : Context} {linked : LinkedOperation}
    (h : LinkedAs op ctx .downcall linked) (hop : op.Offered) :
    ∀ p ∈ linked.linkage.allParameters, p.Aligned ∧ p.direction = .downcall := by
  intro p hp
  have hform := h.sound.form p hp
  rw [h.direction] at hform
  exact ⟨hform.aligned (h.not_receiver hop.not_callback p hp), hform.direction⟩

/-- The variables of the Java body hold the parameters that take its edge. -/
theorem Around.java_variables {u : DowncallUnit} {op : Operation} {ctx : Context}
    {linked : LinkedOperation} {spec : DowncallSpec} (hu : u.Around linked spec)
    (h : LinkedAs op ctx .downcall linked) :
    List.Forall₂ (fun p b => Binding.Holds b p .javaToJni)
      (linked.linkage.allParameters.filter fun p => p.behaviors.supports .javaToJni)
      u.javaBody.bindings := by
  obtain ⟨bs, hbs, hholds⟩ := hu.javaBody.bindings
  rw [List.nil_append, List.append_nil] at hbs
  rw [h.direction, ← hbs] at hholds
  exact hholds

/-- The unit around a linked operation is faithful to it. -/
theorem Around.faithful {u : DowncallUnit} {op : Operation} {ctx : Context}
    {linked : LinkedOperation} {spec : DowncallSpec} (hu : u.Around linked spec)
    (h : LinkedAs op ctx .downcall linked) (hop : op.Offered) : u.Faithful op spec := by
  have haligned := aligned_of_linked h hop
  have hjava := hu.java_variables h
  have htypes : u.javaBody.bindings.map Binding.type =
      (linked.linkage.allParameters.filter fun p => p.behaviors.supports .javaToJni).map
        Parameter.rawType :=
    (map_eq_map_of_forall₂ hjava fun _ _ hb => hb.type.symm).symm
  have hnames : u.javaBody.bindings.map Binding.name =
      (linked.linkage.allParameters.filter fun p => p.behaviors.supports .javaToJni).map
        Parameter.intermediate :=
    (map_eq_map_of_forall₂ hjava fun _ _ hb => hb.name.symm).symm
  have hraw : u.rawMethod.params.map (fun p => some p.type) =
      u.javaBody.bindings.map Binding.type := by
    rw [hu.rawMethod, htypes]
    exact map_type_rawParams fun p hp => (haligned p hp).1
  have hglue : u.glueMethod.params.map (fun p => p.type.asJava?) =
      u.javaBody.bindings.map Binding.type := by
    rw [hu.glueMethod, htypes]
    exact map_type_jniParams fun p hp => (haligned p hp).1
  have hcall : DowncallUnit.rawCall linked.linkage spec =
      spec.rawName ++ "(" ++ ", ".intercalate (u.javaBody.bindings.map Binding.name) ++ ")" := by
    rw [hnames, ← map_javaExpression haligned]
    rfl
  -- what goes on into native code are the parameters of the operation
  obtain ⟨bs, hbs, hcrossings, hintermediates⟩ := h.native_variables hu.glueBody
  rw [List.nil_append, List.append_nil] at hbs
  subst hbs
  obtain ⟨run, hrun, hperforms⟩ := h.run_ok hop
  obtain rfl := Except.ok.inj (hu.run.symm.trans hrun)
  have hlinkage : u.linkage = linked.linkage := congrArg LinkedOperation.linkage hu.linked
  exact
    { rawLength := by simpa using congrArg List.length hraw
      glueLength := by simpa using congrArg List.length hglue
      rawTypes := hraw, glueTypes := hglue
      rawCall := by
        rw [hlinkage, ← hcall]
        exact hu.javaBody.completion
      nativeNames := by
        rw [hu.nativeMethod]
        exact map_name_nativeParams h.reaches
      intermediates := hintermediates
      crossings := by
        rw [hlinkage]
        exact hcrossings
      performs := by
        rw [hintermediates]
        exact hperforms
      glueCall := by
        rw [hlinkage]
        exact hu.glueBody.completion }

/-- The signatures of a unit are read off its linkage, and that is the one that linking gives. -/
theorem methods_of_link {op : Operation} {spec : DowncallSpec} {ctx : Context} {u : DowncallUnit}
    (h : (link op spec ctx).outcome = .ok u) :
    (op.link ctx .downcall).outcome = .ok u.linked ∧ u.javaMethod = javaMethodOf u.linkage spec ∧
      u.rawMethod = rawMethodOf u.linkage spec ∧ u.glueMethod = glueMethodOf u.linkage spec := by
  obtain ⟨linked, hlinked, h⟩ := exists_of_bind_eq_ok h
  have hof : ofLinked linked spec = .ok u := h
  obtain ⟨javaBody, -, hof⟩ := exists_of_except_bind hof
  obtain ⟨run, -, hof⟩ := exists_of_except_bind hof
  obtain ⟨glueBody, -, hof⟩ := exists_of_except_bind hof
  obtain rfl := Except.ok.inj hof
  exact ⟨hlinked, rfl, rfl, rfl⟩

theorem linked_of_link {op : Operation} {spec : DowncallSpec} {ctx : Context} {u : DowncallUnit}
    (h : (link op spec ctx).outcome = .ok u) : (op.link ctx .downcall).outcome = .ok u.linked :=
  (methods_of_link h).1

/-- Around whatever Java asks for and is linked, there is a unit. -/
theorem exists_around {op : Operation} (hop : op.Offered) {ctx : Context} {linked : LinkedOperation}
    (hok : (op.link ctx .downcall).outcome = .ok linked) (spec : DowncallSpec) :
    ∃ u, (link op spec ctx).outcome = .ok u ∧ u.Around linked spec := by
  have hlinked := (hop.link_ends ctx).of_ok hok
  obtain ⟨run, hrun, -⟩ := hlinked.run_ok hop
  obtain ⟨u, hu, haround⟩ := ofLinked_ok hlinked.sound hrun spec
  refine ⟨u, ?_, haround⟩
  rw [link, Logged.outcome_bind, hok]
  exact hu

/-- Around whatever Java asks for, only linking can fail. -/
theorem link_ends {op : Operation} (hop : op.Offered) (spec : DowncallSpec) (ctx : Context) :
    Ends (link op spec ctx).outcome (fun u => u.Faithful op spec)
      fun e => e.isRefusal ∧ (op.link ctx .downcall).outcome = .error e := by
  cases hok : (op.link ctx .downcall).outcome with
  | error e =>
    rw [link, Logged.outcome_bind, hok]
    exact ⟨((hop.link_ends ctx).of_error hok).1, rfl⟩
  | ok linked =>
    obtain ⟨u, hu, haround⟩ := exists_around hop hok spec
    rw [hu]
    exact haround.faithful ((hop.link_ends ctx).of_ok hok) hop

/-- The unit of an operation that Java asks for is faithful to it. -/
theorem faithful_of_link {op : Operation} (hop : op.FromJava) {spec : DowncallSpec} {ctx : Context}
    {u : DowncallUnit} (h : (link op spec ctx).outcome = .ok u) : u.Faithful op spec := by
  have hbind := h
  rw [link, Logged.outcome_bind] at hbind
  cases hok : (op.link ctx .downcall).outcome with
  | error e =>
    rw [hok] at hbind
    exact nomatch hbind
  | ok linked => exact (link_ends (hop.offered_of_link hok) spec ctx).of_ok h

/-- Of the arguments of a visitor, Java passes two on and the glue function makes three of them. -/
theorem faithful_of_link_visitor :
    ∃ u, (link (.callNative ⟨"visit", .ofScalar .int "int",
        [⟨"from", .ofScalar .unsignedInt "unsigned int"⟩,
          ⟨"visitor", .pointerTo (.function .void [.ofScalar .int "int", .voidPointer])⟩,
          ⟨"context", .voidPointer⟩]⟩) (.ofName "visit" (.ofClass "geo" "Native"))
        { package := "geo", container := "Native" }).outcome = .ok u ∧
      u.rawMethod.params.length = 2 ∧
      u.glueBody.bindings.map Binding.name = ["from$int", "visitor$int", "context$int"] ∧
      u.Faithful (.callNative ⟨"visit", .ofScalar .int "int",
        [⟨"from", .ofScalar .unsignedInt "unsigned int"⟩,
          ⟨"visitor", .pointerTo (.function .void [.ofScalar .int "int", .voidPointer])⟩,
          ⟨"context", .voidPointer⟩]⟩) (.ofName "visit" (.ofClass "geo" "Native")) :=
  ⟨_, rfl, rfl, rfl, faithful_of_link (.call _) rfl⟩

end DowncallUnit

end JniBridge
