import JniBridge.Proofs.Crossing
/-
Who releases a native string.

A native string crosses into Java in two places: as the result of a downcall, and as the old value of a
field that is overwritten.  There, and nowhere else, Java passes a flag along that says whether native
code releases it.  Three parts of linking decide about flags, each by itself: the companions of a value,
the action of a result, and the run of a setter.  That they decide alike is `FlagsStrings`; the flags are
read off the operation (`operationFlags`), and with them all that is generated besides its own
parameters (`LinkedAs.companions_eq`, `LinkedAs.length_allParameters`).

A callback brings no flags, whatever it takes or returns.
-/

namespace JniBridge

open Linking

/-! ## The flags of an operation -/

namespace Linking

variable {op : Operation} {ctx : Context} {d : Direction} {awaiting : Option CallbackInterface}
  {ps : List OperationParameter} {rs : List (ParameterLinkage × Option CallbackInterface)}
  {linked : LinkedOperation}

/-- The flags that a parameter of an operation brings. -/
def parameterFlags (op : Operation) (d : Direction) (p : OperationParameter) : List Parameter :=
  if p.role = .value then flags op d p.type (.parameter 0) else []

/-- A linked parameter is itself no companion, and brings its flags. -/
theorem ParametersLinked.companions (h : ParametersLinked op ctx d awaiting ps rs) :
    List.Forall₂ (fun p r => r.1.parameter.isCompanion = false ∧
      r.1.companions = parameterFlags op d p) ps rs := by
  induction h with
  | nil => exact .nil
  | @value p ps rs v i role settled _ ih =>
    refine .cons ⟨settled.carried.notCompanion, ?_⟩ ih
    -- no flag depends on where exactly its parameter stands
    rw [settled.companions, parameterFlags, if_pos role, flags_eq, flags_eq]
    cases d <;> rfl
  | handle role _ _ _ ih =>
    refine .cons ⟨rfl, ?_⟩ ih
    rw [parameterFlags, if_neg (by rw [role]; exact nofun)]
  | receiver role _ ih =>
    refine .cons ⟨rfl, ?_⟩ ih
    rw [parameterFlags, if_neg (by rw [role]; exact nofun)]
  | pointer role _ shape _ _ _ ih =>
    refine .cons ⟨rfl, ?_⟩ ih
    rw [parameterFlags, if_pos role]
    exact (flags_of_shape shape nofun).symm
  | context role _ hcontext _ ih =>
    obtain ⟨pointee, hshape⟩ := CType.shape_of_isContext hcontext
    refine .cons ⟨rfl, ?_⟩ ih
    rw [parameterFlags, if_pos role]
    exact (flags_of_shape hshape nofun).symm

/-- The flags of an operation, in the order in which they travel. -/
def operationFlags (op : Operation) (d : Direction) : List Parameter :=
  op.params.flatMap (parameterFlags op d) ++ flags op d op.returns .returned

theorem isCompanion_of_mem_flags {t : CType} {position : Position} :
    ∀ q ∈ flags op d t position, q.isCompanion = true := by
  intro q hq
  obtain ⟨name, -, rfl⟩ := mem_flags hq
  rfl

theorem isCompanion_of_mem_parameterFlags {p : OperationParameter} :
    ∀ q ∈ parameterFlags op d p, q.isCompanion = true := by
  unfold parameterFlags
  split
  · exact isCompanion_of_mem_flags
  · exact List.forall_mem_nil _

/-- Of what the parameters give rise to, the companions are the flags. -/
theorem filter_isCompanion_generated {ls : List ParameterLinkage}
    (h : List.Forall₂ (fun p l => l.parameter.isCompanion = false ∧
      l.companions = parameterFlags op d p) ps ls) :
    (ls.flatMap ParameterLinkage.generated).filter Parameter.isCompanion =
      ps.flatMap (parameterFlags op d) := by
  induction h with
  | nil => rfl
  | @cons p l ps ls hl _ ih =>
    have hhead : l.generated.filter Parameter.isCompanion = parameterFlags op d p := by
      rw [ParameterLinkage.generated, hl.2,
        List.filter_cons_of_neg (by rw [hl.1]; exact Bool.false_ne_true)]
      exact List.filter_eq_self.2 isCompanion_of_mem_parameterFlags
    rw [List.flatMap_cons, List.flatMap_cons, List.filter_append, hhead, ih]

/-- Each parameter gives rise to itself and its flags. -/
theorem length_generated {ls : List ParameterLinkage}
    (h : List.Forall₂ (fun p l => l.parameter.isCompanion = false ∧
      l.companions = parameterFlags op d p) ps ls) :
    (ls.flatMap ParameterLinkage.generated).length =
      ps.length + (ps.flatMap (parameterFlags op d)).length := by
  induction h with
  | nil => rfl
  | @cons p l ps ls hl _ ih =>
    have hhead : l.generated.length = 1 + (parameterFlags op d p).length := by
      rw [ParameterLinkage.generated, hl.2, List.length_cons, Nat.add_comm]
    rw [List.flatMap_cons, List.flatMap_cons, List.length_append, List.length_append,
      List.length_cons, hhead, ih]
    omega

theorem LinkedAs.forall₂_companions (h : LinkedAs op ctx d linked) :
    List.Forall₂ (fun p l => l.parameter.isCompanion = false ∧
      l.companions = parameterFlags op d p) op.params linked.linkage.params := by
  obtain ⟨rs, hrs, hmap, -⟩ := h.params
  rw [hmap]
  exact List.forall₂_map_right_iff.2 hrs.companions

/-- The companions of a result are the flags that it brings. -/
theorem LinkedAs.result_companions (h : LinkedAs op ctx d linked) :
    (linked.linkage.returnValue.map ReturnValue.companions).getD [] =
      flags op d op.returns .returned := by
  rcases h.returns with ⟨hvoid, hr⟩ | ⟨-, r, hr, hsettled⟩
  · rw [hr, flags_eq, CType.isNativeString_of_isVoid hvoid]
    rfl
  · rw [hr]
    exact hsettled.companions

/-- The companions among all that is generated are the operation's flags. -/
theorem LinkedAs.companions_eq (h : LinkedAs op ctx d linked) :
    linked.linkage.allParameters.filter Parameter.isCompanion = operationFlags op d := by
  rw [Linkage.allParameters, List.filter_append, h.result_companions,
    filter_isCompanion_generated h.forall₂_companions,
    List.filter_eq_self.2 isCompanion_of_mem_flags]
  rfl

/-- Nothing else is generated besides the operation's own parameters. -/
theorem LinkedAs.length_allParameters (h : LinkedAs op ctx d linked) :
    linked.linkage.allParameters.length = op.params.length + (operationFlags op d).length := by
  rw [Linkage.allParameters, List.length_append, h.result_companions,
    length_generated h.forall₂_companions, operationFlags, List.length_append, Nat.add_assoc]

/-- An upcall releases nothing. -/
theorem operationFlags_upcall (op : Operation) : operationFlags op .upcall = [] := by
  have hparams : ∀ p, parameterFlags op .upcall p = [] := by
    intro p
    unfold parameterFlags
    rw [flags_upcall, ite_self]
  rw [operationFlags, flags_upcall, List.append_nil, List.flatMap_eq_nil_iff]
  exact fun p _ => hparams p

end Linking

/-! ## What Java asks for -/

namespace Operation

/-- The operation overwrites a string: it sets a field that holds one. -/
def OverwritesString (op : Operation) : Prop :=
  ∃ record field, op = .setField record field ∧ field.type.IsString

theorem not_overwritesString_of_not_setter {op : Operation} (h : op.isSetter = false) :
    ¬ op.OverwritesString := by
  rintro ⟨record, field, rfl, -⟩
  exact nomatch h

theorem setField_overwritesString_iff (record : CType) (field : NamedType) :
    (Operation.setField record field).OverwritesString ↔ field.type.IsString := by
  constructor
  · rintro ⟨record', field', heq, hstring⟩
    -- the new value is the second parameter
    have hparams : (setField record field).params = (setField record' field').params :=
      congrArg Operation.params heq
    obtain ⟨-, hvalue⟩ := List.cons.inj hparams
    obtain ⟨hvalue, -⟩ := List.cons.inj hvalue
    have htype : field.type = field'.type := congrArg OperationParameter.type hvalue
    rwa [htype]
  · exact fun hstring => ⟨record, field, rfl, hstring⟩

end Operation

namespace Linking

/-- The flag by which Java decides about a returned string. -/
def returnFlag : Parameter := deletionFlag Vocabulary.returnDeletion .downcall

/-- In a downcall a returned string brings its flag, and no other result does. -/
theorem flags_returned (op : Operation) (t : CType) :
    flags op .downcall t .returned = if t.isNativeString then [returnFlag] else [] :=
  flags_eq op .downcall t .returned

/-- Operations other than setters bring flags with their results only. -/
theorem operationFlags_of_not_setter {op : Operation} (h : op.isSetter = false) :
    operationFlags op .downcall = if op.returns.isNativeString then [returnFlag] else [] := by
  have hparams : ∀ p, parameterFlags op .downcall p = [] := by
    intro p
    unfold parameterFlags
    rw [flags_of_not_setter h, ite_self]
  have hnone : op.params.flatMap (parameterFlags op .downcall) = [] :=
    List.flatMap_eq_nil_iff.2 fun p _ => hparams p
  rw [operationFlags, hnone, List.nil_append, flags_returned]

theorem operationFlags_setField (record : CType) (field : NamedType) :
    operationFlags (.setField record field) .downcall =
      if field.type.isNativeString then [overwriteFlag] else [] := by
  rw [operationFlags, flags_returned]
  show ([] ++ (flags (.setField record field) .downcall field.type (.parameter 0) ++ [])) ++ [] = _
  rw [List.nil_append, List.append_nil, List.append_nil, flags_setField]

/-- There is the flag of a returned string, that of an overwritten one, and no other. -/
theorem mem_operationFlags_iff {op : Operation} (hop : op.FromJava) {q : Parameter} :
    q ∈ operationFlags op .downcall ↔
      op.returns.IsString ∧ q = returnFlag ∨ op.OverwritesString ∧ q = overwriteFlag := by
  have hreader : op.isSetter = false → (q ∈ operationFlags op .downcall ↔
      op.returns.IsString ∧ q = returnFlag ∨ op.OverwritesString ∧ q = overwriteFlag) := by
    intro hsetter
    have hnone : ¬ (op.OverwritesString ∧ q = overwriteFlag) := fun h =>
      Operation.not_overwritesString_of_not_setter hsetter h.1
    rw [operationFlags_of_not_setter hsetter, List.mem_ite_nil_right, List.mem_singleton,
      CType.isNativeString_iff, or_iff_left hnone]
  cases hop with
  | call | get => exact hreader rfl
  | set record field =>
    have hvoid : ¬ ((Operation.setField record field).returns.IsString ∧ q = returnFlag) := fun h =>
      CType.not_isString_of_isVoid rfl h.1
    rw [operationFlags_setField, List.mem_ite_nil_right, List.mem_singleton, CType.isNativeString_iff,
      Operation.setField_overwritesString_iff, or_iff_right hvoid]

/-- There is never more than one of them, for a setter returns nothing. -/
theorem length_operationFlags_le {op : Operation} (hop : op.FromJava) :
    (operationFlags op .downcall).length ≤ 1 := by
  cases hop with
  | call | get =>
    rw [operationFlags_of_not_setter rfl]
    split
    · exact Nat.le_refl 1
    · exact Nat.zero_le 1
  | set record field =>
    rw [operationFlags_setField]
    split
    · exact Nat.le_refl 1
    · exact Nat.zero_le 1

end Linking

/-! ## Where the flags are used -/

/-- The action of a returned string names the flag that comes with it. -/
theorem Operation.returned_string {op : Operation} {ctx : Context} {d : Direction}
    {linked : LinkedOperation} (h : (op.link ctx d).outcome = .ok linked) {r : ReturnValue}
    (hr : linked.linkage.returnValue = some r) (hs : op.returns.isNativeString) :
    r.action = .nativeString (deletionName? op d .returned) := by
  obtain ⟨c, hc, haction⟩ := Operation.returned_of_link h hr
  rw [classify, classifyWith, CType.shape_of_isNativeString hs] at hc
  obtain rfl := Except.ok.inj hc
  rw [haction]
  rfl

namespace Linking

variable {ctx : Context} {linked : LinkedOperation}

/-- A setter overwrites the string in its field with the flag of the new value. -/
theorem LinkedAs.run_setField {record : CType} {field : NamedType}
    (h : LinkedAs (.setField record field) ctx .downcall linked) (hs : field.type.isNativeString) :
    linked.linkage.run = .ok ("bndjni::overwriteString(" ++ ("struct$ptr->" ++ field.name) ++ ", " ++
      "bndjni::passAsC(newValue$int)" ++ (", " ++ overwriteFlag.name ++ ")")) := by
  have harguments := h.arguments
  have hvalue : "bndjni::passAsC(" ++ Vocabulary.intermediate Vocabulary.newValue ++ ")" =
      "bndjni::passAsC(newValue$int)" := by decide
  have hpointer : Vocabulary.structPointer ++ "->" = "struct$ptr->" := by decide
  rw [Linkage.run, h.operation]
  unfold Linkage.runOperation
  rw [harguments]
  show Except.ok (Linkage.assignText (Vocabulary.structPointer ++ "->" ++ field.name)
    (Vocabulary.intermediate Vocabulary.newValue) (linked.linkage.params[1]?.bind _)) = _
  rw [h.overwrite_flag, if_pos hs, Linkage.assignText_some, hvalue, hpointer]

/-- All that is generated for a setter of a string: its two parameters and the flag of the second. -/
theorem LinkedAs.allParameters_setField {record : CType} {field : NamedType}
    (h : LinkedAs (.setField record field) ctx .downcall linked) (hs : field.type.isNativeString) :
    ∃ handle value, linked.linkage.allParameters = [handle, value, overwriteFlag] ∧
      handle.name = Vocabulary.handle ∧ value.name = Vocabulary.newValue := by
  have hcompanions := h.forall₂_companions
  have hreaches := h.reaches
  obtain ⟨l, ls, hl, hls, hparams⟩ := List.forall₂_cons_left_iff.1 hreaches
  obtain ⟨l', ls', hl', hnil, rfl⟩ := List.forall₂_cons_left_iff.1 hls
  obtain rfl := List.forall₂_nil_left_iff.1 hnil
  rw [hparams] at hcompanions
  obtain ⟨⟨-, hfirst⟩, hrest⟩ := List.forall₂_cons.1 hcompanions
  obtain ⟨⟨-, hsecond⟩, -⟩ := List.forall₂_cons.1 hrest
  have hflags : l'.companions = [overwriteFlag] := by
    rw [hsecond]
    show flags (.setField record field) .downcall field.type (.parameter 0) = _
    rw [flags_setField, if_pos hs]
  refine ⟨l.parameter, l'.parameter, ?_, hl.named, hl'.named⟩
  rw [Linkage.allParameters, h.result_companions, flags_returned, hparams]
  show (l.parameter :: l.companions) ++ ((l'.parameter :: l'.companions) ++ []) ++ [] = _
  rw [hfirst, hflags]
  rfl

end Linking

/-! ## The code around an operation -/

namespace DowncallUnit

/-- Java passes a flag along exactly where native code can release a string, and native code asks that
flag. -/
structure FlagsStrings (u : DowncallUnit) (op : Operation) : Prop where
  returned :
    (∃ p ∈ u.linkage.allParameters, p.isCompanion ∧ p.name = "returnValueDeletionBehaviour") ↔
      op.returns.IsString
  overwritten :
    (∃ p ∈ u.linkage.allParameters, p.isCompanion ∧ p.name = "overwrittenValueDeletionBehaviour") ↔
      op.OverwritesString
  only : ∀ p ∈ u.linkage.allParameters, p.isCompanion → p = returnFlag ∨ p = overwriteFlag
  once : (u.linkage.allParameters.filter Parameter.isCompanion).length ≤ 1
  count : u.linkage.allParameters.length =
    op.params.length + (u.linkage.allParameters.filter Parameter.isCompanion).length
  /-- The flag of a returned string is the last parameter, and its conversion asks for it. -/
  result : op.returns.IsString → ∃ before, u.linkage.allParameters = before ++ [returnFlag] ∧
    u.glueBody.completion = .answer (some ⟨none, "returnValue$int", .literal u.run⟩)
      (.literal ("bndjni::toJavaStringBytes(env, returnValue$int, " ++ returnFlag.name ++ ")"))
  /-- The flag of an overwritten string follows the new value, and the assignment asks for it. -/
  setter : ∀ record field, op = .setField record field → field.type.IsString →
    (∃ handle value, u.linkage.allParameters = [handle, value, overwriteFlag] ∧
      handle.name = "handle" ∧ value.name = "newValue") ∧
    u.run = "bndjni::overwriteString(" ++ ("struct$ptr->" ++ field.name) ++ ", " ++
      "bndjni::passAsC(newValue$int)" ++ (", " ++ overwriteFlag.name ++ ")")

/-- A returned string is captured, and converted with the flag that comes with it. -/
theorem Around.returned_completion {u : DowncallUnit} {op : Operation} {ctx : Context}
    {linked : LinkedOperation} {spec : DowncallSpec} (hu : u.Around linked spec)
    (hok : (op.link ctx .downcall).outcome = .ok linked)
    (h : LinkedAs op ctx .downcall linked) (hs : op.returns.isNativeString) :
    u.glueBody.completion = .answer (some ⟨none, "returnValue$int", .literal u.run⟩)
      (.literal ("bndjni::toJavaStringBytes(env, returnValue$int, " ++ returnFlag.name ++ ")")) := by
  have hcompletes := hu.glueBody.completion
  generalize u.glueBody.completion = c at hcompletes
  have haction : ∀ r, linked.linkage.returnValue = some r →
      r.action = .nativeString (some Vocabulary.returnDeletion) := fun r hr =>
    Operation.returned_string hok hr hs
  cases hcompletes with
  | nothing hr =>
    rcases h.returns with ⟨hvoid, -⟩ | ⟨-, r, hr', -⟩
    · rw [CType.isNativeString_of_isVoid hvoid] at hs
      exact nomatch hs
    · exact nomatch hr.symm.trans hr'
  | converted hr hc _ =>
    rw [haction _ hr] at hc
    exact nomatch hc
  | captured hr _ ht =>
    rw [haction _ hr, h.direction] at ht
    obtain rfl := Option.some.inj ht
    rfl

/-- The code around what Java asks for has the flags of its operation, where they belong. -/
theorem Around.flagsStrings {u : DowncallUnit} {op : Operation} {ctx : Context}
    {linked : LinkedOperation} {spec : DowncallSpec} (hu : u.Around linked spec)
    (hop : op.FromJava) (hok : (op.link ctx .downcall).outcome = .ok linked)
    (h : LinkedAs op ctx .downcall linked) : u.FlagsStrings op := by
  have hlinkage : u.linkage = linked.linkage := congrArg LinkedOperation.linkage hu.linked
  have hmem : ∀ p, p ∈ linked.linkage.allParameters ∧ p.isCompanion ↔
      op.returns.IsString ∧ p = returnFlag ∨ op.OverwritesString ∧ p = overwriteFlag := by
    intro p
    rw [← mem_operationFlags_iff hop, ← h.companions_eq, List.mem_filter]
  refine ⟨?_, ?_, ?_, ?_, ?_, ?_, ?_⟩
  · rw [hlinkage]
    constructor
    · rintro ⟨p, hp, hcompanion, hname⟩
      rcases (hmem p).1 ⟨hp, hcompanion⟩ with ⟨hs, -⟩ | ⟨-, rfl⟩
      · exact hs
      · exact absurd hname (by decide)
    · intro hs
      obtain ⟨hp, hcompanion⟩ := (hmem returnFlag).2 (Or.inl ⟨hs, rfl⟩)
      exact ⟨returnFlag, hp, hcompanion, rfl⟩
  · rw [hlinkage]
    constructor
    · rintro ⟨p, hp, hcompanion, hname⟩
      rcases (hmem p).1 ⟨hp, hcompanion⟩ with ⟨-, rfl⟩ | ⟨hs, -⟩
      · exact absurd hname (by decide)
      · exact hs
    · intro hs
      obtain ⟨hp, hcompanion⟩ := (hmem overwriteFlag).2 (Or.inr ⟨hs, rfl⟩)
      exact ⟨overwriteFlag, hp, hcompanion, rfl⟩
  · rw [hlinkage]
    exact fun p hp hcompanion => ((hmem p).1 ⟨hp, hcompanion⟩).imp And.right And.right
  · rw [hlinkage, h.companions_eq]
    exact length_operationFlags_le hop
  · rw [hlinkage, h.companions_eq]
    exact h.length_allParameters
  · intro hs
    have hnative := (CType.isNativeString_iff _).2 hs
    refine ⟨linked.linkage.params.flatMap ParameterLinkage.generated, ?_,
      hu.returned_completion hok h hnative⟩
    rw [hlinkage, Linkage.allParameters, h.result_companions, flags_returned, if_pos hnative]
  · rintro record field rfl hs
    have hnative := (CType.isNativeString_iff _).2 hs
    rw [hlinkage]
    exact ⟨h.allParameters_setField hnative,
      Except.ok.inj (hu.run.symm.trans (h.run_setField hnative))⟩

end DowncallUnit

/-- Whatever Java asks for has a flag exactly where native code can release a string; callbacks have
none. -/
theorem string_flags_of_link (ctx : Context) :
    (∀ (op : Operation) (linked : LinkedOperation), op.FromJava →
      (op.link ctx .downcall).outcome = .ok linked → ∀ spec : DowncallSpec,
        ∃ u, (DowncallUnit.link op spec ctx).outcome = .ok u ∧ u.linked = linked ∧
          u.FlagsStrings op) ∧
    ∀ (name : String) (proto : CType) (callback : JavaType) (op : Operation)
      (linked : LinkedOperation), Operation.runCallback name proto callback = .ok op →
        (op.link ctx .upcall).outcome = .ok linked →
          (∀ p ∈ linked.linkage.allParameters, p.isCompanion = false) ∧
          linked.linkage.allParameters.length = op.params.length := by
  constructor
  · intro op linked hop hok spec
    have hoffered := hop.offered_of_link hok
    have hlinked := (hoffered.link_ends ctx).of_ok hok
    obtain ⟨u, hu, haround⟩ := DowncallUnit.exists_around hoffered hok spec
    exact ⟨u, hu, haround.linked, haround.flagsStrings hop hok hlinked⟩
  · intro name proto callback op linked hop hok
    obtain ⟨returns, values, context, -, rfl⟩ := (Operation.runCallback_ends _ _ _).of_ok hop
    have hlinked := (Operation.link_ends ctx dispatch_placeable).of_ok hok
    have hnone := hlinked.companions_eq
    have hlength := hlinked.length_allParameters
    rw [operationFlags_upcall] at hnone hlength
    refine ⟨fun p hp => ?_, hlength⟩
    exact Bool.eq_false_iff.2 (List.filter_eq_nil_iff.1 hnone p hp)

/-- A name is overwritten in a struct, and a callback that takes and returns strings releases none. -/
theorem string_flags_of_link_name :
    (∃ linked u, ((Operation.setField (.ofRecord "struct Point")
          ⟨"name", .pointerTo (.ofScalar .charSigned "char")⟩).link
        { package := "geo", container := "Native" } .downcall).outcome = .ok linked ∧
      (DowncallUnit.link (.setField (.ofRecord "struct Point")
          ⟨"name", .pointerTo (.ofScalar .charSigned "char")⟩)
        (.ofName "setName" (.ofClass "geo" "Native"))
        { package := "geo", container := "Native" }).outcome = .ok u ∧ u.linked = linked ∧
      u.FlagsStrings (.setField (.ofRecord "struct Point")
        ⟨"name", .pointerTo (.ofScalar .charSigned "char")⟩)) ∧
    ∃ linked, ((Operation.dispatch "Callback_f_g" (.pointerTo (.ofScalar .charSigned "char"))
          [.pointerTo (.ofScalar .charSigned "char")] .voidPointer (.ofScalar .int)).link
        { package := "geo", container := "Native" } .upcall).outcome = .ok linked ∧
      (∀ p ∈ linked.linkage.allParameters, p.isCompanion = false) ∧
      linked.linkage.allParameters.length = 2 := by
  constructor
  · obtain ⟨u, hu, hlinked, hflags⟩ :=
      (string_flags_of_link { package := "geo", container := "Native" }).1 _ _
        (.set (.ofRecord "struct Point") ⟨"name", .pointerTo (.ofScalar .charSigned "char")⟩) rfl
        (.ofName "setName" (.ofClass "geo" "Native"))
    exact ⟨_, u, rfl, hu, hlinked, hflags⟩
  · refine ⟨_, rfl, (string_flags_of_link { package := "geo", container := "Native" }).2
      "Callback_f_g" (.function (.pointerTo (.ofScalar .charSigned "char"))
        [.pointerTo (.ofScalar .charSigned "char"), .voidPointer]) (.ofScalar .int) _ _ rfl rfl⟩

end JniBridge
