import JniBridge.Proofs.Traceless
/-
Every declaration is accounted for.

A run goes through lists of declarations and does one of two things with each of them: it generates a unit
or it reports what it skips.  `Sifted` says so of a whole list: every member has gone one way or the other,
never both ways and never neither, and both ways keep the order.

1. One pass over a list sifts it (`sifted_reports`).
2. Enums and functions are gone through once (`Stages.enums_sifted`, `Stages.functions_sifted`).
3. Fields are gone through once in every round, but of a round nothing is left over except for the structs
   that failed in it.  So the fields that are reported are those of the structs that are generated, each
   of which is sifted by itself (`Stages.structs_sifted`).

The report is made of the parts in this order: enums, structs, fields, functions (`run_accounts`).
-/

namespace JniBridge

/-! ## Lists that are gone through -/

/-- Every member of a list has gone into one of two others, either kept or reported, and both are in its
order. -/
inductive Sifted {α β γ : Type} (Kept : α → β → Prop) (Reported : α → γ → Prop) :
    List α → List β → List γ → Prop
  | nil : Sifted Kept Reported [] [] []
  | kept {x y xs ys zs} (head : Kept x y) (rest : Sifted Kept Reported xs ys zs) :
    Sifted Kept Reported (x :: xs) (y :: ys) zs
  | reported {x z xs ys zs} (head : Reported x z) (rest : Sifted Kept Reported xs ys zs) :
    Sifted Kept Reported (x :: xs) ys (z :: zs)

section sifted

variable {α β γ : Type} {Kept : α → β → Prop} {Reported : α → γ → Prop} {ys : List β} {zs : List γ}

/-- Nothing is lost, and nothing is counted twice. -/
theorem Sifted.exists_parts {xs : List α} (h : Sifted Kept Reported xs ys zs) :
    ∃ kept reported, xs.Perm (kept ++ reported) ∧ List.Forall₂ Kept kept ys ∧
      List.Forall₂ Reported reported zs := by
  induction h with
  | nil => exact ⟨[], [], .nil, .nil, .nil⟩
  | @kept x y xs ys zs head _ ih =>
    obtain ⟨kept, reported, hperm, hkept, hreported⟩ := ih
    exact ⟨x :: kept, reported, hperm.cons x, .cons head hkept, hreported⟩
  | @reported x z xs ys zs head _ ih =>
    obtain ⟨kept, reported, hperm, hkept, hreported⟩ := ih
    have hmiddle : (x :: xs).Perm (kept ++ x :: reported) :=
      (hperm.cons x).trans List.perm_middle.symm
    exact ⟨kept, x :: reported, hmiddle, hkept, .cons head hreported⟩

/-- If it can be told which way a member goes, those that are kept are known. -/
theorem Sifted.forall₂_filter {xs : List α} (h : Sifted Kept Reported xs ys zs) {p : α → Bool}
    (hkept : ∀ x y, Kept x y → p x = true) (hreported : ∀ x z, Reported x z → p x = false) :
    List.Forall₂ Kept (xs.filter p) ys := by
  induction h with
  | nil => exact .nil
  | @kept x y xs ys zs head _ ih =>
    rw [List.filter_cons_of_pos (hkept x y head)]
    exact .cons head ih
  | @reported x z xs ys zs head _ ih =>
    rw [List.filter_cons_of_neg (Bool.eq_false_iff.1 (hreported x z head))]
    exact ih

/-- Members that are sifted by what they hold sift what they hold. -/
theorem Sifted.map {δ : Type} {f : δ → α} {xs : List δ}
    (h : Sifted (fun x => Kept (f x)) (fun x => Reported (f x)) xs ys zs) :
    Sifted Kept Reported (xs.map f) ys zs := by
  induction h with
  | nil => exact .nil
  | kept head _ ih => exact .kept head ih
  | reported head _ ih => exact .reported head ih

end sifted

/-- The entry reports something under its name, for the failure that it ends with. -/
structure Skipped.Reports {α : Type} (s : Skipped) (kind : DeclKind) (name : String)
    (outcome : Except LinkError α) : Prop where
  kind : s.kind = kind
  name : s.name = name
  reason : outcome = .error s.reason

/-- One pass, in which failures are reported, sifts a list. -/
theorem sifted_reports {α β γ : Type} {outcome : α → Except LinkError β} {Kept : α → β → Prop}
    {decided : α → Except LinkError γ} (kind : DeclKind) (name : α → String)
    (h : ∀ x, Ends (outcome x) (Kept x) fun e => decided x = .error e) (xs : List α) :
    Sifted Kept (fun x s => s.Reports kind (name x) (decided x)) xs
      (successes (xs.map fun x => (outcome x).mapError (Skipped.mk kind (name x))))
      (failures (xs.map fun x => (outcome x).mapError (Skipped.mk kind (name x)))) := by
  induction xs with
  | nil => exact .nil
  | cons x xs ih =>
    have hx := h x
    rw [List.map_cons]
    cases hout : outcome x with
    | ok y =>
      rw [hout] at hx
      exact .kept hx ih
    | error e =>
      rw [hout] at hx
      exact .reported ⟨rfl, rfl, hx⟩ ih

/-! ## What a unit is made for -/

/-- Around whatever Java asks for, the unit holds what linking gives, and fails as linking does. -/
theorem DowncallUnit.link_linked {op : Operation} (hop : op.Offered) (spec : DowncallSpec)
    (c : Context) :
    Ends (link op spec c).outcome (fun u => (op.link c .downcall).outcome = .ok u.linked)
      fun e => (op.link c .downcall).outcome = .error e := by
  have hends := link_ends hop spec c
  exact hends.imp (fun u hu _ => linked_of_link hu) fun e _ he => he.2

/-- The unit is the one of the enum. -/
structure EnumDecl.Kept (d : EnumDecl) (unit : EnumUnit) : Prop where
  name : unit.nativeName = d.name
  made : EnumUnit.ofDecl d = .ok unit

/-- The unit is the one of the function. -/
structure FunctionDecl.Kept (c : Context) (d : FunctionDecl) (f : FunctionUnit) : Prop where
  name : f.nativeName = d.name
  made : ((Operation.callNative d).link c .downcall).outcome = .ok f.method.linked

/-- Linking both accessors of a field; the setter is not tried without a getter. -/
def NamedType.linkBoth (record : CType) (c : Context) (f : NamedType) :
    Except LinkError (LinkedOperation × LinkedOperation) :=
  ((Operation.getField record f).link c .downcall).outcome.bind fun getter =>
    ((Operation.setField record f).link c .downcall).outcome.map fun setter => (getter, setter)

/-- The accessors are the ones of the field. -/
structure NamedType.Kept (record : CType) (c : Context) (f : NamedType) (a : FieldAccessors) :
    Prop where
  name : a.field = f.name
  made : f.linkBoth record c = .ok (a.getter.linked, a.setter.linked)

/-- A struct is generated, each of its fields with accessors or with a report. -/
structure StructDecl.Kept (c : Context) (d : StructDecl) (result : StructUnit × List Skipped) :
    Prop where
  name : result.1.nativeName = d.name
  fields : Sifted (NamedType.Kept d.recordType c)
    (fun f s => s.Reports .field (d.name ++ "." ++ f.name) (f.linkBoth d.recordType c))
    d.fields result.1.accessors result.2

/-- A function is linked, or fails as its operation does. -/
theorem FunctionUnit.link_kept (d : FunctionDecl) (name : String) (exposeRaw : Bool) (c : Context) :
    Ends (link d name exposeRaw c).outcome (FunctionDecl.Kept c d)
      fun e => ((Operation.callNative d).link c .downcall).outcome = .error e := by
  refine (DowncallUnit.link_linked (.call d) _ c).logged fun u _ hu => ?_
  exact ⟨rfl, hu⟩

/-- A field is linked, or fails as one of its operations does. -/
theorem StructUnit.linkAccessors_kept (c : Context) {record : CType}
    (hrecord : record.recordName?.isSome) (javaType : JavaType) (n : NamedField) :
    Ends (linkAccessors c record javaType n).outcome (NamedType.Kept record c n.field)
      fun e => n.field.linkBoth record c = .error e := by
  have hgetter := DowncallUnit.link_linked (.get hrecord n.field) (accessorSpec javaType n.getter) c
  have hsetter := DowncallUnit.link_linked (.set hrecord n.field) (accessorSpec javaType n.setter) c
  refine (hgetter.failing fun e _ he => ?_).logged fun getter _ hgot => ?_
  · rw [NamedType.linkBoth, he]
    rfl
  · refine (hsetter.failing fun e _ he => ?_).logged fun setter _ hput => ?_
    · rw [NamedType.linkBoth, hgot, he]
      rfl
    · refine ⟨rfl, ?_⟩
      rw [NamedType.linkBoth, hgot, hput]
      rfl

/-- The fields of a struct are sifted. -/
theorem StructUnit.kept_of_link {c : Context} {d : StructDecl} {result : StructUnit × List Skipped}
    (h : (link d c).outcome = .ok result) : d.Kept c result := by
  obtain ⟨w, hw⟩ := exists_wrapper_of_link h
  obtain ⟨haccessors, hfields⟩ := parts_of_link hw h
  refine ⟨(Generation.named_of_link hw h).1, ?_⟩
  have hrecord : d.recordType.recordName?.isSome := rfl
  have hnamed := sifted_reports .field (fun n : NamedField => d.name ++ "." ++ n.field.name)
    (linkAccessors_kept c hrecord w.javaType) (nameFields [] d.fields)
  rw [haccessors, hfields]
  -- all fields have been named
  have hmembers : (nameFields [] d.fields).map NamedField.field = d.fields :=
    map_field_nameFields [] d.fields
  have hsifted : Sifted (NamedType.Kept d.recordType c)
      (fun f (s : Skipped) => s.Reports .field (d.name ++ "." ++ f.name) (f.linkBoth d.recordType c))
      ((nameFields [] d.fields).map NamedField.field) _ _ := hnamed.map
  rw [hmembers] at hsifted
  exact hsifted

namespace Generation

/-! ## The passes of a run -/

/-- An enum is linked, or reported with the constant that fails it. -/
theorem linkEnum_outcome (d : EnumDecl) :
    (linkEnum d).outcome = .ok ((EnumUnit.ofDecl d).mapError (Skipped.mk .enumeration d.name)) := by
  have hends := EnumUnit.ofDecl_ends d
  unfold linkEnum
  rw [Logged.outcome_bind, Logged.outcome_attempt, Logged.outcome_ofExcept]
  cases h : EnumUnit.ofDecl d with
  | ok unit => rfl
  | error e =>
    have hfatal : e.isFatal = false := (hends.of_error h).1
    simp only [hfatal, Bool.false_eq_true, if_false]
    rfl

variable {decls : Declarations} {ctx : Context} {linked : List (Except Skipped EnumUnit)}
  {settled : Settled} {called : List (Except Skipped FunctionUnit)} {g : Generation}
  {final : Context}

/-- The enums of a run are sifted. -/
theorem Stages.enums_sifted (h : Stages decls ctx linked settled called g final) :
    Sifted EnumDecl.Kept (fun d s => s.Reports .enumeration d.name (EnumUnit.ofDecl d)) decls.enums
      g.enums (failures linked) := by
  have hlinked := StructUnit.mapM_outcome fun d (_ : d ∈ decls.enums) => linkEnum_outcome d
  have hkept : ∀ d, Ends (EnumUnit.ofDecl d) d.Kept fun e => EnumUnit.ofDecl d = .error e := by
    intro d
    cases hof : EnumUnit.ofDecl d with
    | ok unit => exact ⟨(named_of_ofDecl hof).1, hof⟩
    | error e => rfl
  obtain rfl := Except.ok.inj (h.enums.symm.trans hlinked)
  rw [h.generated]
  exact sifted_reports .enumeration EnumDecl.name hkept decls.enums

/-- The functions of a run that no rule excludes are sifted. -/
theorem Stages.functions_sifted (h : Stages decls ctx linked settled called g final) :
    Sifted (FunctionDecl.Kept final)
      (fun d s => s.Reports .function d.name ((Operation.callNative d).link final .downcall).outcome)
      (wanted ctx decls.functions) g.functions (failures called) := by
  have hnamed := sifted_reports .function (fun named : FunctionDecl × String => named.1.name)
    (fun named => FunctionUnit.link_kept named.1 named.2
      (settled.ctx.rules.methodRule named.1.name).asks settled.ctx)
    (namedFunctions ctx decls.functions)
  have hmembers : (namedFunctions ctx decls.functions).map Prod.fst = wanted ctx decls.functions :=
    Naming.map_fst_numberRow _ _ _
  have hsame : ∀ d, (Operation.callNative d).link final .downcall =
      (Operation.callNative d).link settled.ctx .downcall := fun d =>
    Operation.link_congr h.final_agrees _ _
  have hkept : FunctionDecl.Kept final = FunctionDecl.Kept settled.ctx := by
    funext d f
    exact propext ⟨fun hf => ⟨hf.name, hsame d ▸ hf.made⟩, fun hf => ⟨hf.name, hsame d ▸ hf.made⟩⟩
  have hfunctions : g.functions = successes called := by rw [h.generated]
  rw [hfunctions, h.called_eq, ← hmembers, hkept]
  simp only [hsame]
  exact hnamed.map

/-- The structs that a run generates have their fields sifted, and the fields that are reported are
theirs. -/
theorem Stages.structs_sifted (h : Stages decls ctx linked settled called g final) :
    ∃ results : List (StructUnit × List Skipped),
      List.Forall₂ (StructDecl.Kept final)
        (decls.structs.filter fun d => d.name ∈ g.generatedStructs) results ∧
      g.structs = results.map Prod.fst ∧ settled.fields = results.flatMap Prod.snd := by
  obtain ⟨results, hlinked, hunits, hfields⟩ := h.structs_results
  refine ⟨results, hlinked.imp fun d result hlink => ?_, hunits, hfields⟩
  rw [← StructUnit.link_congr h.final_agrees] at hlink
  exact StructUnit.kept_of_link hlink

/-! ## The run -/

/-- What a run has generated and reported accounts for all that is declared, apart from the structs that
are not generated. -/
structure Accounts (decls : Declarations) (ctx : Context) (g : Generation) (final : Context)
    (enumReports structReports functionReports : List Skipped)
    (results : List (StructUnit × List Skipped)) : Prop where
  enums : Sifted EnumDecl.Kept (fun d s => s.Reports .enumeration d.name (EnumUnit.ofDecl d))
    decls.enums g.enums enumReports
  functions : Sifted (FunctionDecl.Kept final)
    (fun d s => s.Reports .function d.name ((Operation.callNative d).link final .downcall).outcome)
    (wanted ctx decls.functions) g.functions functionReports
  /-- Each generated struct comes with the reports of its fields. -/
  structs : List.Forall₂ (StructDecl.Kept final)
    (decls.structs.filter fun d => d.name ∈ g.generatedStructs) results
  units : g.structs = results.map Prod.fst
  records : ∀ s ∈ structReports, s.kind = .record
  /-- There are no other reports, in particular none of fields of other structs. -/
  skipped : g.skipped =
    enumReports ++ structReports ++ results.flatMap Prod.snd ++ functionReports

/-- Every run ends, and accounts for each enum, for each function that no rule excludes and for each field
of a generated struct by one entry, in order. -/
theorem run_accounts (decls : Declarations) (ctx : Context) :
    ∃ g final, (run decls ctx).outcome = .ok (g, final) ∧
      ∃ enumReports structReports functionReports results,
        Accounts decls ctx g final enumReports structReports functionReports results := by
  obtain ⟨g, final, hrun⟩ := exists_run decls ctx
  obtain ⟨linked, settled, called, hstages⟩ := stages_of_run hrun
  obtain ⟨results, hkept, hunits, hfields⟩ := hstages.structs_sifted
  obtain ⟨-, hrecords, -, -⟩ := hstages.kinds
  refine ⟨g, final, hrun, failures linked, settled.failed, failures called, results, ?_⟩
  constructor
  · exact hstages.enums_sifted
  · exact hstages.functions_sifted
  · exact hkept
  · exact hunits
  · exact hrecords
  · rw [hstages.generated, hfields]

end Generation

end JniBridge
