import JniBridge.Proofs.Numbering
import JniBridge.Proofs.Closure
/-
Which method gets which name.

There are two rows of names (`Naming.numberRow`).  The context keeps the requests for all classes in one
list, and each class has its own row in it (`Context.requestAll_of_scope`).  The functions that no rule
excludes ask for their names in order, whether they link or not, so a run over functions is a map over
their row (`linkFunctions_outcome`).  A struct has a row of its own, in which every field asks twice
(`StructUnit.accessorRow`).

Whether a function links, or a field has its accessors, depends neither on the name it is given nor on the
context (`FunctionDecl.links_congr`, `StructDecl.accessible_congr`).
-/

namespace JniBridge

open Naming

/-! ## Sessions of requests -/

namespace Context

/-- The bases that were asked for in a class, the last one first. -/
def asked (ctx : Context) (scope : String) : List String :=
  (ctx.requested.filter fun r => r.1 = scope).map Prod.snd

/-- Asking for names one after the other, each in a class. -/
def requestAll (ctx : Context) : List (String × String) → List (String × String)
  | [] => []
  | r :: rs =>
    (r.1, (ctx.requestName r.1 r.2).1) :: requestAll (ctx.requestName r.1 r.2).2 rs

theorem count_requested (ctx : Context) (scope base : String) :
    ctx.requested.count (scope, base) = (ctx.asked scope).count base := by
  unfold asked
  induction ctx.requested with
  | nil => rfl
  | cons r rs ih =>
    obtain ⟨scope', base'⟩ := r
    by_cases hscope : scope' = scope
    · subst hscope
      rw [List.filter_cons_of_pos (by simp), List.map_cons, List.count_cons, List.count_cons, ih]
      simp
    · rw [List.filter_cons_of_neg (by simp [hscope]), ← ih, List.count_cons_of_ne]
      exact fun h => hscope (Prod.mk.inj h).1

theorem asked_requestName (ctx : Context) (scope base : String) :
    (ctx.requestName scope base).2.asked scope = base :: ctx.asked scope := by
  unfold asked requestName
  rw [List.filter_cons_of_pos (by simp)]
  rfl

theorem asked_requestName_of_ne (ctx : Context) {scope other : String} (base : String)
    (h : other ≠ scope) : (ctx.requestName other base).2.asked scope = ctx.asked scope := by
  unfold asked requestName
  rw [List.filter_cons_of_neg (by simp [h])]

/-- In a session every class has its own row. -/
theorem requestAll_of_scope (ctx : Context) (rs : List (String × String)) (scope : String) :
    ((ctx.requestAll rs).filter fun r => r.1 = scope).map Prod.snd =
      (numberRow Prod.snd (ctx.asked scope) (rs.filter fun r => r.1 = scope)).map Prod.snd := by
  induction rs generalizing ctx with
  | nil => rfl
  | cons r rs ih =>
    rw [requestAll]
    by_cases hscope : r.1 = scope
    · subst hscope
      rw [List.filter_cons_of_pos (by simp), List.filter_cons_of_pos (by simp), List.map_cons, ih,
        asked_requestName, numberRow, List.map_cons, ← count_requested]
      rfl
    · rw [List.filter_cons_of_neg (by simp [hscope]), List.filter_cons_of_neg (by simp [hscope]), ih,
        asked_requestName_of_ne ctx r.2 hscope]

end Context

/-! ## One unit under a name -/

/-- The methods around the operation are called by the name, in the class. -/
structure DowncallUnit.Called (u : DowncallUnit) (owner : JavaType) (name : String) : Prop where
  java : u.javaMethod.name = name
  raw : u.rawMethod.name = name ++ "Raw"
  symbol : u.glueMethod.name = Symbol.glueName owner (name ++ "Raw")

theorem isOk_iff {α ε : Type} {x : Except ε α} : x.isOk = true ↔ ∃ a, x = .ok a := by
  cases x with
  | ok a => exact iff_of_true rfl ⟨a, rfl⟩
  | error e => exact iff_of_false Bool.false_ne_true fun ⟨_, h⟩ => nomatch h

namespace Operation

/-- Java can ask for the operation. -/
def links (op : Operation) (ctx : Context) : Bool := (op.link ctx .downcall).outcome.isOk

/-- What has an answer under one context has one under every other. -/
theorem links_congr {op : Operation} (hop : op.Offered) (ctx ctx' : Context) :
    op.links ctx = op.links ctx' := by
  rw [Bool.eq_iff_iff, links, links, isOk_iff, isOk_iff]
  exact (Operation.link_isOk_iff ctx hop.placeable).trans
    (Operation.link_isOk_iff ctx' hop.placeable).symm

end Operation

namespace DowncallUnit

/-- The unit of a downcall is called as it is specified, and fails only with its operation. -/
theorem link_called {op : Operation} (hop : op.Offered) (spec : DowncallSpec) (ctx : Context)
    (hraw : spec.rawName = spec.javaName ++ "Raw") :
    Ends (link op spec ctx).outcome
      (fun u => op.links ctx = true ∧ u.Called spec.owner spec.javaName)
      fun e => e.isRefusal ∧ op.links ctx = false := by
  have hrefused : ∀ e, (op.link ctx .downcall).outcome = .error e → op.links ctx = false := by
    intro e he
    rw [Operation.links, he]
    rfl
  refine ((hop.link_ends ctx).failing fun e he h => ⟨h.1, hrefused e he⟩).logged
    fun linked hlink hlinked => ?_
  obtain ⟨run, hrun, -⟩ := hlinked.run_ok hop
  obtain ⟨u, hu, haround⟩ := ofLinked_ok hlinked.sound hrun spec
  show Ends (ofLinked linked spec) _ _
  rw [hu]
  refine ⟨isOk_iff.2 ⟨linked, hlink⟩, ?_, ?_, ?_⟩
  · rw [haround.javaMethod]
    rfl
  · rw [haround.rawMethod, ← hraw]
    rfl
  · rw [haround.glueMethod, ← hraw]
    rfl

end DowncallUnit

/-! ## Results in a row -/

section results

variable {α β ε : Type} {f : α → Except ε β} {p : α → Bool}

/-- The answers are those of whoever has one. -/
theorem successes_map (hok : ∀ x, p x = true → ∃ b, f x = .ok b)
    (herror : ∀ x, p x = false → ∃ e, f x = .error e) (xs : List α) :
    List.Forall₂ (fun x b => f x = .ok b) (xs.filter p) (successes (xs.map f)) := by
  induction xs with
  | nil => exact .nil
  | cons x xs ih =>
    cases hx : p x with
    | true =>
      obtain ⟨b, hb⟩ := hok x hx
      rw [List.filter_cons_of_pos hx, List.map_cons, hb]
      exact .cons hb ih
    | false =>
      obtain ⟨e, he⟩ := herror x hx
      rw [List.filter_cons_of_neg (by rw [hx]; exact Bool.false_ne_true), List.map_cons, he]
      exact ih

/-- The failures are those of the others. -/
theorem failures_map (hok : ∀ x, p x = true → ∃ b, f x = .ok b)
    (herror : ∀ x, p x = false → ∃ e, f x = .error e) (xs : List α) :
    List.Forall₂ (fun x e => f x = .error e) (xs.filter fun x => !p x) (failures (xs.map f)) := by
  induction xs with
  | nil => exact .nil
  | cons x xs ih =>
    cases hx : p x with
    | true =>
      obtain ⟨b, hb⟩ := hok x hx
      rw [List.filter_cons_of_neg (by simp [hx]), List.map_cons, hb]
      exact ih
    | false =>
      obtain ⟨e, he⟩ := herror x hx
      rw [List.filter_cons_of_pos (by simp [hx]), List.map_cons, he]
      exact .cons he ih

variable {x : Except LinkError β} {Q : β → Prop} {E : LinkError → Prop} {report : LinkError → ε}

/-- Reporting failures does not change answers. -/
theorem of_mapError_eq_ok {b : β} (h : Ends x Q E) (hb : x.mapError report = .ok b) : Q b := by
  cases x with
  | ok b' => exact Except.ok.inj hb ▸ h
  | error e => exact nomatch hb

theorem exists_of_mapError_eq_error {s : ε} (h : x.mapError report = .error s) :
    ∃ e, s = report e := by
  cases x with
  | ok b => exact nomatch h
  | error e => exact ⟨e, (Except.error.inj h).symm⟩

/-- What is decided beforehand comes out as decided. -/
theorem mapError_of_decided {decided : Bool} (report : LinkError → ε)
    (h : Ends x (fun b => decided = true ∧ Q b) fun e => E e ∧ decided = false) :
    (decided = true → ∃ b, x.mapError report = .ok b) ∧
      (decided = false → ∃ s, x.mapError report = .error s) := by
  cases x with
  | ok b =>
    refine ⟨fun _ => ⟨b, rfl⟩, fun hno => ?_⟩
    rw [h.1] at hno
    exact nomatch hno
  | error e =>
    refine ⟨fun hyes => ?_, fun _ => ⟨_, rfl⟩⟩
    rw [h.2] at hyes
    exact nomatch hyes

end results

/-! ## The functions of a run -/

namespace Generation

variable (ctx : Context)

/-- The functions that no rule excludes. -/
def wanted (ds : List FunctionDecl) : List FunctionDecl :=
  ds.filter fun d => (ctx.rules.methodRule d.name).generates

/-- The name that is asked for a function. -/
def methodBase (d : FunctionDecl) : String :=
  (ctx.rules.methodRule d.name).nameOverride.getD (Naming.escape d.name)

/-- The names that functions are given. -/
def namedFunctions (ds : List FunctionDecl) : List (FunctionDecl × String) :=
  numberRow (methodBase ctx) (ctx.asked ctx.containerType.plain) (wanted ctx ds)

/-- How linking a function under a name ends. -/
def linkNamed (named : FunctionDecl × String) : Except Skipped FunctionUnit :=
  (FunctionUnit.link named.1 named.2 (ctx.rules.methodRule named.1.name).asks ctx).outcome.mapError
    fun e => ⟨.function, named.1.name, e⟩

variable {ctx}

/-- A function links under whatever name it is given, or under none. -/
theorem function_link_called (ctx : Context) (d : FunctionDecl) (name : String)
    (exposeRaw : Bool) :
    Ends (FunctionUnit.link d name exposeRaw ctx).outcome
      (fun f => (Operation.callNative d).links ctx = true ∧ f.nativeName = d.name ∧
        f.method.Called ctx.containerType name)
      fun e => e.isRefusal ∧ (Operation.callNative d).links ctx = false := by
  have hunit := DowncallUnit.link_called (.call d)
    { DowncallSpec.ofName name ctx.containerType with exposeRaw } ctx rfl
  exact hunit.logged fun u _ hu => ⟨hu.1, rfl, hu.2⟩

theorem linkFunction_outcome (d : FunctionDecl) (name : String) :
    (linkFunction ctx d name (ctx.rules.methodRule d.name).asks).outcome =
      .ok (linkNamed ctx (d, name)) := by
  have hends := function_link_called ctx d name (ctx.rules.methodRule d.name).asks
  unfold linkFunction linkNamed
  rw [Logged.outcome_bind, Logged.outcome_attempt]
  cases h : (FunctionUnit.link d name (ctx.rules.methodRule d.name).asks ctx).outcome with
  | ok f => rfl
  | error e =>
    -- a refusal is not fatal, so it is reported
    have hfatal := LinkError.isFatal_of_isRefusal (hends.of_error h).1
    simp only [hfatal, Bool.false_eq_true, if_false]
    rfl

/-- Linking a function under a name looks at the rules, and at what linking looks at. -/
theorem linkNamed_congr {c c' : Context} (hagrees : c.Agrees c') (hrules : c.rules = c'.rules) :
    linkNamed c = linkNamed c' := by
  funext named
  rw [linkNamed, linkNamed, FunctionUnit.link_congr hagrees, hrules]

/-- A function that is wanted takes the next name. -/
theorem namedFunctions_cons {d : FunctionDecl} (ds : List FunctionDecl)
    (hgenerates : (ctx.rules.methodRule d.name).generates) :
    namedFunctions ctx (d :: ds) =
      (d, (ctx.requestName ctx.containerType.plain (methodBase ctx d)).1) ::
        namedFunctions (ctx.requestName ctx.containerType.plain (methodBase ctx d)).2 ds := by
  have hwanted : wanted ctx (d :: ds) = d :: wanted ctx ds := List.filter_cons_of_pos hgenerates
  unfold namedFunctions
  rw [hwanted, numberRow, ← Context.count_requested, ← Context.asked_requestName]
  rfl

/-- One that is not wanted takes none. -/
theorem namedFunctions_cons_of_not {d : FunctionDecl} (ds : List FunctionDecl)
    (hgenerates : ¬ (ctx.rules.methodRule d.name).generates) :
    namedFunctions ctx (d :: ds) = namedFunctions ctx ds := by
  have hwanted : wanted ctx (d :: ds) = wanted ctx ds := List.filter_cons_of_neg hgenerates
  rw [namedFunctions, namedFunctions, hwanted]

/-- Linking functions in order is a map over the names they are given. -/
theorem linkFunctions_outcome (ctx : Context) (ds : List FunctionDecl) :
    ∃ requested, (linkFunctions ctx ds).outcome =
      .ok ((namedFunctions ctx ds).map (linkNamed ctx), { ctx with requested }) := by
  induction ds generalizing ctx with
  | nil => exact ⟨ctx.requested, rfl⟩
  | cons d ds ih =>
    rw [linkFunctions]
    by_cases hgenerates : (ctx.rules.methodRule d.name).generates
    · let next := (ctx.requestName ctx.containerType.plain (methodBase ctx d)).2
      have hsame : linkNamed next = linkNamed ctx :=
        linkNamed_congr (ctx.agrees_requested next.requested) rfl
      obtain ⟨requested, hrest⟩ := ih next
      refine ⟨requested, ?_⟩
      rw [namedFunctions_cons ds hgenerates, List.map_cons, ← hsame, if_pos hgenerates,
        Logged.outcome_bind]
      show Except.bind (linkFunction next d _ (next.rules.methodRule d.name).asks).outcome _ = _
      rw [linkFunction_outcome]
      show (linkFunctions next ds >>= _ : Logged _).outcome = _
      rw [Logged.outcome_bind, hrest]
      rfl
    · rw [namedFunctions_cons_of_not ds hgenerates, if_neg hgenerates]
      exact ih ctx

/-- The unit of a function is called as the function is named. -/
theorem called_of_linkNamed {named : FunctionDecl × String} {f : FunctionUnit}
    (h : linkNamed ctx named = .ok f) :
    f.nativeName = named.1.name ∧ f.method.Called ctx.containerType named.2 :=
  (of_mapError_eq_ok (function_link_called ctx named.1 named.2 _) h).2

/-- The functions that link have their units, whatever they are called. -/
theorem linkNamed_ok {named : FunctionDecl × String}
    (h : (Operation.callNative named.1).links ctx = true) : ∃ f, linkNamed ctx named = .ok f :=
  (mapError_of_decided _ (function_link_called ctx named.1 named.2 _)).1 h

/-- The others are reported. -/
theorem linkNamed_error {named : FunctionDecl × String}
    (h : (Operation.callNative named.1).links ctx = false) : ∃ s, linkNamed ctx named = .error s :=
  (mapError_of_decided _ (function_link_called ctx named.1 named.2 _)).2 h

/-- They are reported by their own names. -/
theorem reported_of_linkNamed {named : FunctionDecl × String} {s : Skipped}
    (h : linkNamed ctx named = .error s) : s.kind = .function ∧ s.name = named.1.name := by
  obtain ⟨e, rfl⟩ := exists_of_mapError_eq_error h
  exact ⟨rfl, rfl⟩

/-! ## The context behind the structs -/

/-- While structs are linked only the registry changes. -/
theorem Rounds.ctx_eq {n : Nat} {c : Context} {ds : List StructDecl} {settled : Settled}
    (h : Rounds n c ds settled) : ∃ structs, settled.ctx = { c with structs } := by
  induction h with
  | @last c ds results _ _ => exact ⟨c.structs, rfl⟩
  | @again n c ds results settled _ _ _ ih =>
    obtain ⟨structs, hwithdraw⟩ : ∃ structs, withdraw c (failures results) = { c with structs } :=
      Context.foldl_structs c (failures results) fun _ _ => ⟨_, rfl⟩
    obtain ⟨structs', hctx⟩ := ih
    exact ⟨structs', by rw [hctx, hwithdraw]⟩

variable {decls : Declarations} {linked : List (Except Skipped EnumUnit)} {settled : Settled}
  {called : List (Except Skipped FunctionUnit)} {g : Generation} {final : Context}

/-- So functions are linked with the rules, and after the requests, that the run starts with. -/
theorem Stages.ctx_eq (h : Stages decls ctx linked settled called g final) :
    ∃ enums structs, settled.ctx = { ctx with enums, structs } := by
  obtain ⟨n, hrounds, -⟩ := rounds_of_settle h.structs
  obtain ⟨structs, hsettled⟩ := hrounds.ctx_eq
  obtain ⟨structs', hregistered⟩ :=
    registerStructs_eq (registerEnums ctx (successes linked)) (candidates ctx decls.structs)
  exact ⟨_, structs, by rw [hsettled, hregistered, registerEnums_eq]⟩

/-- The functions of a run are named by the declarations and the rules alone. -/
theorem Stages.called_eq (h : Stages decls ctx linked settled called g final) :
    called = (namedFunctions ctx decls.functions).map (linkNamed settled.ctx) := by
  obtain ⟨requested, hcalled⟩ := linkFunctions_outcome settled.ctx decls.functions
  obtain ⟨enums, structs, hctx⟩ := h.ctx_eq
  have hnamed : namedFunctions settled.ctx decls.functions = namedFunctions ctx decls.functions := by
    rw [hctx]
    rfl
  obtain ⟨rfl, -⟩ := Prod.mk.inj (Except.ok.inj (h.functions.symm.trans hcalled))
  rw [hnamed]

/-- The functions that link, with the names they are given. -/
def linkedNames (ctx : Context) (ds : List FunctionDecl) : List (FunctionDecl × String) :=
  (namedFunctions ctx ds).filter fun named => (Operation.callNative named.1).links ctx

/-- The functions that a run generates are those in the row that link, under their names. -/
theorem Stages.functions_named (h : Stages decls ctx linked settled called g final) :
    List.Forall₂ (fun named f => linkNamed settled.ctx named = .ok f)
      (linkedNames ctx decls.functions) g.functions := by
  have hfunctions : g.functions = successes called := by rw [h.generated]
  rw [hfunctions, h.called_eq]
  refine successes_map (fun named hlinks => ?_) (fun named hlinks => ?_) _
  · rw [Operation.links_congr (.call named.1) ctx settled.ctx] at hlinks
    exact linkNamed_ok hlinks
  · rw [Operation.links_congr (.call named.1) ctx settled.ctx] at hlinks
    exact linkNamed_error hlinks

end Generation

/-! ## The accessors of a struct -/

/-- Both accessors of the field can be had. -/
def NamedType.accessible (record : CType) (ctx : Context) (f : NamedType) : Bool :=
  (Operation.getField record f).links ctx && (Operation.setField record f).links ctx

theorem NamedType.accessible_congr {record : CType} (hrecord : record.recordName?.isSome)
    (ctx ctx' : Context) : NamedType.accessible record ctx = NamedType.accessible record ctx' := by
  funext f
  rw [accessible, accessible, Operation.links_congr (.get hrecord f) ctx ctx',
    Operation.links_congr (.set hrecord f) ctx ctx']

namespace StructUnit

/-- The names that are asked for the accessors of a field. -/
def accessorBases (f : NamedType) : List (NamedType × String) :=
  [(f, getterBase f), (f, Naming.setter f.name)]

/-- The names that are given to the accessors of the fields. -/
def accessorRow (asked : List String) (fields : List NamedType) :
    List ((NamedType × String) × String) :=
  numberRow Prod.snd asked (fields.flatMap accessorBases)

/-- The two entries of a field in the row. -/
def NamedField.entries (n : NamedField) : List ((NamedType × String) × String) :=
  [((n.field, getterBase n.field), n.getter), ((n.field, Naming.setter n.field.name), n.setter)]

/-- Naming the accessors field by field gives the row. -/
theorem flatMap_entries (asked : List String) (fields : List NamedType) :
    (nameFields asked fields).flatMap NamedField.entries = accessorRow asked fields := by
  induction fields generalizing asked with
  | nil => rfl
  | cons f fields ih =>
    rw [nameFields, List.flatMap_cons, ih]
    rfl

/-- Every field is named. -/
theorem map_field_nameFields (asked : List String) (fields : List NamedType) :
    (nameFields asked fields).map NamedField.field = fields := by
  induction fields generalizing asked with
  | nil => rfl
  | cons f fields ih => rw [nameFields, List.map_cons, ih]

variable {ctx : Context} {decl : StructDecl} {javaType : JavaType}

/-- How linking a field under names ends. -/
def linkNamed (ctx : Context) (decl : StructDecl) (javaType : JavaType) (f : NamedField) :
    Except Skipped FieldAccessors :=
  (linkAccessors ctx decl.recordType javaType f).outcome.mapError fun e =>
    ⟨.field, decl.name ++ "." ++ f.field.name, e⟩

/-- The accessors are called by the names of the field. -/
structure NamedField.Carried (n : NamedField) (javaType : JavaType) (a : FieldAccessors) : Prop where
  field : a.field = n.field.name
  getter : a.getter.Called javaType n.getter
  setter : a.setter.Called javaType n.setter

/-- A field is linked under whatever names it is given, or under none. -/
theorem linkAccessors_called (ctx : Context) {record : CType}
    (hrecord : record.recordName?.isSome) (javaType : JavaType) (n : NamedField) :
    Ends (linkAccessors ctx record javaType n).outcome
      (fun a => n.field.accessible record ctx = true ∧ n.Carried javaType a)
      fun e => e.isRefusal ∧ n.field.accessible record ctx = false := by
  have hgetter := DowncallUnit.link_called (.get hrecord n.field)
    (accessorSpec javaType n.getter) ctx rfl
  have hsetter := DowncallUnit.link_called (.set hrecord n.field)
    (accessorSpec javaType n.setter) ctx rfl
  have hget : ∀ e : LinkError,
      e.isRefusal ∧ (Operation.getField record n.field).links ctx = false →
        e.isRefusal ∧ n.field.accessible record ctx = false := by
    intro e he
    rw [NamedType.accessible, he.2]
    exact ⟨he.1, rfl⟩
  have hset : ∀ e : LinkError,
      e.isRefusal ∧ (Operation.setField record n.field).links ctx = false →
        e.isRefusal ∧ n.field.accessible record ctx = false := by
    intro e he
    rw [NamedType.accessible, he.2, Bool.and_false]
    exact ⟨he.1, rfl⟩
  refine (hgetter.failing fun e _ => hget e).logged fun getter _ hgot => ?_
  refine (hsetter.failing fun e _ => hset e).logged fun setter _ hput => ?_
  refine ⟨?_, rfl, hgot.2, hput.2⟩
  rw [NamedType.accessible, hgot.1, hput.1]
  rfl

theorem linkField_outcome (n : NamedField) :
    (linkField ctx decl javaType n).outcome = .ok (linkNamed ctx decl javaType n) := by
  have hrecord : decl.recordType.recordName?.isSome := rfl
  have hends := linkAccessors_called ctx hrecord javaType n
  unfold linkField linkNamed
  rw [Logged.outcome_bind, Logged.outcome_attempt]
  cases h : (linkAccessors ctx decl.recordType javaType n).outcome with
  | ok a => rfl
  | error e =>
    have hfatal := LinkError.isFatal_of_isRefusal (hends.of_error h).1
    simp only [hfatal, Bool.false_eq_true, if_false]
    rfl

/-- The accessors of a field are called as the field is named. -/
theorem carried_of_linkNamed {n : NamedField} {a : FieldAccessors}
    (h : linkNamed ctx decl javaType n = .ok a) : n.Carried javaType a :=
  (of_mapError_eq_ok (linkAccessors_called ctx rfl javaType n) h).2

/-- The fields that have accessors have them, whatever these are called. -/
theorem linkNamed_ok {n : NamedField} (h : n.field.accessible decl.recordType ctx = true) :
    ∃ a, linkNamed ctx decl javaType n = .ok a :=
  (mapError_of_decided _ (linkAccessors_called ctx rfl javaType n)).1 h

/-- The others are reported. -/
theorem linkNamed_error {n : NamedField} (h : n.field.accessible decl.recordType ctx = false) :
    ∃ s, linkNamed ctx decl javaType n = .error s :=
  (mapError_of_decided _ (linkAccessors_called ctx rfl javaType n)).2 h

/-- They are reported by their own names, behind that of the struct. -/
theorem reported_of_linkNamed {n : NamedField} {s : Skipped}
    (h : linkNamed ctx decl javaType n = .error s) :
    s.kind = .field ∧ s.name = decl.name ++ "." ++ n.field.name := by
  obtain ⟨e, rfl⟩ := exists_of_mapError_eq_error h
  exact ⟨rfl, rfl⟩

/-- A list of computations that all have answers has the list of these. -/
theorem mapM_outcome {α β : Type} {f : α → Logged β} {g : α → β} {xs : List α}
    (h : ∀ x ∈ xs, (f x).outcome = .ok (g x)) : (xs.mapM f).outcome = .ok (xs.map g) := by
  induction xs with
  | nil => rfl
  | cons x xs ih =>
    obtain ⟨hx, hxs⟩ := List.forall_mem_cons.1 h
    rw [List.mapM_cons, Logged.outcome_bind, hx]
    show (xs.mapM f >>= _ : Logged _).outcome = _
    rw [Logged.outcome_bind, ih hxs]
    rfl

/-- The unit of a registered struct: its fields are linked under the names they are given. -/
theorem link_outcome {w : Wrapper} (hw : ctx.wrapper? decl.name = some w) :
    (link decl ctx).outcome = (layoutFor ctx decl w).map fun layout =>
      (⟨decl.name, w.javaType,
          successes ((nameFields [] decl.fields).map (linkNamed ctx decl w.javaType)), layout⟩,
        failures ((nameFields [] decl.fields).map (linkNamed ctx decl w.javaType))) := by
  have hfields : ((nameFields [] decl.fields).mapM (linkField ctx decl w.javaType)).outcome =
      .ok ((nameFields [] decl.fields).map (linkNamed ctx decl w.javaType)) :=
    mapM_outcome fun n _ => linkField_outcome n
  unfold link
  rw [hw]
  show (Logged.ofExcept (layoutFor ctx decl w) >>= _ : Logged _).outcome = _
  rw [Logged.outcome_bind, Logged.outcome_ofExcept]
  cases layoutFor ctx decl w with
  | error e => rfl
  | ok layout =>
    show ((nameFields [] decl.fields).mapM _ >>= _ : Logged _).outcome = _
    rw [Logged.outcome_bind, hfields]
    rfl

/-- The fields that have accessors, with the names they are given. -/
def linkedFields (ctx : Context) (decl : StructDecl) : List NamedField :=
  (nameFields [] decl.fields).filter fun n => n.field.accessible decl.recordType ctx

/-- What becomes of the fields of a registered struct that links. -/
theorem parts_of_link {w : Wrapper} (hw : ctx.wrapper? decl.name = some w) {u : StructUnit}
    {fields : List Skipped} (h : (link decl ctx).outcome = .ok (u, fields)) :
    u.accessors = successes ((nameFields [] decl.fields).map (linkNamed ctx decl w.javaType)) ∧
      fields = failures ((nameFields [] decl.fields).map (linkNamed ctx decl w.javaType)) := by
  rw [link_outcome hw] at h
  cases hlayout : layoutFor ctx decl w with
  | error e =>
    rw [hlayout] at h
    exact nomatch h
  | ok layout =>
    rw [hlayout] at h
    obtain ⟨rfl, rfl⟩ := Prod.mk.inj (Except.ok.inj h)
    exact ⟨rfl, rfl⟩

/-- The accessors of a struct are those of the fields that have them, under the names of the row. -/
theorem accessors_named {w : Wrapper} (hw : ctx.wrapper? decl.name = some w) {u : StructUnit}
    {fields : List Skipped} (h : (link decl ctx).outcome = .ok (u, fields)) :
    List.Forall₂ (fun n a => linkNamed ctx decl w.javaType n = .ok a) (linkedFields ctx decl)
      u.accessors := by
  rw [(parts_of_link hw h).1]
  exact successes_map (fun n hn => linkNamed_ok hn) (fun n hn => linkNamed_error hn) _

/-- The fields that are reported are the others, behind the name of the struct. -/
theorem fields_reported {w : Wrapper} (hw : ctx.wrapper? decl.name = some w) {u : StructUnit}
    {fields : List Skipped} (h : (link decl ctx).outcome = .ok (u, fields)) :
    fields.map Skipped.name =
      (decl.fields.filter fun f => !f.accessible decl.recordType ctx).map fun f =>
        decl.name ++ "." ++ f.name := by
  have hfailures := failures_map (f := linkNamed ctx decl w.javaType)
    (p := fun n => n.field.accessible decl.recordType ctx) (fun n hn => linkNamed_ok hn)
    (fun n hn => linkNamed_error hn) (nameFields [] decl.fields)
  have hnames := map_eq_map_of_forall₂ hfailures fun n s hs => (reported_of_linkNamed hs).2.symm
  have hfields := List.filter_map (f := NamedField.field)
    (p := fun f => !f.accessible decl.recordType ctx) (l := nameFields [] decl.fields)
  rw [map_field_nameFields] at hfields
  rw [(parts_of_link hw h).2, ← hnames, hfields, List.map_map]
  rfl

end StructUnit

end JniBridge
