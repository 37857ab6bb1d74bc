import JniBridge.Generation
import JniBridge.Proofs.Context
import JniBridge.Proofs.Downcall
/-
Why a declaration is skipped.

An entry of the report is justified by a cause of its own (`Skipped.Justified`): an enum by a constant,
a struct by its layout, a field or a function by linking, which refuses it.  None of these causes ends
a run, and none is a missing expression (`LinkError.IsOrdinary`).

The contexts under which functions are linked differ in the method names asked for so far.  Linking does
not look at them (`Operation.link_requested`), so the context that a run returns explains everything
that the run skips.
-/

namespace JniBridge

open Linking

/-! ## Causes that cost one declaration -/

/-- The failure costs one declaration, and it is no missing expression. -/
def LinkError.IsOrdinary (e : LinkError) : Prop :=
  e.isFatal = false ∧ ∀ action edge verb, e ≠ .unsupportedEdge action edge verb

theorem LinkError.isOrdinary_of_isRefusal {e : LinkError} (h : e.isRefusal) : e.IsOrdinary :=
  ⟨LinkError.isFatal_of_isRefusal h, LinkError.ne_unsupportedEdge h⟩

/-- The class of an enum fails for a constant only. -/
theorem EnumUnit.ofDecl_ends (decl : EnumDecl) :
    Ends (EnumUnit.ofDecl decl) (fun _ => True) (·.IsOrdinary) := by
  have hliteral : ∀ constant value,
      Ends (EnumUnit.literal decl.name constant value) (fun _ => True) (·.IsOrdinary) := by
    intro constant value
    rcases value with _ | v | v
    · exact ⟨rfl, fun _ _ _ => nofun⟩
    · by_cases hv : -2147483648 ≤ v ∧ v < 2147483648
      · rw [literal, if_pos hv]
        trivial
      · rw [literal, if_neg hv]
        exact ⟨rfl, fun _ _ _ => nofun⟩
    · by_cases hv : v < 4294967296
      · rw [literal, if_pos hv]
        trivial
      · rw [literal, if_neg hv]
        exact ⟨rfl, fun _ _ _ => nofun⟩
  exact Ends.map (ends_mapM_except fun c _ => Ends.map (hliteral c.name c.value))

/-- A layout fails for the type of a field only. -/
theorem Layout.ofDecl_ends (ctx : Context) (decl : StructDecl) :
    Ends (Layout.ofDecl ctx decl) (fun _ => True) (·.IsOrdinary) := by
  have hunsupported : ∀ t, (LinkError.unsupportedType t).IsOrdinary := fun _ =>
    LinkError.isOrdinary_of_isRefusal rfl
  have hresolved : ∀ t, Ends (resolvedCall ctx t) (fun _ => True) (·.IsOrdinary) := by
    intro t
    unfold resolvedCall
    split
    · split
      · trivial
      · exact ⟨rfl, fun _ _ _ => nofun⟩
    · trivial
    · split
      · trivial
      · exact hunsupported _
    · exact hunsupported _
  have hcall : ∀ t, Ends (call ctx t) (fun _ => True) (·.IsOrdinary) := by
    intro t
    unfold call
    split
    · trivial
    · split
      · trivial
      · exact hresolved t
  exact Ends.map (ends_mapM_except fun f _ => Ends.map (Ends.map (hcall f.type)))

/-! ## Method names do not matter -/

/-- Linking does not look at the method names that were asked for. -/
theorem Operation.link_requested (op : Operation) (ctx : Context) (d : Direction)
    (requested : List (String × String)) :
    op.link { ctx with requested } d = op.link ctx d :=
  Operation.link_congr (ctx.agrees_requested requested) op d

/-! ## Why something is skipped -/

/-- The declaration is skipped for a cause of its own.  Fields and functions are refused by linking,
under the context that the run ends with. -/
inductive Skipped.Justified (decls : Declarations) (final : Context) : Skipped → Prop
  | enumeration {d : EnumDecl} {reason : LinkError} (hd : d ∈ decls.enums)
    (h : EnumUnit.ofDecl d = .error reason) : Justified decls final ⟨.enumeration, d.name, reason⟩
  | record {d : StructDecl} {reason : LinkError} (round : Context) (hd : d ∈ decls.structs)
    (h : Layout.ofDecl round d = .error reason) : Justified decls final ⟨.record, d.name, reason⟩
  | getter {d : StructDecl} {f : NamedType} {reason : LinkError} (hd : d ∈ decls.structs)
    (hf : f ∈ d.fields)
    (h : ((Operation.getField d.recordType f).link final .downcall).outcome = .error reason) :
    Justified decls final ⟨.field, d.name ++ "." ++ f.name, reason⟩
  | setter {d : StructDecl} {f : NamedType} {reason : LinkError} (hd : d ∈ decls.structs)
    (hf : f ∈ d.fields)
    (h : ((Operation.setField d.recordType f).link final .downcall).outcome = .error reason) :
    Justified decls final ⟨.field, d.name ++ "." ++ f.name, reason⟩
  | function {d : FunctionDecl} {reason : LinkError} (hd : d ∈ decls.functions)
    (h : ((Operation.callNative d).link final .downcall).outcome = .error reason) :
    Justified decls final ⟨.function, d.name, reason⟩

namespace Skipped

/-- The entry is justified, and what it is skipped for costs nothing else. -/
def Acceptable (decls : Declarations) (final : Context) (s : Skipped) : Prop :=
  s.Justified decls final ∧ s.reason.IsOrdinary

variable {decls : Declarations} {final : Context}

/-- What explains an entry explains it whatever method names are asked for afterwards. -/
theorem Acceptable.requested {s : Skipped} (h : s.Acceptable decls final)
    (requested : List (String × String)) : s.Acceptable decls { final with requested } := by
  obtain ⟨hjustified, hordinary⟩ := h
  refine ⟨?_, hordinary⟩
  cases hjustified with
  | enumeration hd h => exact .enumeration hd h
  | record round hd h => exact .record round hd h
  | getter hd hf h => exact .getter hd hf (by rw [Operation.link_requested]; exact h)
  | setter hd hf h => exact .setter hd hf (by rw [Operation.link_requested]; exact h)
  | function hd h => exact .function hd (by rw [Operation.link_requested]; exact h)

end Skipped

/-- Only what is a failure among results is among their failures. -/
theorem forall_mem_failures {α ε : Type} {P : ε → Prop} {results : List (Except ε α)}
    (h : ∀ r ∈ results, ∀ e, r = .error e → P e) : ∀ e ∈ failures results, P e := by
  intro e he
  obtain ⟨r, hr, hsome⟩ := List.mem_filterMap.1 he
  cases r with
  | ok a => exact nomatch hsome
  | error e' =>
    obtain rfl := Option.some.inj hsome
    exact h _ hr _ rfl

/-! ## Enums and fields -/

variable {decls : Declarations}

theorem Generation.skip_ends (kind : DeclKind) (name : String) (reason : LinkError) :
    Ends (Generation.skip kind name reason).outcome (fun s => s = ⟨kind, name, reason⟩)
      fun _ => False :=
  ends_tell rfl

/-- An enum is linked or skipped. -/
theorem Generation.linkEnum_ends {decl : EnumDecl} (hd : decl ∈ decls.enums) :
    Ends (Generation.linkEnum decl).outcome
      (fun r => ∀ s, r = .error s → ∀ final, s.Acceptable decls final) fun _ => False := by
  have hattempt := ends_attempt (x := Logged.ofExcept (EnumUnit.ofDecl decl))
    (EnumUnit.ofDecl_ends decl) fun _ _ he => he.1
  refine hattempt.logged fun r _ hr => ?_
  cases r with
  | ok unit => exact ends_tell fun s hs => nomatch hs
  | error e =>
    obtain ⟨hordinary, hfailed⟩ := hr
    refine (Generation.skip_ends _ _ _).logged fun s _ hs s' hs' final => ?_
    obtain rfl := Except.error.inj hs'
    rw [hs]
    exact ⟨.enumeration hd hfailed, hordinary⟩

namespace StructUnit

/-- Accessors are named for the fields that there are. -/
theorem mem_of_mem_nameFields (asked : List String) {fields : List NamedType} {f : NamedField}
    (h : f ∈ nameFields asked fields) : f.field ∈ fields := by
  induction fields generalizing asked with
  | nil => exact absurd h List.not_mem_nil
  | cons field fields ih =>
    rcases List.mem_cons.1 h with rfl | hrest
    · exact List.mem_cons_self
    · exact List.mem_cons_of_mem _ (ih _ hrest)

/-- Accessors fail only where linking refuses one of them. -/
theorem linkAccessors_ends (ctx : Context) (record : CType) (hrecord : record.recordName?.isSome)
    (javaType : JavaType) (f : NamedField) :
    Ends (linkAccessors ctx record javaType f).outcome (fun _ => True) fun e => e.IsOrdinary ∧
      (((Operation.getField record f.field).link ctx .downcall).outcome = .error e ∨
        ((Operation.setField record f.field).link ctx .downcall).outcome = .error e) := by
  have hgetter := DowncallUnit.link_ends (.get hrecord f.field) (accessorSpec javaType f.getter) ctx
  have hsetter := DowncallUnit.link_ends (.set hrecord f.field) (accessorSpec javaType f.setter) ctx
  refine (hgetter.failing fun e _ he => ?_).logged fun getter _ _ => ?_
  · exact ⟨LinkError.isOrdinary_of_isRefusal he.1, Or.inl he.2⟩
  · refine (hsetter.failing fun e _ he => ?_).logged fun setter _ _ => trivial
    exact ⟨LinkError.isOrdinary_of_isRefusal he.1, Or.inr he.2⟩

/-- A field is linked or skipped. -/
theorem linkField_ends (ctx : Context) {decl : StructDecl} (hd : decl ∈ decls.structs)
    (javaType : JavaType) {f : NamedField} (hf : f.field ∈ decl.fields) :
    Ends (linkField ctx decl javaType f).outcome
      (fun r => ∀ s, r = .error s → s.Acceptable decls ctx) fun _ => False := by
  have hattempt := ends_attempt (linkAccessors_ends ctx decl.recordType rfl javaType f)
    fun _ _ he => he.1.1
  refine hattempt.logged fun r _ hr => ?_
  cases r with
  | ok accessors => exact fun s hs => nomatch hs
  | error e =>
    obtain ⟨⟨hordinary, hrefused⟩, -⟩ := hr
    refine ends_tell fun s hs => ?_
    obtain rfl := Except.error.inj hs
    rcases hrefused with hget | hset
    · exact ⟨.getter hd hf hget, hordinary⟩
    · exact ⟨.setter hd hf hset, hordinary⟩

/-- A struct that has its wrapper fails with its layout only, and only if it is to declare one. -/
theorem link_ends {ctx : Context} {decl : StructDecl} (hd : decl ∈ decls.structs)
    {wrapper : Wrapper} (hwrapper : ctx.wrapper? decl.name = some wrapper) :
    Ends (link decl ctx).outcome (fun linked => ∀ s ∈ linked.2, s.Acceptable decls ctx)
      fun e => e.IsOrdinary ∧ wrapper.layout = true ∧ Layout.ofDecl ctx decl = .error e := by
  have hlayout : Ends (layoutFor ctx decl wrapper) (fun _ => True)
      fun e => e.IsOrdinary ∧ wrapper.layout = true ∧ Layout.ofDecl ctx decl = .error e := by
    unfold layoutFor
    split
    · next hdeclares =>
      exact Ends.map ((Layout.ofDecl_ends ctx decl).failing fun _ he h => ⟨h, hdeclares, he⟩)
    · trivial
  unfold link
  rw [hwrapper]
  refine Ends.logged (x := Logged.ofExcept (layoutFor ctx decl wrapper)) hlayout ?_
  intro layout _ _
  have hfields := ends_mapM fun f hf =>
    linkField_ends ctx hd wrapper.javaType (mem_of_mem_nameFields [] hf)
  refine (hfields.failing fun _ _ h => h.elim).logged fun results _ hresults => ?_
  refine forall_mem_failures fun r hr s hs => ?_
  exact forall_mem_of_forall₂ hresults (fun _ _ h => h) r hr s hs

end StructUnit

end JniBridge
