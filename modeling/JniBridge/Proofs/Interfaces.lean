import JniBridge.Proofs.Crossing
import JniBridge.Proofs.Sifting
/-
The names of callback interfaces.

An interface is named after the function and the parameter that it is made for, with an underscore between
them.  Underscores are also what names are made of, so the name of an interface does not tell where that of
its function ends.

1. A run makes interfaces for the function pointers of the functions that it generates, in order
   (`Stages.callbacks_made`); accessors need none.
2. Two function pointers give one name exactly if they clash: the longer function's name is the shorter
   one's with the beginning of its parameter's (`PointerParameter.interfaceName_eq_iff`).
3. So the interfaces of a run have distinct names exactly if no two function pointers clash
   (`callbacks_distinct_iff`).
-/

namespace JniBridge

/-! ## Names with an underscore between -/

/-- If a joined text goes on where the first part of another ends, the two are split at one place or at two
underscores. -/
theorem joined_at {a b c d : String} {x : List Char} (hc : c.toList = a.toList ++ x)
    (hb : '_' :: b.toList = x ++ '_' :: d.toList) :
    a = c ∧ b = d ∨ ∃ between, c = a ++ "_" ++ between ∧ b = between ++ "_" ++ d := by
  cases x with
  | nil =>
    rw [List.append_nil] at hc
    exact Or.inl ⟨String.toList_inj.1 hc.symm, String.toList_inj.1 (List.cons.inj hb).2⟩
  | cons y ys =>
    have hrest : y = '_' ∧ b.toList = ys ++ '_' :: d.toList := by
      obtain ⟨hy, hrest⟩ := List.cons.inj hb
      exact ⟨hy.symm, hrest⟩
    obtain ⟨rfl, hrest⟩ := hrest
    refine Or.inr ⟨String.ofList ys, String.toList_inj.1 ?_, String.toList_inj.1 ?_⟩
    · simp only [hc, String.toList_append, String.toList_ofList, List.append_assoc]
      rfl
    · simp only [hrest, String.toList_append, String.toList_ofList, List.append_assoc]
      rfl

/-- A function pointer among the parameters of a function, by the names of both. -/
structure PointerParameter where
  function : String
  parameter : String
deriving DecidableEq

namespace PointerParameter

/-- What its interface is called. -/
def interfaceName (p : PointerParameter) : String :=
  "Callback_" ++ p.function ++ "_" ++ p.parameter

/-- The second function's name is that of the first with the beginning of the first one's parameter, and
the rest of that is the second one's parameter. -/
def Clashes (p q : PointerParameter) : Prop :=
  ∃ between, q.function = p.function ++ "_" ++ between ∧ p.parameter = between ++ "_" ++ q.parameter

theorem Clashes.interfaceName_eq {p q : PointerParameter} (h : p.Clashes q) :
    p.interfaceName = q.interfaceName := by
  obtain ⟨between, hfunction, hparameter⟩ := h
  rw [interfaceName, interfaceName, hfunction, hparameter]
  simp only [String.append_assoc]

/-- Only a function with an underscore in its name clashes with one before it. -/
theorem Clashes.underscore_mem {p q : PointerParameter} (h : p.Clashes q) :
    '_' ∈ q.function.toList := by
  obtain ⟨between, hfunction, -⟩ := h
  rw [hfunction, String.toList_append, String.toList_append]
  exact List.mem_append_left _ (List.mem_append_right _ (List.mem_singleton_self _))

/-- Two function pointers give one name exactly if they clash. -/
theorem interfaceName_eq_iff {p q : PointerParameter} (hne : p ≠ q) :
    p.interfaceName = q.interfaceName ↔ p.Clashes q ∨ q.Clashes p := by
  constructor
  · intro h
    have hsame : p.function.toList ++ '_' :: p.parameter.toList =
        q.function.toList ++ '_' :: q.parameter.toList := by
      rw [interfaceName, interfaceName, String.append_assoc, String.append_assoc,
        String.append_assoc, String.append_assoc] at h
      have hlists := congrArg String.toList ((String.append_right_inj _).1 h)
      rw [String.toList_append, String.toList_append, String.toList_append,
        String.toList_append] at hlists
      exact hlists
    have hapart : ¬ (p.function = q.function ∧ p.parameter = q.parameter) := by
      rintro ⟨hfunction, hparameter⟩
      cases p
      cases q
      obtain rfl := hfunction
      obtain rfl := hparameter
      exact hne rfl
    rcases List.append_eq_append_iff.1 hsame with ⟨x, hfunction, hparameter⟩ |
      ⟨x, hfunction, hparameter⟩
    · rcases joined_at hfunction hparameter with hequal | hclash
      · exact absurd hequal hapart
      · exact Or.inl hclash
    · rcases joined_at hfunction hparameter with hequal | hclash
      · exact absurd ⟨hequal.1.symm, hequal.2.symm⟩ hapart
      · exact Or.inr hclash
  · rintro (h | h)
    · exact h.interfaceName_eq
    · exact h.interfaceName_eq.symm

/-- No function pointer clashes with itself. -/
theorem not_clashes_self (p : PointerParameter) : ¬ p.Clashes p := by
  rintro ⟨between, hfunction, -⟩
  have hlength := congrArg String.length hfunction
  simp only [String.length_append] at hlength
  have hunderscore : "_".length = 1 := rfl
  omega

/-- The names are distinct exactly if nothing clashes. -/
theorem map_interfaceName_nodup_iff {ps : List PointerParameter} (hps : ps.Nodup) :
    (ps.map interfaceName).Nodup ↔ ∀ p ∈ ps, ∀ q ∈ ps, ¬ p.Clashes q := by
  rw [List.nodup_map_iff_inj_on hps]
  constructor
  · intro hinjective p hp q hq hclash
    obtain rfl := hinjective p hp q hq hclash.interfaceName_eq
    exact not_clashes_self p hclash
  · intro hclear p hp q hq hname
    by_contra hne
    rcases (interfaceName_eq_iff hne).1 hname with hclash | hclash
    · exact hclear p hp q hq hclash
    · exact hclear q hq p hp hclash

end PointerParameter

/-! ## The interfaces of a function -/

/-- The interface is the one for the function pointer. -/
structure CallbackInterface.StandsFor (cb : CallbackInterface) (p : PointerParameter) (ctx : Context) :
    Prop where
  operation : cb.operation = p.function
  parameter : cb.parameter = p.parameter
  name : cb.name = p.interfaceName
  type : cb.type = ctx.nestedType p.interfaceName

theorem CallbackInterface.standsFor_of_create {operation parameter : String} {proto : CType}
    {ctx : Context} {cb : CallbackInterface}
    (h : (create operation parameter proto ctx).outcome = .ok cb) :
    cb.StandsFor ⟨operation, parameter⟩ ctx := by
  unfold create at h
  obtain ⟨op, -, h⟩ := exists_of_bind_eq_ok h
  obtain ⟨linked, -, h⟩ := exists_of_bind_eq_ok h
  obtain ⟨method, -, h⟩ := exists_of_bind_eq_ok h
  obtain rfl := Except.ok.inj h
  exact ⟨rfl, rfl, rfl, rfl⟩

/-- The function pointers that a function takes. -/
def FunctionDecl.pointers (d : FunctionDecl) : List PointerParameter :=
  (d.params.filter fun p => p.type.isFunctionPointer).map fun p => ⟨d.name, p.name⟩

/-- Parameters of distinct names are distinct function pointers. -/
theorem FunctionDecl.nodup_pointers {d : FunctionDecl} (h : (d.params.map NamedType.name).Nodup) :
    d.pointers.Nodup := by
  have hnames : (d.pointers.map PointerParameter.parameter).Nodup := by
    rw [pointers, List.map_map]
    exact h.sublist (List.filter_sublist.map _)
  exact hnames.of_map _

namespace Linking

variable {op : Operation} {ctx : Context} {d : Direction} {awaiting : Option CallbackInterface}
  {ps : List OperationParameter} {rs : List (ParameterLinkage × Option CallbackInterface)}

/-- Walking over ordinary arguments makes one interface for each function pointer. -/
theorem ParametersLinked.interfaces (h : ParametersLinked op ctx d awaiting ps rs)
    (hroles : ∀ p ∈ ps, p.role = .value) :
    List.Forall₂ (fun p cb => cb.StandsFor ⟨op.name, p.name⟩ ctx)
      (ps.filter fun p => p.type.isFunctionPointer) (rs.filterMap Prod.snd) := by
  induction h with
  | nil => exact .nil
  | value role settled _ ih =>
    rw [List.filter_cons_of_neg (by rw [CType.isFunctionPointer_of_isValue settled.isValue]; decide)]
    exact ih fun q hq => hroles q (List.mem_cons_of_mem _ hq)
  | handle role | receiver role =>
    exact nomatch role.symm.trans (hroles _ List.mem_cons_self)
  | pointer role _ shape _ created _ ih =>
    rw [List.filter_cons_of_pos (by rw [CType.isFunctionPointer, shape])]
    refine .cons (CallbackInterface.standsFor_of_create created) ?_
    exact ih fun q hq => hroles q (List.mem_cons_of_mem _ hq)
  | context role _ hcontext _ ih =>
    rw [List.filter_cons_of_neg (by rw [CType.isFunctionPointer_of_isContext hcontext]; decide)]
    exact ih fun q hq => hroles q (List.mem_cons_of_mem _ hq)

/-- The interfaces of a function are those of its function pointers. -/
theorem LinkedAs.interfaces {decl : FunctionDecl} {linked : LinkedOperation}
    (h : LinkedAs (.callNative decl) ctx .downcall linked) :
    List.Forall₂ (fun p cb => cb.StandsFor p ctx) decl.pointers linked.callbacks := by
  obtain ⟨rs, hrs, -, hcallbacks⟩ := h.params
  have hparams : (Operation.callNative decl).params = decl.params.map Operation.argument := rfl
  have hmade := hrs.interfaces (Operation.role_of_mem_callNative decl)
  rw [hparams, List.filter_map, List.forall₂_map_left_iff] at hmade
  rw [hcallbacks, FunctionDecl.pointers, List.forall₂_map_left_iff]
  exact hmade

/-- Reading a field takes no function pointer. -/
theorem LinkedAs.callbacks_getField {record : CType} {field : NamedType} {linked : LinkedOperation}
    (h : LinkedAs (.getField record field) ctx .downcall linked) : linked.callbacks = [] := by
  obtain ⟨rs, hrs, -, hcallbacks⟩ := h.params
  have hps : (Operation.getField record field).params = [Operation.receiver record] := rfl
  rw [hps] at hrs
  rw [hcallbacks]
  cases hrs with
  | value role _ _ => exact nomatch role
  | receiver role _ => exact nomatch role
  | pointer role _ _ _ _ _ => exact nomatch role
  | handle _ _ _ rest =>
    cases rest
    rfl

end Linking

namespace Generation

/-! ## The interfaces of a run -/

/-- The function pointers that interfaces are made for. -/
def calledBack (ctx : Context) (ds : List FunctionDecl) : List PointerParameter :=
  ((wanted ctx ds).filter fun d => (Operation.callNative d).links ctx).flatMap FunctionDecl.pointers

variable {decls : Declarations} {ctx : Context} {linked : List (Except Skipped EnumUnit)}
  {settled : Settled} {called : List (Except Skipped FunctionUnit)} {g : Generation}
  {final : Context}

/-- The functions that a run generates are those that link. -/
theorem Stages.functions_kept (h : Stages decls ctx linked settled called g final) :
    List.Forall₂ (FunctionDecl.Kept final)
      ((wanted ctx decls.functions).filter fun d => (Operation.callNative d).links ctx)
      g.functions := by
  refine h.functions_sifted.forall₂_filter (fun d f hf => ?_) fun d s hs => ?_
  · rw [Operation.links_congr (.call d) ctx final, Operation.links, hf.made]
    rfl
  · rw [Operation.links_congr (.call d) ctx final, Operation.links, hs.reason]
    rfl

/-- Accessors need no interfaces. -/
theorem Stages.callbacks_of_functions (h : Stages decls ctx linked settled called g final) :
    g.callbacks = g.functions.flatMap fun f => f.method.linked.callbacks := by
  have haccessors : ((g.structs.flatMap fun s => s.accessors.flatMap fun a =>
      [a.getter, a.setter]).flatMap fun u => u.linked.callbacks) = [] := by
    refine List.flatMap_eq_nil_iff.2 fun u hu => ?_
    obtain ⟨s, hs, hu⟩ := List.mem_flatMap.1 hu
    obtain ⟨a, ha, hu⟩ := List.mem_flatMap.1 hu
    obtain ⟨kept, hsettles⟩ := h.exists_settles
    rw [h.generated] at hs
    obtain ⟨d, -, fields, hlink⟩ := exists_mem_of_forall₂ hsettles.units s hs
    obtain ⟨field, getter, setter, hgetter, hsetter⟩ := accessors_of_link hlink a ha
    rcases List.mem_pair.1 hu with rfl | rfl
    · have hoffered : (Operation.getField d.recordType field).Offered := .get rfl field
      exact ((hoffered.link_ends _).of_ok (DowncallUnit.linked_of_link hgetter)).callbacks_getField
    · have hoffered : (Operation.setField d.recordType field).Offered := .set rfl field
      exact ((hoffered.link_ends _).of_ok (DowncallUnit.linked_of_link hsetter)).params_setField.1
  rw [callbacks, List.flatMap_append, haccessors, List.append_nil, List.flatMap_map]

/-- The interfaces of a run are made for the function pointers of the functions that it generates. -/
theorem Stages.callbacks_made (h : Stages decls ctx linked settled called g final) :
    List.Forall₂ (fun p cb => cb.StandsFor p ctx) (calledBack ctx decls.functions) g.callbacks := by
  obtain ⟨enums, structs, hctx⟩ := h.ctx_eq
  have hnested : ∀ name, final.nestedType name = ctx.nestedType name := by
    intro name
    rw [Linking.nestedType_congr h.final_agrees, hctx]
    rfl
  rw [h.callbacks_of_functions, calledBack]
  refine List.rel_flatMap h.functions_kept fun d f hf => ?_
  have hinterfaces := (((Operation.Offered.call d).link_ends final).of_ok hf.made).interfaces
  refine hinterfaces.imp fun p cb hcb => ⟨hcb.operation, hcb.parameter, hcb.name, ?_⟩
  rw [hcb.type, hnested]

/-- Functions of distinct names, each with parameters of distinct names, take distinct function
pointers. -/
theorem nodup_calledBack (ctx : Context) {ds : List FunctionDecl}
    (hfunctions : (ds.map FunctionDecl.name).Nodup)
    (hparams : ∀ d ∈ ds, (d.params.map NamedType.name).Nodup) : (calledBack ctx ds).Nodup := by
  have hsublist : ((wanted ctx ds).filter fun d => (Operation.callNative d).links ctx).Sublist ds :=
    List.filter_sublist.trans List.filter_sublist
  refine List.nodup_flatMap.2 ⟨fun d hd => ?_, ?_⟩
  · exact FunctionDecl.nodup_pointers (hparams d (hsublist.subset hd))
  · refine List.Pairwise.imp ?_ (List.pairwise_map.1 (hfunctions.sublist (hsublist.map _)))
    intro d d' hne p hp hp'
    obtain ⟨q, -, rfl⟩ := List.mem_map.1 hp
    obtain ⟨q', -, hq'⟩ := List.mem_map.1 hp'
    exact hne (PointerParameter.mk.inj hq').1.symm

/-- The interfaces of a run are those of the function pointers of the functions that link, in order.  Their
names, and so their types, are distinct exactly if no two function pointers clash. -/
theorem callbacks_distinct_iff (decls : Declarations) (ctx : Context)
    (hfunctions : (decls.functions.map FunctionDecl.name).Nodup)
    (hparams : ∀ d ∈ decls.functions, (d.params.map NamedType.name).Nodup) :
    ∃ g final, (run decls ctx).outcome = .ok (g, final) ∧
      List.Forall₂ (fun p cb => cb.StandsFor p ctx) (calledBack ctx decls.functions) g.callbacks ∧
      ((g.callbacks.map CallbackInterface.name).Nodup ↔
        ∀ p ∈ calledBack ctx decls.functions, ∀ q ∈ calledBack ctx decls.functions,
          ¬ p.Clashes q) ∧
      ((g.callbacks.map CallbackInterface.type).Nodup ↔
        (g.callbacks.map CallbackInterface.name).Nodup) := by
  obtain ⟨g, final, hrun⟩ := exists_run decls ctx
  obtain ⟨linked, settled, called, hstages⟩ := stages_of_run hrun
  have hmade := hstages.callbacks_made
  have hnames : g.callbacks.map CallbackInterface.name =
      (calledBack ctx decls.functions).map PointerParameter.interfaceName :=
    (map_eq_map_of_forall₂ hmade fun _ _ hcb => hcb.name.symm).symm
  have htypes : g.callbacks.map CallbackInterface.type =
      (g.callbacks.map CallbackInterface.name).map ctx.nestedType := by
    rw [hnames, List.map_map]
    exact (map_eq_map_of_forall₂ hmade fun _ _ hcb => hcb.type.symm).symm
  refine ⟨g, final, hrun, hmade, ?_, ?_⟩
  · rw [hnames]
    exact PointerParameter.map_interfaceName_nodup_iff (nodup_calledBack ctx hfunctions hparams)
  · rw [htypes]
    exact List.nodup_map_iff ctx.nestedType_injective

/-- A function that takes a visitor of some values, and the visitor's context. -/
def visits (name visitor : String) (values : List CType) : FunctionDecl :=
  ⟨name, .void, [⟨visitor, .pointerTo (.function .void (values ++ [.voidPointer]))⟩,
    ⟨"context", .voidPointer⟩]⟩

/-- Two functions with a visitor each have an interface each. -/
theorem callbacks_distinct_iff_walk :
    ([visits "walk" "visit" [], visits "each" "visit" []].map FunctionDecl.name).Nodup ∧
      (∀ d ∈ [visits "walk" "visit" [], visits "each" "visit" []],
        (d.params.map NamedType.name).Nodup) ∧
      ∃ g final, (run { functions := [visits "walk" "visit" [], visits "each" "visit" []] }
          { package := "geo", container := "Native" }).outcome = .ok (g, final) ∧
        g.callbacks.length = 2 ∧ (g.callbacks.map CallbackInterface.name).Nodup ∧
        (g.callbacks.map CallbackInterface.type).Nodup := by
  have hfunctions :
      ([visits "walk" "visit" [], visits "each" "visit" []].map FunctionDecl.name).Nodup := by
    decide
  have hparams : ∀ d ∈ [visits "walk" "visit" [], visits "each" "visit" []],
      (d.params.map NamedType.name).Nodup := by decide
  obtain ⟨g, final, hrun, hmade, hnames, htypes⟩ := callbacks_distinct_iff
    { functions := [visits "walk" "visit" [], visits "each" "visit" []] }
    { package := "geo", container := "Native" } hfunctions hparams
  have hclear : ∀ q ∈ [PointerParameter.mk "walk" "visit", ⟨"each", "visit"⟩],
      '_' ∉ q.function.toList := by decide
  have hdistinct := hnames.2 fun p _ q hq hclash => hclear q hq hclash.underscore_mem
  exact ⟨hfunctions, hparams, g, final, hrun, hmade.length_eq.symm, hdistinct, htypes.2 hdistinct⟩

/-- Two function pointers of different prototypes, whose dispatchers have different descriptors, are given
one interface name. -/
theorem callbacks_clash :
    ([visits "a_b" "c" [], visits "a" "b_c" [.ofScalar .int "int"]].map FunctionDecl.name).Nodup ∧
      (∀ d ∈ [visits "a_b" "c" [], visits "a" "b_c" [.ofScalar .int "int"]],
        (d.params.map NamedType.name).Nodup) ∧
      ∃ g final, (run
          { functions := [visits "a_b" "c" [], visits "a" "b_c" [.ofScalar .int "int"]] }
          { package := "geo", container := "Native" }).outcome = .ok (g, final) ∧
        ¬ (g.callbacks.map CallbackInterface.name).Nodup ∧
        g.callbacks.map CallbackInterface.type =
          [.ofClass "geo" "Native.Callback_a_b_c", .ofClass "geo" "Native.Callback_a_b_c"] ∧
        g.callbacks.map (fun cb => cb.method.caller.descriptor) =
          ["(Lgeo/Native$Callback_a_b_c;)V", "(ILgeo/Native$Callback_a_b_c;)V"] := by
  refine ⟨by decide, by decide, _, _,
    run_of_stages ⟨rfl, settle_of_none_failed rfl rfl, rfl, rfl⟩, ?_, rfl, rfl⟩
  have hrepeated : ¬ ["Callback_a_b_c", "Callback_a_b_c"].Nodup := by decide
  exact hrepeated

end Generation

end JniBridge
