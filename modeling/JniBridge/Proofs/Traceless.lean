import JniBridge.Proofs.Trimming
/-
What is left of a declaration that is skipped.

Names are given out before anything is linked, so a function that is skipped has taken its name all the
same, and so have the accessors of a field.  Nothing else is left of them: a second run without the
functions that were skipped, or without the fields, keeps the same structs, and every function or field
that was generated is generated again.  It has the same name, and then the same code, exactly if nothing
that was skipped before it asks for the name that it asks for (`Generation.skipping_traceless_iff`).

1. Functions come last, so both runs link them under one context (`Stages.functions_unskipped_iff`).
2. Structs are linked under the same wrappers, whether they are trimmed or not
   (`Stages.structs_trimmed`).
3. What a run reports of functions and of fields is what the second run leaves out
   (`Stages.reported_functions`, `Stages.reported_fields`).
-/

namespace JniBridge

open Naming

/-! ## Functions that are skipped -/

namespace Generation

variable (ctx : Context)

/-- The function is wanted, and cannot be had. -/
def skips (d : FunctionDecl) : Bool :=
  (ctx.rules.methodRule d.name).generates && !(Operation.callNative d).links ctx

/-- The functions without those that are skipped. -/
def unskipped (ds : List FunctionDecl) : List FunctionDecl := ds.filter fun d => !skips ctx d

/-- No function that is skipped asks for a name that a later one asks for that is generated. -/
def Unshadowed (ds : List FunctionDecl) : Prop :=
  (wanted ctx ds).Pairwise fun d e => (Operation.callNative d).links ctx = false →
    (Operation.callNative e).links ctx = true → methodBase ctx d ≠ methodBase ctx e

variable {ctx}

/-- Of the functions that are wanted, those that link are left. -/
theorem wanted_unskipped (ds : List FunctionDecl) :
    wanted ctx (unskipped ctx ds) =
      (wanted ctx ds).filter fun d => (Operation.callNative d).links ctx := by
  unfold wanted unskipped skips
  rw [List.filter_filter, List.filter_filter]
  refine List.filter_congr fun d _ => ?_
  cases (ctx.rules.methodRule d.name).generates with
  | false =>
    rw [Bool.and_false]
    rfl
  | true => rw [Bool.true_and, Bool.true_and, Bool.not_not, Bool.and_true]

/-- They have the names that they had exactly if nothing that is skipped asks for one of these
before. -/
theorem linkedNames_unskipped_iff (ds : List FunctionDecl) :
    linkedNames ctx (unskipped ctx ds) = linkedNames ctx ds ↔ Unshadowed ctx ds := by
  have hall : linkedNames ctx (unskipped ctx ds) = namedFunctions ctx (unskipped ctx ds) := by
    refine List.filter_eq_self.2 fun named hnamed => ?_
    have hmem : named.1 ∈ (namedFunctions ctx (unskipped ctx ds)).map Prod.fst :=
      List.mem_map_of_mem hnamed
    rw [namedFunctions, map_fst_numberRow, wanted_unskipped] at hmem
    exact (List.mem_filter.1 hmem).2
  rw [hall, namedFunctions, wanted_unskipped, linkedNames, namedFunctions]
  exact numberRow_filter_iff (methodBase ctx) (fun d => (Operation.callNative d).links ctx) _ _

/-- The functions that are generated are the same, whatever they are called. -/
theorem map_fst_linkedNames (ds : List FunctionDecl) :
    (linkedNames ctx ds).map Prod.fst =
      (wanted ctx ds).filter fun d => (Operation.callNative d).links ctx :=
  map_fst_filter_numberRow (methodBase ctx) (fun d => (Operation.callNative d).links ctx) _ _

variable {decls decls' : Declarations} {linked linked' : List (Except Skipped EnumUnit)}
  {settled settled' : Settled} {called called' : List (Except Skipped FunctionUnit)}
  {g g' : Generation} {final final' : Context}

/-- What comes before the functions does not depend on them. -/
theorem Stages.settled_eq (h : Stages decls ctx linked settled called g final)
    (h' : Stages decls' ctx linked' settled' called' g' final') (henums : decls'.enums = decls.enums)
    (hstructs : decls'.structs = decls.structs) : linked' = linked ∧ settled' = settled := by
  have hlinked := h'.enums
  rw [henums] at hlinked
  obtain rfl := Except.ok.inj (h.enums.symm.trans hlinked)
  have hsettled := h'.structs
  rw [hstructs] at hsettled
  exact ⟨rfl, (Except.ok.inj (h.structs.symm.trans hsettled)).symm⟩

/-- The rules are those that the run starts with. -/
theorem Stages.rules_eq (h : Stages decls ctx linked settled called g final) :
    settled.ctx.rules = ctx.rules := by
  obtain ⟨enums, structs, hctx⟩ := h.ctx_eq
  rw [hctx]

/-- Under contexts that agree, functions are the same if their names are. -/
theorem Stages.functions_eq_iff (h : Stages decls ctx linked settled called g final)
    (h' : Stages decls' ctx linked' settled' called' g' final')
    (hagrees : settled'.ctx.Agrees settled.ctx)
    (hsame : (linkedNames ctx decls'.functions).map Prod.fst =
      (linkedNames ctx decls.functions).map Prod.fst) :
    g'.functions = g.functions ↔
      linkedNames ctx decls'.functions = linkedNames ctx decls.functions := by
  constructor
  · intro hfunctions
    refine eq_of_map_fst_of_map_snd hsame ?_
    have hnames := map_eq_map_of_forall₂ h.functions_called fun _ _ hf => hf.2.java.symm
    have hnames' := map_eq_map_of_forall₂ h'.functions_called fun _ _ hf => hf.2.java.symm
    rw [hnames, hnames', hfunctions]
  · intro hnames
    have hfunctions' := h'.functions_named
    rw [linkNamed_congr hagrees (h'.rules_eq.trans h.rules_eq.symm)] at hfunctions'
    exact eq_of_forall₂_eq_ok hfunctions' (hnames ▸ h.functions_named)

/-- A run without the functions that are skipped gives the same functions exactly if none of those asks
for the name of one that is generated after it. -/
theorem Stages.functions_unskipped_iff (h : Stages decls ctx linked settled called g final)
    (h' : Stages { decls with functions := unskipped ctx decls.functions } ctx linked' settled'
      called' g' final') :
    g'.enums = g.enums ∧ g'.structs = g.structs ∧
      (g'.functions = g.functions ↔ Unshadowed ctx decls.functions) := by
  obtain ⟨rfl, rfl⟩ := h.settled_eq h' rfl rfl
  refine ⟨by rw [h.generated, h'.generated], by rw [h.generated, h'.generated], ?_⟩
  rw [← linkedNames_unskipped_iff]
  refine h.functions_eq_iff h' (Context.Agrees.refl _) ?_
  rw [map_fst_linkedNames, map_fst_linkedNames, wanted_unskipped, List.filter_filter]
  exact List.filter_congr fun d _ => Bool.and_self _

/-! ## Fields that are skipped -/

/-- The names of the structs that are generated. -/
def generatedStructs (g : Generation) : List String := g.structs.map StructUnit.nativeName

/-- The declarations with the fields of these structs left out that have no accessors. -/
def withoutFields (ctx : Context) (g : Generation) (decls : Declarations) : Declarations :=
  { decls with structs := decls.structs.map (StructDecl.trimmedAmong ctx g.generatedStructs) }

/-- The structs that are generated are those that are kept, in order. -/
theorem Stages.generatedStructs_eq (h : Stages decls ctx linked settled called g final)
    {kept : Finset String}
    (hsettles : Settles (registerEnums ctx g.enums) (candidates ctx decls.structs)
      (structNames (candidates ctx decls.structs)) settled kept) :
    g.generatedStructs =
      ((candidates ctx decls.structs).filter fun d => d.name ∈ kept).map StructDecl.name := by
  rw [generatedStructs, h.generated]
  refine (map_eq_map_of_forall₂ hsettles.units fun d u hunit => ?_).symm
  obtain ⟨fields, hlink⟩ := hunit
  obtain ⟨w, hw⟩ := StructUnit.exists_wrapper_of_link hlink
  exact (named_of_link hw hlink).1.symm

/-- A struct is kept if it is generated. -/
theorem Stages.mem_generatedStructs (h : Stages decls ctx linked settled called g final)
    {kept : Finset String}
    (hsettles : Settles (registerEnums ctx g.enums) (candidates ctx decls.structs)
      (structNames (candidates ctx decls.structs)) settled kept) (name : String) :
    name ∈ g.generatedStructs ↔ name ∈ kept := by
  rw [h.generatedStructs_eq hsettles, List.mem_map]
  constructor
  · rintro ⟨d, hd, rfl⟩
    exact of_decide_eq_true (List.mem_filter.1 hd).2
  · intro hkept
    obtain ⟨d, hd, rfl⟩ := mem_structNames.1 (hsettles.subset hkept)
    exact ⟨d, List.mem_filter.2 ⟨hd, decide_eq_true hkept⟩, rfl⟩

/-- A run without the fields that are skipped gives the same functions and the same structs, and each of
these has the same accessors exactly if no field that is skipped asks for the name of an accessor of a
field after it. -/
theorem Stages.structs_trimmed (h : Stages decls ctx linked settled called g final)
    (h' : Stages (withoutFields ctx g decls) ctx linked' settled' called' g' final') :
    g'.enums = g.enums ∧ g'.functions = g.functions ∧
      List.Forall₂ (fun u u' => u'.nativeName = u.nativeName ∧ u'.javaType = u.javaType ∧
          ∃ d ∈ decls.structs, (∃ fields, (StructUnit.link d final).outcome = .ok (u, fields)) ∧
            (StructUnit.link (d.trimmed ctx) final').outcome = .ok (u', []) ∧
              (u'.accessors = u.accessors ↔ d.Unshadowed ctx))
        g.structs g'.structs := by
  have henums : g'.enums = g.enums := by
    obtain rfl := Except.ok.inj (h.enums.symm.trans h'.enums)
    rw [h.generated, h'.generated]
  obtain ⟨kept, hsettles⟩ := h.exists_settles
  obtain ⟨kept', hsettles'⟩ := h'.exists_settles
  have hchosen : candidates ctx (withoutFields ctx g decls).structs =
      (candidates ctx decls.structs).map (StructDecl.trimmedAmong ctx g.generatedStructs) :=
    candidates_trimmed decls.structs
  rw [henums, hchosen] at hsettles'
  have hnames := h.mem_generatedStructs hsettles
  have hagrees := hsettles.agrees_trimmed hnames hsettles'
  have hfinal := h.final_agrees
  have hfinal' := h'.final_agrees.trans hagrees
  refine ⟨henums, (h.functions_eq_iff h' hagrees rfl).2 rfl, ?_⟩
  rw [h.generated, h'.generated]
  refine (hsettles.units_trimmed hnames hsettles').imp fun u u' hboth => ?_
  obtain ⟨d, hd, fields, fields', hlink, hlink'⟩ := hboth
  have htrimmed := hlink'
  rw [d.trimmed_congr ctx settled.ctx] at htrimmed
  obtain ⟨hname, htype, rfl, haccessors⟩ := StructUnit.trimmed_of_link hlink htrimmed
  rw [← StructUnit.link_congr hfinal] at hlink
  rw [← StructUnit.link_congr hfinal'] at hlink'
  exact ⟨hname, htype, d, (List.mem_filter.1 hd).1, ⟨fields, hlink⟩, hlink',
    haccessors.trans (d.unshadowed_congr settled.ctx ctx)⟩

/-! ## What is reported -/

/-- The structs that fail are reported as structs. -/
theorem Rounds.kind_of_failed {n : Nat} {c : Context} {ds : List StructDecl} {settled : Settled}
    (h : Rounds n c ds settled) : ∀ s ∈ settled.failed, s.kind = .record := by
  induction h with
  | last _ _ => exact List.forall_mem_nil _
  | again _ _ _ ih =>
    intro s hs
    rcases List.mem_append.1 hs with hs | hs
    · obtain ⟨f, -, rfl⟩ := List.mem_map.1 hs
      rfl
    · exact ih s hs

/-- Everything is reported as what it is. -/
theorem Stages.kinds (h : Stages decls ctx linked settled called g final) :
    (∀ s ∈ failures linked, s.kind = .enumeration) ∧ (∀ s ∈ settled.failed, s.kind = .record) ∧
      (∀ s ∈ settled.fields, s.kind = .field) ∧ ∀ s ∈ failures called, s.kind = .function := by
  obtain ⟨kept, hsettles⟩ := h.exists_settles
  obtain ⟨n, hrounds, -⟩ := rounds_of_settle h.structs
  exact ⟨h.kind_of_enum, hrounds.kind_of_failed, hsettles.fields, h.kind_of_function⟩

/-- Reports of one kind are all or none of another. -/
theorem filter_kind {ss : List Skipped} {kind : DeclKind} (hss : ∀ s ∈ ss, s.kind = kind)
    (k : DeclKind) : (ss.filter fun s => s.kind = k) = if kind = k then ss else [] := by
  split
  · next hkind =>
    exact List.filter_eq_self.2 fun s hs => decide_eq_true ((hss s hs).trans hkind)
  · next hkind =>
    exact List.filter_eq_nil_iff.2 fun s hs hk =>
      hkind ((hss s hs).symm.trans (of_decide_eq_true hk))

/-- What is reported of functions is reported where these are linked, what is reported of fields in the
last round, and what is reported of structs in the rounds before. -/
theorem Stages.skipped_of_kind (h : Stages decls ctx linked settled called g final) :
    (g.skipped.filter fun s => s.kind = .function) = failures called ∧
      (g.skipped.filter fun s => s.kind = .field) = settled.fields ∧
      (g.skipped.filter fun s => s.kind = .record) = settled.failed := by
  obtain ⟨henums, hfailed, hfields, hcalled⟩ := h.kinds
  rw [h.generated]
  simp only [List.filter_append, filter_kind henums, filter_kind hfailed, filter_kind hfields,
    filter_kind hcalled, reduceCtorEq, if_true, if_false, List.nil_append, List.append_nil, and_self]

/-- The functions that are reported are those that are skipped. -/
theorem Stages.reported_functions (h : Stages decls ctx linked settled called g final) :
    (g.skipped.filter fun s => s.kind = .function).map Skipped.name =
      (decls.functions.filter (skips ctx)).map FunctionDecl.name := by
  have hlinks : ∀ named : FunctionDecl × String,
      (Operation.callNative named.1).links settled.ctx = (Operation.callNative named.1).links ctx :=
    fun named => Operation.links_congr (.call named.1) _ _
  have hfailures := failures_map (f := linkNamed settled.ctx)
    (p := fun named => (Operation.callNative named.1).links ctx)
    (fun named hok => linkNamed_ok ((hlinks named).trans hok))
    (fun named hno => linkNamed_error ((hlinks named).trans hno)) (namedFunctions ctx decls.functions)
  rw [h.skipped_of_kind.1, h.called_eq]
  have hnames := map_eq_map_of_forall₂ hfailures fun named s hs => (reported_of_linkNamed hs).2.symm
  have hrow := map_fst_filter_numberRow (methodBase ctx) (fun d => !(Operation.callNative d).links ctx)
    (ctx.asked ctx.containerType.plain) (wanted ctx decls.functions)
  have hskips : (wanted ctx decls.functions).filter (fun d => !(Operation.callNative d).links ctx) =
      decls.functions.filter (skips ctx) := by
    rw [wanted, List.filter_filter]
    exact List.filter_congr fun d _ => Bool.and_comm _ _
  rw [← hnames, ← hskips, ← hrow, List.map_map]
  rfl

/-- The structs that are left after the last round have linked under the last context, and the fields
that these skip are reported. -/
theorem Rounds.exists_linked {n : Nat} {c : Context} {ds : List StructDecl} {settled : Settled}
    (h : Rounds n c ds settled) : ∃ (left : String → Bool) (results : List (StructUnit × List Skipped)),
      List.Forall₂ (fun d result => (StructUnit.link d settled.ctx).outcome = .ok result)
        (ds.filter fun d => left d.name) results ∧
      settled.units = results.map Prod.fst ∧ settled.fields = results.flatMap Prod.snd := by
  induction h with
  | last hround hnone =>
    refine ⟨fun _ => true, _, ?_, rfl, rfl⟩
    rw [List.filter_eq_self.2 fun _ _ => rfl]
    exact Stage.units_of_last hround hnone
  | @again n c ds results settled _ _ _ ih =>
    obtain ⟨left, linked, hlinked, hunits, hfields⟩ := ih
    refine ⟨fun name => left name && !((failures results).map FailedStruct.name).contains name,
      linked, ?_, hunits, hfields⟩
    rw [survivors, List.filter_filter] at hlinked
    exact hlinked

/-- The structs that are generated have linked under the context behind the structs, and the fields that
they skip are reported. -/
theorem Stages.structs_results (h : Stages decls ctx linked settled called g final) :
    ∃ results : List (StructUnit × List Skipped),
      List.Forall₂ (fun d result => (StructUnit.link d settled.ctx).outcome = .ok result)
        (decls.structs.filter fun d => d.name ∈ g.generatedStructs) results ∧
      g.structs = results.map Prod.fst ∧ settled.fields = results.flatMap Prod.snd := by
  obtain ⟨kept, hsettles⟩ := h.exists_settles
  obtain ⟨n, hrounds, -⟩ := rounds_of_settle h.structs
  obtain ⟨left, results, hlinked, hunits, hfields⟩ := hrounds.exists_linked
  have hnames := h.mem_generatedStructs hsettles
  have hstructs : g.structs = results.map Prod.fst := by rw [h.generated, ← hunits]
  -- the structs that are left are those that are generated
  have hleft : ∀ d ∈ candidates ctx decls.structs, left d.name = decide (d.name ∈ kept) := by
    have hgenerated : g.generatedStructs =
        ((candidates ctx decls.structs).filter fun d => left d.name).map StructDecl.name := by
      rw [generatedStructs, hstructs, List.map_map]
      refine (map_eq_map_of_forall₂ hlinked fun d result hlink => ?_).symm
      obtain ⟨w, hw⟩ := StructUnit.exists_wrapper_of_link hlink
      exact (named_of_link hw hlink).1.symm
    intro d hd
    rw [Bool.eq_iff_iff, decide_eq_true_iff, ← hnames, hgenerated, List.mem_map]
    constructor
    · intro hmem
      exact ⟨d, List.mem_filter.2 ⟨hd, hmem⟩, rfl⟩
    · rintro ⟨d', hd', hname⟩
      rw [← hname]
      exact (List.mem_filter.1 hd').2
  rw [List.filter_congr hleft, filter_candidates ctx decls.structs hsettles.subset] at hlinked
  simp only [hnames]
  exact ⟨results, hlinked, hstructs, hfields⟩

/-- The fields that are reported are those without accessors of the structs that are generated. -/
theorem Stages.reported_fields (h : Stages decls ctx linked settled called g final) :
    (g.skipped.filter fun s => s.kind = .field).map Skipped.name =
      (decls.structs.filter fun d => d.name ∈ g.generatedStructs).flatMap fun d =>
        (d.fields.filter fun f => !f.accessible d.recordType ctx).map fun f =>
          d.name ++ "." ++ f.name := by
  obtain ⟨results, hlinked, -, hfields⟩ := h.structs_results
  have hreported : ∀ d result, (StructUnit.link d settled.ctx).outcome = .ok result →
      result.2.map Skipped.name =
        (d.fields.filter fun f => !f.accessible d.recordType ctx).map fun f =>
          d.name ++ "." ++ f.name := by
    intro d result hlink
    obtain ⟨w, hw⟩ := StructUnit.exists_wrapper_of_link hlink
    rw [d.accessible_congr ctx settled.ctx]
    exact StructUnit.fields_reported hw hlink
  rw [h.skipped_of_kind.2.1, hfields, List.map_flatMap, List.flatMap_def, List.flatMap_def]
  exact congrArg List.flatten (map_eq_map_of_forall₂ hlinked fun d result hlink =>
    (hreported d result hlink).symm).symm

/-! ## Two runs -/

/-- The first round is the last one if nothing fails in it. -/
theorem settle_of_none_failed {c : Context} {ds : List StructDecl}
    {results : List (Except FailedStruct (StructUnit × List Skipped))}
    (hround : (ds.mapM (tryStruct c)).outcome = .ok results) (hnone : failures results = []) :
    (settle c ds).outcome =
      .ok ⟨(successes results).map Prod.fst, [], (successes results).flatMap Prod.snd, c⟩ := by
  have hless : ¬ (survivors ds (failures results)).length < ds.length := fun hless =>
    (length_survivors_lt_iff hround).1 hless hnone
  rw [settle, Logged.outcome_bind, hround]
  show Logged.outcome (dite _ _ _) = _
  rw [dif_neg hless]
  rfl

/-- A run ends with what its stages give. -/
theorem run_of_stages (h : Stages decls ctx linked settled called g final) :
    (run decls ctx).outcome = .ok (g, final) := by
  obtain ⟨g', final', hrun⟩ := exists_run decls ctx
  obtain ⟨linked', settled', called', h'⟩ := stages_of_run hrun
  obtain rfl := Except.ok.inj (h.enums.symm.trans h'.enums)
  obtain rfl := Except.ok.inj (h.structs.symm.trans h'.structs)
  obtain ⟨rfl, rfl⟩ := Prod.mk.inj (Except.ok.inj (h.functions.symm.trans h'.functions))
  rw [hrun, h.generated, h'.generated]

/-- A run that ends reports the functions and the fields that it skips.  Without these functions it gives
the same enums and structs, and the same functions exactly if none of them asks for the name of one that
is generated after it.  Without these fields it gives the same enums and functions, and every struct
again, with the same accessors exactly if none of its fields that are skipped asks for the name of an
accessor of a later one. -/
theorem skipping_traceless_iff (decls : Declarations) (ctx : Context) :
    ∃ g final, (run decls ctx).outcome = .ok (g, final) ∧
      ((g.skipped.filter fun s => s.kind = .function).map Skipped.name =
          (decls.functions.filter (skips ctx)).map FunctionDecl.name ∧
        ∃ g' final', (run { decls with functions := unskipped ctx decls.functions } ctx).outcome =
            .ok (g', final') ∧
          g'.enums = g.enums ∧ g'.structs = g.structs ∧
            (g'.functions = g.functions ↔ Unshadowed ctx decls.functions)) ∧
      (g.skipped.filter fun s => s.kind = .field).map Skipped.name =
          ((decls.structs.filter fun d => d.name ∈ g.generatedStructs).flatMap fun d =>
            (d.fields.filter fun f => !f.accessible d.recordType ctx).map fun f =>
              d.name ++ "." ++ f.name) ∧
        ∃ g' final', (run (withoutFields ctx g decls) ctx).outcome = .ok (g', final') ∧
          g'.enums = g.enums ∧ g'.functions = g.functions ∧
            List.Forall₂ (fun u u' => u'.nativeName = u.nativeName ∧ u'.javaType = u.javaType ∧
                ∃ d ∈ decls.structs,
                  (∃ fields, (StructUnit.link d final).outcome = .ok (u, fields)) ∧
                  (StructUnit.link (d.trimmed ctx) final').outcome = .ok (u', []) ∧
                  (u'.accessors = u.accessors ↔ d.Unshadowed ctx))
              g.structs g'.structs := by
  obtain ⟨g, final, hrun⟩ := exists_run decls ctx
  obtain ⟨linked, settled, called, hstages⟩ := stages_of_run hrun
  refine ⟨g, final, hrun, ⟨hstages.reported_functions, ?_⟩, hstages.reported_fields, ?_⟩
  · obtain ⟨g', final', hrun'⟩ :=
      exists_run { decls with functions := unskipped ctx decls.functions } ctx
    obtain ⟨linked', settled', called', hstages'⟩ := stages_of_run hrun'
    exact ⟨g', final', hrun', hstages.functions_unskipped_iff hstages'⟩
  · obtain ⟨g', final', hrun'⟩ := exists_run (withoutFields ctx g decls) ctx
    obtain ⟨linked', settled', called', hstages'⟩ := stages_of_run hrun'
    exact ⟨g', final', hrun', hstages.structs_trimmed hstages'⟩

/-- A function that is skipped has taken the name of the one after it, and a field has taken those of the
accessors of the one after it. -/
theorem skipping_leaves_names :
    (∃ g final g' final',
      (run { functions := [⟨"f", .ofScalar .longDouble "long double", []⟩, ⟨"g", .void, []⟩] }
          { package := "geo", container := "Native",
            rules := { methods := [⟨fun _ => true, { nameOverride := some "m" }⟩] } }).outcome =
          .ok (g, final) ∧
        (run { functions := [⟨"g", .void, []⟩] }
          { package := "geo", container := "Native",
            rules := { methods := [⟨fun _ => true, { nameOverride := some "m" }⟩] } }).outcome =
          .ok (g', final') ∧
        g.skipped.map Skipped.name = ["f"] ∧
        g.functions.map (fun f => f.method.javaMethod.name) = ["m2"] ∧
        g'.functions.map (fun f => f.method.javaMethod.name) = ["m"]) ∧
      ∃ g final g' final',
        (run { structs := [⟨"S", [⟨"x", .ofScalar .longDouble "long double"⟩,
            ⟨"X", .ofScalar .int "int"⟩]⟩] }
          { package := "geo", container := "Native" }).outcome = .ok (g, final) ∧
        (run { structs := [⟨"S", [⟨"X", .ofScalar .int "int"⟩]⟩] }
          { package := "geo", container := "Native" }).outcome = .ok (g', final') ∧
        g.skipped.map Skipped.name = ["S.x"] ∧
        g.structs.flatMap (fun u => u.accessors.map fun a => a.getter.javaMethod.name) = ["getX2"] ∧
        g'.structs.flatMap (fun u => u.accessors.map fun a => a.getter.javaMethod.name) = ["getX"] := by
  constructor
  · exact ⟨_, _, _, _, run_of_stages ⟨rfl, settle_of_none_failed rfl rfl, rfl, rfl⟩,
      run_of_stages ⟨rfl, settle_of_none_failed rfl rfl, rfl, rfl⟩, rfl, rfl, rfl⟩
  · exact ⟨_, _, _, _, run_of_stages ⟨rfl, settle_of_none_failed rfl rfl, rfl, rfl⟩,
      run_of_stages ⟨rfl, settle_of_none_failed rfl rfl, rfl, rfl⟩, rfl, rfl, rfl⟩

end Generation

end JniBridge
