import Mathlib.Data.List.Perm.Basic
import JniBridge.Proofs.Traceless
/-
The order in which structs and enums are declared does not matter.

1. All members of a round are linked under the same registry, and only then are those withdrawn that
   fail.  So rounds over lists that are permutations of each other, under contexts that agree, give the
   same results in another order (`results_perm`).
2. What such rounds leave is again a permutation, and the contexts agree once more, whichever of the
   failed structs is withdrawn first (`survivors_perm`, `withdraw_agrees`).
3. So the loops run side by side, round for round, and end with the same units, reports and registries
   (`Rounds.settled_perm`).

Functions are linked in the order in which they are declared, under what is registered in the end, so
nothing of them changes (`run_perm`).
-/

namespace JniBridge

namespace Generation

/-! ## One round -/

section round

variable {c c' : Context} {ds ds' : List StructDecl}

/-- Contexts that agree try a struct in the same way. -/
theorem tryStruct_congr (h : c.Agrees c') : tryStruct c = tryStruct c' := by
  funext d
  rw [tryStruct, tryStruct, StructUnit.link_congr h]

/-- What is computed from the members of a list one by one is permuted with them. -/
theorem outcomes_perm {α β : Type} {f : α → Logged β} {xs xs' : List α} {ys ys' : List β}
    (hperm : xs.Perm xs') (h : (xs.mapM f).outcome = .ok ys) (h' : (xs'.mapM f).outcome = .ok ys') :
    ys.Perm ys' := by
  have hunique : Relator.RightUnique fun x y => (f x).outcome = .ok y := by
    intro x y z hy hz
    exact Except.ok.inj (hy.symm.trans hz)
  exact List.rel_perm_imp hunique (forall₂_of_mapM_eq_ok h) (forall₂_of_mapM_eq_ok h') hperm

theorem results_perm {results results' : List (Except FailedStruct (StructUnit × List Skipped))}
    (hagrees : c.Agrees c') (hperm : ds.Perm ds') (h : (ds.mapM (tryStruct c)).outcome = .ok results)
    (h' : (ds'.mapM (tryStruct c')).outcome = .ok results') : results.Perm results' := by
  rw [← tryStruct_congr hagrees] at h'
  exact outcomes_perm hperm h h'

theorem successes_perm {ε α : Type} {rs rs' : List (Except ε α)} (h : rs.Perm rs') :
    (successes rs).Perm (successes rs') :=
  h.filterMap _

theorem failures_perm {ε α : Type} {rs rs' : List (Except ε α)} (h : rs.Perm rs') :
    (failures rs).Perm (failures rs') :=
  h.filterMap _

variable {failed failed' : List FailedStruct}

/-- The same structs survive, whichever of the others is dropped first. -/
theorem survivors_perm (hperm : ds.Perm ds') (hfailed : failed.Perm failed') :
    (survivors ds failed).Perm (survivors ds' failed') := by
  have hdropped : ∀ d : StructDecl, (failed.map FailedStruct.name).contains d.name =
      (failed'.map FailedStruct.name).contains d.name := fun d =>
    (hfailed.map FailedStruct.name).contains_eq
  have hsame : survivors ds failed = survivors ds failed' :=
    List.filter_congr fun d _ => by rw [hdropped]
  rw [hsame]
  exact hperm.filter _

/-- The same wrappers are left, whichever of the others is withdrawn first. -/
theorem withdraw_agrees (hagrees : c.Agrees c') (hfailed : failed.Perm failed') :
    (withdraw c failed).Agrees (withdraw c' failed') := by
  have hwrapper : ∀ record, (withdraw c failed).wrapper? record =
      (withdraw c' failed').wrapper? record := by
    intro record
    have hleft : (withdraw c failed).wrapper? record = _ :=
      Context.wrapper?_unregisterEach FailedStruct.name c failed record
    have hleft' : (withdraw c' failed').wrapper? record = _ :=
      Context.wrapper?_unregisterEach FailedStruct.name c' failed' record
    rw [hleft, hleft', hagrees.wrapper]
    simp only [(hfailed.map FailedStruct.name).mem_iff]
  obtain ⟨structs, hwithdraw⟩ := withdraw_eq c failed
  obtain ⟨structs', hwithdraw'⟩ := withdraw_eq c' failed'
  rw [hwithdraw, hwithdraw'] at hwrapper ⊢
  exact hagrees.withStructs hwrapper

end round

/-! ## All rounds -/

/-- What two loops over the structs settle on is the same, up to the order. -/
structure Settled.Permuted (s s' : Settled) : Prop where
  units : s.units.Perm s'.units
  failed : s.failed.Perm s'.failed
  fields : s.fields.Perm s'.fields
  ctx : s.ctx.Agrees s'.ctx

/-- Loops over the same structs in another order run side by side. -/
theorem Rounds.settled_perm {n n' : Nat} {c c' : Context} {ds ds' : List StructDecl}
    {settled settled' : Settled} (h : Rounds n c ds settled) (h' : Rounds n' c' ds' settled')
    (hagrees : c.Agrees c') (hperm : ds.Perm ds') : settled.Permuted settled' := by
  -- on the rounds of the one, with the other one doing the same in each
  induction h generalizing n' c' ds' settled' with
  | last round none_failed =>
    cases h' with
    | last round' none_failed' =>
      have hlinked := successes_perm (results_perm hagrees hperm round round')
      exact ⟨hlinked.map _, .nil, hlinked.flatMap_right _, hagrees⟩
    | again round' some_failed' _ =>
      have hfailed := failures_perm (results_perm hagrees hperm round round')
      rw [none_failed] at hfailed
      exact absurd hfailed.nil_eq.symm some_failed'
  | again round some_failed _ ih =>
    cases h' with
    | last round' none_failed' =>
      have hfailed := failures_perm (results_perm hagrees hperm round round')
      rw [none_failed'] at hfailed
      exact absurd hfailed.eq_nil some_failed
    | again round' some_failed' rest' =>
      have hfailed := failures_perm (results_perm hagrees hperm round round')
      have hrest := ih rest' (withdraw_agrees hagrees hfailed) (survivors_perm hperm hfailed)
      exact ⟨hrest.units, (hfailed.map _).append hrest.failed, hrest.fields, hrest.ctx⟩

/-! ## What is registered -/

/-- Enums are known, whichever is registered first. -/
theorem registerEnums_agrees (ctx : Context) {units units' : List EnumUnit}
    (hperm : units.Perm units') : (registerEnums ctx units).Agrees (registerEnums ctx units') := by
  rw [registerEnums_eq, registerEnums_eq]
  refine ⟨rfl, rfl, rfl, fun enumeration => ?_, fun _ => rfl⟩
  have hnames : (units.map EnumUnit.nativeName).reverse.Perm
      (units'.map EnumUnit.nativeName).reverse :=
    (List.reverse_perm _).trans ((hperm.map _).trans (List.reverse_perm _).symm)
  exact (hnames.append_right ctx.enums).contains_eq

/-- A struct has the wrapper of its name, whichever is registered first. -/
theorem registerStructs_perm {c c' : Context} {ds ds' : List StructDecl} (hagrees : c.Agrees c')
    (hrules : c.rules = c'.rules) (hperm : ds.Perm ds') :
    (registerStructs c ds).Agrees (registerStructs c' ds') := by
  have hwrapper : ∀ record, (registerStructs c ds).wrapper? record =
      (registerStructs c' ds').wrapper? record := by
    intro record
    have hregistered : (registerStructs c ds).wrapper? record = _ :=
      Context.wrapper?_registerEach StructDecl.name c ds record (wrapperFor c)
    have hregistered' : (registerStructs c' ds').wrapper? record = _ :=
      Context.wrapper?_registerEach StructDecl.name c' ds' record (wrapperFor c')
    have hfor : wrapperFor c record = wrapperFor c' record := by
      rw [wrapperFor, wrapperFor, hrules, Linking.nestedType_congr hagrees]
    rw [hregistered, hregistered', hagrees.wrapper, hfor]
    simp only [(hperm.map StructDecl.name).mem_iff]
  obtain ⟨structs, hregister⟩ := registerStructs_eq c ds
  obtain ⟨structs', hregister'⟩ := registerStructs_eq c' ds'
  rw [hregister, hregister'] at hwrapper ⊢
  exact hagrees.withStructs hwrapper

/-! ## The run -/

/-- The declarations are the same, but structs and enums may come in another order. -/
structure Reordered (decls decls' : Declarations) : Prop where
  functions : decls'.functions = decls.functions
  structs : decls.structs.Perm decls'.structs
  enums : decls.enums.Perm decls'.enums

variable {decls decls' : Declarations} {ctx : Context} {linked linked' : List (Except Skipped EnumUnit)}
  {settled settled' : Settled} {called called' : List (Except Skipped FunctionUnit)}
  {g g' : Generation} {final final' : Context}

theorem Stages.linked_perm (h : Stages decls ctx linked settled called g final)
    (h' : Stages decls' ctx linked' settled' called' g' final') (hsame : Reordered decls decls') :
    linked.Perm linked' :=
  outcomes_perm hsame.enums h.enums h'.enums

/-- The structs settle on the same, up to the order. -/
theorem Stages.settled_perm (h : Stages decls ctx linked settled called g final)
    (h' : Stages decls' ctx linked' settled' called' g' final') (hsame : Reordered decls decls') :
    settled.Permuted settled' := by
  have hchosen : (candidates ctx decls.structs).Perm (candidates ctx decls'.structs) :=
    hsame.structs.filter _
  have henums := registerEnums_agrees ctx (successes_perm (h.linked_perm h' hsame))
  have hrules : (registerEnums ctx (successes linked)).rules =
      (registerEnums ctx (successes linked')).rules := by
    rw [registerEnums_eq, registerEnums_eq]
  obtain ⟨n, hrounds, -⟩ := rounds_of_settle h.structs
  obtain ⟨n', hrounds', -⟩ := rounds_of_settle h'.structs
  exact hrounds.settled_perm hrounds' (registerStructs_perm henums hrules hchosen) hchosen

/-- The functions are called as before, and linked as before. -/
theorem Stages.called_eq_of_reordered (h : Stages decls ctx linked settled called g final)
    (h' : Stages decls' ctx linked' settled' called' g' final') (hsame : Reordered decls decls') :
    called' = called := by
  have hagrees := (h.settled_perm h' hsame).ctx
  rw [h.called_eq, h'.called_eq, hsame.functions,
    linkNamed_congr hagrees (h.rules_eq.trans h'.rules_eq.symm)]

/-- Declared in another order, structs and enums give the same run up to that order: the same functions,
the same units and reports, and the same registries. -/
theorem run_perm (hsame : Reordered decls decls') (ctx : Context) :
    ∃ g final g' final', (run decls ctx).outcome = .ok (g, final) ∧
      (run decls' ctx).outcome = .ok (g', final') ∧
      g'.functions = g.functions ∧ g.enums.Perm g'.enums ∧ g.structs.Perm g'.structs ∧
      g.skipped.Perm g'.skipped ∧
      (∀ record, final'.wrapper? record = final.wrapper? record) ∧
      ∀ enumeration, final'.hasEnum enumeration = final.hasEnum enumeration := by
  obtain ⟨g, final, hrun⟩ := exists_run decls ctx
  obtain ⟨g', final', hrun'⟩ := exists_run decls' ctx
  obtain ⟨linked, settled, called, h⟩ := stages_of_run hrun
  obtain ⟨linked', settled', called', h'⟩ := stages_of_run hrun'
  have hlinked := h.linked_perm h' hsame
  have hsettled := h.settled_perm h' hsame
  obtain rfl := h.called_eq_of_reordered h' hsame
  have hfinal : final'.Agrees final :=
    h'.final_agrees.trans (hsettled.ctx.symm.trans h.final_agrees.symm)
  refine ⟨g, final, g', final', hrun, hrun', ?_, ?_, ?_, ?_, hfinal.wrapper, hfinal.enums⟩
  · rw [h.generated, h'.generated]
  · rw [h.generated, h'.generated]
    exact successes_perm hlinked
  · rw [h.generated, h'.generated]
    exact hsettled.units
  · rw [h.generated, h'.generated]
    have hstructs := ((failures_perm hlinked).append hsettled.failed).append hsettled.fields
    exact hstructs.append_right _

/-- A struct may be declared before or after the one that it holds. -/
theorem run_perm_picture :
    Reordered
        { structs := [⟨"Picture", [⟨"corner", .ofRecord "Point"⟩]⟩, ⟨"Point", []⟩] }
        { structs := [⟨"Point", []⟩, ⟨"Picture", [⟨"corner", .ofRecord "Point"⟩]⟩] } ∧
      ∃ g final g' final',
        (run { structs := [⟨"Picture", [⟨"corner", .ofRecord "Point"⟩]⟩, ⟨"Point", []⟩] }
          { package := "geo", container := "Native" }).outcome = .ok (g, final) ∧
        (run { structs := [⟨"Point", []⟩, ⟨"Picture", [⟨"corner", .ofRecord "Point"⟩]⟩] }
          { package := "geo", container := "Native" }).outcome = .ok (g', final') ∧
        g'.functions = g.functions ∧ g.enums.Perm g'.enums ∧ g.structs.Perm g'.structs ∧
        g.skipped.Perm g'.skipped ∧
        (∀ record, final'.wrapper? record = final.wrapper? record) ∧
        ∀ enumeration, final'.hasEnum enumeration = final.hasEnum enumeration := by
  have hsame : Reordered
      { structs := [⟨"Picture", [⟨"corner", .ofRecord "Point"⟩]⟩, ⟨"Point", []⟩] }
      { structs := [⟨"Point", []⟩, ⟨"Picture", [⟨"corner", .ofRecord "Point"⟩]⟩] } :=
    ⟨rfl, List.Perm.swap _ _ _, .nil⟩
  exact ⟨hsame, run_perm hsame { package := "geo", container := "Native" }⟩

end Generation

end JniBridge
