import Mathlib.Data.Finset.Card
import JniBridge.Proofs.Totality
/-
A run that has ended, taken apart.

`Stages` names what each stage of a run answered: the enums, the rounds over the structs, the functions.
`Rounds` is the loop over the structs as a relation, one constructor for the last round and one for a
round in which some structs fail, and it counts the rounds.  A round in which structs fail loses at
least one name, so there is at most one round more than there are names (`rounds_of_settle`).
-/

namespace JniBridge

namespace Generation

/-! ## One declaration -/

section declaration

variable {c : Context}

/-- An enum is linked or reported. -/
theorem linked_of_linkEnum {d : EnumDecl} {r : Except Skipped EnumUnit}
    (h : (linkEnum d).outcome = .ok r) :
    (∃ unit, r = .ok unit ∧ EnumUnit.ofDecl d = .ok unit) ∨
      ∃ e, r = .error ⟨.enumeration, d.name, e⟩ := by
  obtain ⟨attempt, hattempt, h⟩ := exists_of_bind_eq_ok h
  have hlink := outcome_of_attempt hattempt
  cases attempt with
  | ok unit =>
    obtain ⟨_, -, h⟩ := exists_of_bind_eq_ok h
    exact Or.inl ⟨unit, (Except.ok.inj h).symm, hlink⟩
  | error e =>
    obtain ⟨s, hs, h⟩ := exists_of_bind_eq_ok h
    rw [(skip_ends _ _ _).of_ok hs] at h
    exact Or.inr ⟨e, (Except.ok.inj h).symm⟩

/-- A field is linked or reported. -/
theorem linked_of_linkField {d : StructDecl} {javaType : JavaType} {f : StructUnit.NamedField}
    {r : Except Skipped FieldAccessors}
    (h : (StructUnit.linkField c d javaType f).outcome = .ok r) :
    (∃ a, r = .ok a ∧ (StructUnit.linkAccessors c d.recordType javaType f).outcome = .ok a) ∨
      ∃ e, r = .error ⟨.field, d.name ++ "." ++ f.field.name, e⟩ := by
  obtain ⟨attempt, hattempt, h⟩ := exists_of_bind_eq_ok h
  have hlink := outcome_of_attempt hattempt
  cases attempt with
  | ok accessors => exact Or.inl ⟨accessors, (Except.ok.inj h).symm, hlink⟩
  | error e =>
    obtain ⟨_, -, h⟩ := exists_of_bind_eq_ok h
    exact Or.inr ⟨e, (Except.ok.inj h).symm⟩

/-- What a struct contributes to a round is how its own linking ended. -/
theorem linked_of_tryStruct {d : StructDecl}
    {r : Except FailedStruct (StructUnit × List Skipped)} (h : (tryStruct c d).outcome = .ok r) :
    (∃ linked, r = .ok linked ∧ (StructUnit.link d c).outcome = .ok linked) ∨
      ∃ e, r = .error ⟨d.name, e⟩ ∧ (StructUnit.link d c).outcome = .error e := by
  obtain ⟨attempt, hattempt, h⟩ := exists_of_bind_eq_ok h
  have hlink := outcome_of_attempt hattempt
  cases attempt with
  | ok linked => exact Or.inl ⟨linked, (Except.ok.inj h).symm, hlink⟩
  | error e => exact Or.inr ⟨e, (Except.ok.inj h).symm, hlink⟩

/-- A function is linked or reported. -/
theorem linked_of_linkFunction {d : FunctionDecl} {javaName : String} {exposeRaw : Bool}
    {r : Except Skipped FunctionUnit} (h : (linkFunction c d javaName exposeRaw).outcome = .ok r) :
    (∃ f, r = .ok f ∧ (FunctionUnit.link d javaName exposeRaw c).outcome = .ok f) ∨
      ∃ e, r = .error ⟨.function, d.name, e⟩ := by
  obtain ⟨attempt, hattempt, h⟩ := exists_of_bind_eq_ok h
  have hlink := outcome_of_attempt hattempt
  cases attempt with
  | ok f =>
    obtain ⟨_, -, h⟩ := exists_of_bind_eq_ok h
    exact Or.inl ⟨f, (Except.ok.inj h).symm, hlink⟩
  | error e =>
    obtain ⟨s, hs, h⟩ := exists_of_bind_eq_ok h
    rw [(skip_ends _ _ _).of_ok hs] at h
    exact Or.inr ⟨e, (Except.ok.inj h).symm⟩

/-- Functions are linked under contexts that differ from the first in the names asked for. -/
theorem linked_of_linkFunctions {final : Context} {ds : List FunctionDecl}
    {called : List (Except Skipped FunctionUnit)}
    (h : (linkFunctions c ds).outcome = .ok (called, final)) :
    ∀ r ∈ called, ∃ d ∈ ds, ∃ requested javaName exposeRaw,
      (linkFunction { c with requested } d javaName exposeRaw).outcome = .ok r := by
  induction ds generalizing c called with
  | nil =>
    obtain ⟨rfl, -⟩ := Prod.mk.inj (Except.ok.inj h)
    exact List.forall_mem_nil _
  | cons d ds ih =>
    rw [linkFunctions] at h
    by_cases hgenerates : (c.rules.methodRule d.name).generates
    · simp only [hgenerates, if_true] at h
      obtain ⟨result, hresult, h⟩ := exists_of_bind_eq_ok h
      obtain ⟨⟨rest, last⟩, hrest, h⟩ := exists_of_bind_eq_ok h
      obtain ⟨rfl, rfl⟩ := Prod.mk.inj (Except.ok.inj h)
      refine List.forall_mem_cons.2 ⟨⟨d, List.mem_cons_self, _, _, _, hresult⟩, fun r hr => ?_⟩
      obtain ⟨d', hd', requested, hlinked⟩ := ih hrest r hr
      exact ⟨d', List.mem_cons_of_mem _ hd', requested, hlinked⟩
    · simp only [hgenerates] at h
      obtain ⟨_, -, h⟩ := exists_of_bind_eq_ok h
      intro r hr
      obtain ⟨d', hd', hlinked⟩ := ih h r hr
      exact ⟨d', List.mem_cons_of_mem _ hd', hlinked⟩

end declaration

/-! ## The rounds -/

/-- The names of structs. -/
def structNames (ds : List StructDecl) : Finset String := (ds.map StructDecl.name).toFinset

theorem mem_structNames {ds : List StructDecl} {name : String} :
    name ∈ structNames ds ↔ ∃ d ∈ ds, d.name = name := by
  simp [structNames]

/-- The report of a struct that failed. -/
def FailedStruct.report (f : FailedStruct) : Skipped := ⟨.record, f.name, f.reason⟩

/-- The loop over the structs ends after a number of rounds: in the last one nothing fails, and after
any other one the loop goes on without the structs that failed, and without their wrappers. -/
inductive Rounds : Nat → Context → List StructDecl → Settled → Prop
  | last {c ds results} (round : (ds.mapM (tryStruct c)).outcome = .ok results)
    (none_failed : failures results = []) :
    Rounds 1 c ds ⟨(successes results).map Prod.fst, [], (successes results).flatMap Prod.snd, c⟩
  | again {n c ds results settled} (round : (ds.mapM (tryStruct c)).outcome = .ok results)
    (some_failed : failures results ≠ [])
    (rest : Rounds n (withdraw c (failures results)) (survivors ds (failures results)) settled) :
    Rounds (n + 1) c ds
      { settled with failed := (failures results).map FailedStruct.report ++ settled.failed }

section round

variable {c : Context} {ds : List StructDecl}
  {results : List (Except FailedStruct (StructUnit × List Skipped))}

/-- Whoever fails in a round takes part in it. -/
theorem mem_of_mem_failures (h : (ds.mapM (tryStruct c)).outcome = .ok results) :
    ∀ f ∈ failures results, ∃ d ∈ ds, d.name = f.name ∧
      (StructUnit.link d c).outcome = .error f.reason := by
  intro f hf
  obtain ⟨r, hr, hsome⟩ := List.mem_filterMap.1 hf
  obtain ⟨d, hd, hround⟩ := exists_mem_of_forall₂ (forall₂_of_mapM_eq_ok h) r hr
  rcases linked_of_tryStruct hround with ⟨linked, rfl, -⟩ | ⟨e, rfl, hlink⟩
  · exact nomatch hsome
  · obtain rfl := Option.some.inj hsome
    exact ⟨d, hd, rfl, hlink⟩

theorem mem_survivors {failed : List FailedStruct} {d : StructDecl} :
    d ∈ survivors ds failed ↔ d ∈ ds ∧ d.name ∉ failed.map FailedStruct.name := by
  rw [survivors, List.mem_filter]
  simp

/-- A round in which something fails loses a name. -/
theorem structNames_survivors_ssubset (h : (ds.mapM (tryStruct c)).outcome = .ok results)
    (hfailed : failures results ≠ []) :
    structNames (survivors ds (failures results)) ⊂ structNames ds := by
  obtain ⟨f, hf⟩ := List.exists_mem_of_ne_nil _ hfailed
  obtain ⟨d, hd, hname, -⟩ := mem_of_mem_failures h f hf
  refine Finset.ssubset_iff_subset_ne.2 ⟨fun name hmem => ?_, fun heq => ?_⟩
  · obtain ⟨d', hd', rfl⟩ := mem_structNames.1 hmem
    exact mem_structNames.2 ⟨d', (mem_survivors.1 hd').1, rfl⟩
  · -- the name that failed is not among the survivors
    have hthere : f.name ∈ structNames (survivors ds (failures results)) := by
      rw [heq]
      exact mem_structNames.2 ⟨d, hd, hname⟩
    obtain ⟨d', hd', hname'⟩ := mem_structNames.1 hthere
    refine (mem_survivors.1 hd').2 ?_
    rw [hname']
    exact List.mem_map_of_mem hf

/-- The loop goes on exactly if something has failed. -/
theorem length_survivors_lt_iff (h : (ds.mapM (tryStruct c)).outcome = .ok results) :
    (survivors ds (failures results)).length < ds.length ↔ failures results ≠ [] := by
  constructor
  · intro hless hnone
    have hall : survivors ds [] = ds := List.filter_eq_self.2 fun _ _ => rfl
    rw [hnone, hall] at hless
    exact Nat.lt_irrefl _ hless
  · intro hfailed
    obtain ⟨f, hf⟩ := List.exists_mem_of_ne_nil _ hfailed
    obtain ⟨d, hd, hname, -⟩ := mem_of_mem_failures h f hf
    refine List.length_filter_lt_length_iff_exists.2 ⟨d, hd, ?_⟩
    have hthere : d.name ∈ (failures results).map FailedStruct.name := by
      rw [hname]
      exact List.mem_map_of_mem hf
    simpa using hthere

end round

/-- Reporting the failed structs gives their reports. -/
theorem outcome_skipFailed (failed : List FailedStruct) :
    (failed.mapM fun f => skip .record f.name f.reason).outcome =
      .ok (failed.map FailedStruct.report) := by
  induction failed with
  | nil => rfl
  | cons f failed ih =>
    rw [List.mapM_cons, Logged.outcome_bind]
    show ((failed.mapM _ >>= _ : Logged _).outcome) = _
    rw [Logged.outcome_bind, ih]
    rfl

/-- What the loop settles on is what its rounds lead to, and there is at most one round more than there
are names. -/
theorem rounds_of_settle {c : Context} {ds : List StructDecl} {settled : Settled}
    (h : (settle c ds).outcome = .ok settled) :
    ∃ n, Rounds n c ds settled ∧ n ≤ (structNames ds).card + 1 := by
  -- on the number of structs, which every further round lowers
  induction hn : ds.length using Nat.strongRecOn generalizing c ds settled with
  | ind n ih =>
    subst hn
    rw [settle] at h
    obtain ⟨results, hround, h⟩ := exists_of_bind_eq_ok h
    by_cases hfailed : failures results = []
    · have hless : ¬ (survivors ds (failures results)).length < ds.length := fun hless =>
        (length_survivors_lt_iff hround).1 hless hfailed
      rw [dif_neg hless] at h
      obtain rfl := Except.ok.inj h
      exact ⟨1, .last hround hfailed, Nat.le_add_left 1 _⟩
    · have hless := (length_survivors_lt_iff hround).2 hfailed
      rw [dif_pos hless] at h
      obtain ⟨skipped, hskipped, h⟩ := exists_of_bind_eq_ok h
      obtain ⟨rest, hrest, h⟩ := exists_of_bind_eq_ok h
      obtain rfl := Except.ok.inj h
      obtain rfl := Except.ok.inj ((outcome_skipFailed _).symm.trans hskipped)
      obtain ⟨m, hrounds, hm⟩ := ih _ hless hrest rfl
      have hcard := Finset.card_lt_card (structNames_survivors_ssubset hround hfailed)
      exact ⟨m + 1, .again hround hfailed hrounds, by omega⟩

/-! ## The stages -/

/-- What the stages of a run answered on the way to what it generated. -/
structure Stages (decls : Declarations) (ctx : Context) (linked : List (Except Skipped EnumUnit))
    (settled : Settled) (called : List (Except Skipped FunctionUnit)) (g : Generation)
    (final : Context) : Prop where
  enums : (decls.enums.mapM linkEnum).outcome = .ok linked
  structs : (settle
      (registerStructs (registerEnums ctx (successes linked)) (candidates ctx decls.structs))
      (candidates ctx decls.structs)).outcome = .ok settled
  functions : (linkFunctions settled.ctx decls.functions).outcome = .ok (called, final)
  generated : g = ⟨successes linked, settled.units, successes called,
    failures linked ++ settled.failed ++ settled.fields ++ failures called⟩

/-- Registering enums adds to the enums that are known and changes nothing else. -/
theorem registerEnums_eq (ctx : Context) (units : List EnumUnit) :
    registerEnums ctx units =
      { ctx with enums := (units.map EnumUnit.nativeName).reverse ++ ctx.enums } := by
  unfold registerEnums
  induction units generalizing ctx with
  | nil => rfl
  | cons u units ih =>
    rw [List.foldl_cons, ih]
    simp [Context.registerEnum]

theorem candidates_registerEnums (ctx : Context) (units : List EnumUnit) (ds : List StructDecl) :
    candidates (registerEnums ctx units) ds = candidates ctx ds := by
  rw [registerEnums_eq]
  rfl

/-- A run that has ended went through all its stages. -/
theorem stages_of_run {decls : Declarations} {ctx : Context} {g : Generation} {final : Context}
    (h : (run decls ctx).outcome = .ok (g, final)) :
    ∃ linked settled called, Stages decls ctx linked settled called g final := by
  unfold run at h
  obtain ⟨linked, hlinked, h⟩ := exists_of_bind_eq_ok h
  obtain ⟨_, _, h⟩ := exists_of_bind_eq_ok h
  obtain ⟨settled, hsettled, h⟩ := exists_of_bind_eq_ok h
  obtain ⟨_, _, h⟩ := exists_of_bind_eq_ok h
  obtain ⟨⟨called, last⟩, hcalled, h⟩ := exists_of_bind_eq_ok h
  obtain ⟨_, _, h⟩ := exists_of_bind_eq_ok h
  obtain ⟨rfl, rfl⟩ := Prod.mk.inj (Except.ok.inj h)
  rw [candidates_registerEnums] at hsettled
  exact ⟨linked, settled, called, hlinked, hsettled, hcalled, rfl⟩

/-- Every run has an answer. -/
theorem exists_run (decls : Declarations) (ctx : Context) :
    ∃ g final, (run decls ctx).outcome = .ok (g, final) := by
  obtain ⟨⟨g, final⟩, hrun, -⟩ := (run_ends decls ctx).exists_ok
  exact ⟨g, final, hrun⟩

end Generation

end JniBridge
