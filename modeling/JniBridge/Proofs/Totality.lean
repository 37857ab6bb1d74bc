import JniBridge.Proofs.Skipping
/-
A run never aborts.

Whatever is declared, and under whatever rules, a run ends in an answer.  Three things have to be seen
for that.

1. Linking what Java asks for is refused or succeeds, and then the code around it can be written
   (`DowncallUnit.link_ends`).
2. In every round of `settle`, every struct that is left still has its wrapper (`settle_ends`): only the
   wrappers of failed structs are withdrawn, and a name that failed is left out altogether.
3. Functions change nothing that linking looks at (`linkFunctions_ends`).
-/

namespace JniBridge

open Linking

variable {decls : Declarations}

/-! ## Structs -/

namespace Generation

/-- Every struct of the list has its wrapper. -/
def Registered (ctx : Context) (ds : List StructDecl) : Prop :=
  ∀ d ∈ ds, (ctx.wrapper? d.name).isSome

theorem registered_registerStructs (ctx : Context) (ds : List StructDecl) :
    Registered (registerStructs ctx ds) ds := by
  intro d hd
  have hwrapper : (registerStructs ctx ds).wrapper? d.name = _ :=
    Context.wrapper?_registerEach StructDecl.name ctx ds d.name (wrapperFor ctx)
  rw [hwrapper, if_pos (List.mem_map_of_mem hd)]
  rfl

/-- Withdrawing the failed structs leaves the others alone. -/
theorem wrapper_withdraw {ctx : Context} {failed : List FailedStruct} {name : String}
    (hname : name ∉ failed.map FailedStruct.name) :
    (withdraw ctx failed).wrapper? name = ctx.wrapper? name := by
  have hwrapper : (withdraw ctx failed).wrapper? name = _ :=
    Context.wrapper?_unregisterEach FailedStruct.name ctx failed name
  rw [hwrapper, if_neg hname]

/-- So the survivors still have their wrappers. -/
theorem Registered.withdraw {ctx : Context} {ds : List StructDecl} (h : Registered ctx ds)
    (failed : List FailedStruct) :
    Registered (withdraw ctx failed) (survivors ds failed) := by
  intro d hd
  obtain ⟨hmem, hleft⟩ := List.mem_filter.1 hd
  rw [wrapper_withdraw (by simpa using hleft)]
  exact h d hmem

/-- The failure is one of layout, whatever the run ends with. -/
def FailedStruct.Acceptable (decls : Declarations) (f : FailedStruct) : Prop :=
  ∀ final, Skipped.Acceptable decls final ⟨.record, f.name, f.reason⟩

/-- What one struct contributes to a round. -/
def RoundResult (decls : Declarations) (ctx : Context) :
    Except FailedStruct (StructUnit × List Skipped) → Prop
  | .ok linked => ∀ s ∈ linked.2, s.Acceptable decls ctx
  | .error f => FailedStruct.Acceptable decls f

theorem tryStruct_ends {ctx : Context} {decl : StructDecl} (hd : decl ∈ decls.structs)
    (hwrapper : (ctx.wrapper? decl.name).isSome) :
    Ends (tryStruct ctx decl).outcome (RoundResult decls ctx) fun _ => False := by
  obtain ⟨wrapper, hwrapper⟩ := Option.isSome_iff_exists.1 hwrapper
  have hattempt := ends_attempt (StructUnit.link_ends hd hwrapper) fun _ _ he => he.1.1
  refine hattempt.logged fun r _ hr => ?_
  cases r with
  | ok linked => exact hr.1
  | error e =>
    obtain ⟨⟨hordinary, -, hlayout⟩, -⟩ := hr
    exact fun final => ⟨.record ctx hd hlayout, hordinary⟩

section round

variable {ctx : Context} {results : List (Except FailedStruct (StructUnit × List Skipped))}

theorem acceptable_of_mem_failures (h : ∀ r ∈ results, RoundResult decls ctx r) :
    ∀ f ∈ failures results, FailedStruct.Acceptable decls f := by
  refine forall_mem_failures fun r hr f hf => ?_
  subst hf
  exact h _ hr

theorem acceptable_of_mem_successes (h : ∀ r ∈ results, RoundResult decls ctx r) :
    ∀ s ∈ (successes results).flatMap Prod.snd, s.Acceptable decls ctx := by
  intro s hs
  obtain ⟨linked, hlinked, hmem⟩ := List.mem_flatMap.1 hs
  obtain ⟨r, hr, hsome⟩ := List.mem_filterMap.1 hlinked
  cases r with
  | error f => exact nomatch hsome
  | ok linked' =>
    obtain rfl := Option.some.inj hsome
    exact h _ hr s hmem

end round

/-- The structs that fail in a round are reported as they are. -/
theorem skipFailed_ends {failed : List FailedStruct}
    (h : ∀ f ∈ failed, FailedStruct.Acceptable decls f) :
    Ends (failed.mapM fun f => skip .record f.name f.reason).outcome
      (fun skipped => ∀ s ∈ skipped, ∀ final, s.Acceptable decls final) fun _ => False := by
  have hskip := ends_mapM fun f (_ : f ∈ failed) => skip_ends .record f.name f.reason
  refine hskip.mono fun skipped _ hskipped => ?_
  have hpaired := (List.forall₂_and_left _ _).2 ⟨h, hskipped⟩
  refine forall_mem_of_forall₂ hpaired fun f s hf final => ?_
  rw [hf.2]
  exact hf.1 final

/-- What the rounds settle on: all that is left out is accounted for. -/
structure Accounted (decls : Declarations) (settled : Settled) : Prop where
  failed : ∀ s ∈ settled.failed, ∀ final, s.Acceptable decls final
  fields : ∀ s ∈ settled.fields, s.Acceptable decls settled.ctx

/-- The rounds end without a failure of their own: in each of them every struct has its wrapper. -/
theorem settle_ends (ctx : Context) (ds : List StructDecl) (hds : ∀ d ∈ ds, d ∈ decls.structs)
    (hregistered : Registered ctx ds) :
    Ends (settle ctx ds).outcome (Accounted decls) fun _ => False := by
  -- on the number of structs, which every further round lowers
  induction hn : ds.length using Nat.strongRecOn generalizing ctx ds with
  | ind n ih =>
    subst hn
    have hround := ends_mapM fun d hd => tryStruct_ends (hds d hd) (hregistered d hd)
    rw [settle]
    refine hround.logged fun results _ hresults => ?_
    have hresult : ∀ r ∈ results, RoundResult decls ctx r :=
      forall_mem_of_forall₂ hresults fun _ _ h => h
    by_cases hless : (survivors ds (failures results)).length < ds.length
    · rw [dif_pos hless]
      have hleft : ∀ d ∈ survivors ds (failures results), d ∈ decls.structs := fun d hd =>
        hds d (List.mem_filter.1 hd).1
      -- the survivors keep their wrappers, so the next round starts like this one
      have hrest := ih _ hless (withdraw ctx (failures results)) _ hleft
        (hregistered.withdraw _) rfl
      have hskip := skipFailed_ends (acceptable_of_mem_failures hresult)
      refine hskip.logged fun skipped _ hskipped => ?_
      refine hrest.logged fun rest _ haccounted => ⟨fun s hs => ?_, haccounted.fields⟩
      rcases List.mem_append.1 hs with hs | hs
      · exact hskipped s hs
      · exact haccounted.failed s hs
    · -- nothing has failed, and this round's context is the one that is returned
      rw [dif_neg hless]
      exact ⟨List.forall_mem_nil _, acceptable_of_mem_successes hresult⟩

/-- The rounds of a run start with a wrapper for every struct that no rule excludes. -/
theorem settle_candidates_ends (decls : Declarations) (ctx : Context) :
    Ends (settle (registerStructs ctx (candidates ctx decls.structs))
      (candidates ctx decls.structs)).outcome (Accounted decls) fun _ => False := by
  have hchosen : ∀ d ∈ candidates ctx decls.structs, d ∈ decls.structs := fun d hd =>
    (List.mem_filter.1 hd).1
  exact settle_ends _ _ hchosen (registered_registerStructs _ _)

/-! ## Functions -/

/-- A function is linked or skipped. -/
theorem linkFunction_ends (ctx : Context) {decl : FunctionDecl} (hd : decl ∈ decls.functions)
    (javaName : String) (exposeRaw : Bool) :
    Ends (linkFunction ctx decl javaName exposeRaw).outcome
      (fun r => ∀ s, r = .error s → s.Acceptable decls ctx) fun _ => False := by
  have hlink : Ends (FunctionUnit.link decl javaName exposeRaw ctx).outcome (fun _ => True)
      fun e => e.isRefusal ∧
        ((Operation.callNative decl).link ctx .downcall).outcome = .error e :=
    (DowncallUnit.link_ends (.call decl) _ ctx).logged fun _ _ _ => trivial
  have hattempt := ends_attempt hlink fun _ _ he => LinkError.isFatal_of_isRefusal he.1
  refine hattempt.logged fun r _ hr => ?_
  cases r with
  | ok f => exact ends_tell fun s hs => nomatch hs
  | error e =>
    obtain ⟨⟨hrefusal, hrefused⟩, -⟩ := hr
    refine (skip_ends _ _ _).logged fun s _ hs s' hs' => ?_
    obtain rfl := Except.error.inj hs'
    rw [hs]
    exact ⟨.function hd hrefused, LinkError.isOrdinary_of_isRefusal hrefusal⟩

/-- Functions are linked one after the other under contexts that differ in the names asked for, and
their failures can be told under the last of them. -/
theorem linkFunctions_ends (ctx : Context) {ds : List FunctionDecl}
    (hds : ∀ d ∈ ds, d ∈ decls.functions) :
    Ends (linkFunctions ctx ds).outcome
      (fun r => (∃ requested, r.2 = { ctx with requested }) ∧
        ∀ s ∈ failures r.1, s.Acceptable decls r.2) fun _ => False := by
  induction ds generalizing ctx with
  | nil => exact ⟨⟨ctx.requested, rfl⟩, List.forall_mem_nil _⟩
  | cons d ds ih =>
    obtain ⟨hd, hds⟩ := List.forall_mem_cons.1 hds
    rw [linkFunctions]
    by_cases hgenerates : (ctx.rules.methodRule d.name).generates
    · simp only [hgenerates, if_true]
      refine (linkFunction_ends _ hd _ _).logged fun result _ hresult => ?_
      refine (ih _ hds).logged fun rest _ hrest => ?_
      obtain ⟨⟨requested, hfinal⟩, hfailures⟩ := hrest
      refine ⟨⟨requested, hfinal⟩, ?_⟩
      cases result with
      | ok f => exact hfailures
      | error s =>
        refine List.forall_mem_cons.2 ⟨?_, hfailures⟩
        have hlater := (hresult s rfl).requested requested
        rw [hfinal]
        exact hlater
    · simp only [hgenerates]
      exact ends_tell (ih ctx hds)

/-! ## The run -/

/-- Everything that a run skips is accounted for under the context that it returns. -/
theorem run_ends (decls : Declarations) (ctx : Context) :
    Ends (run decls ctx).outcome
      (fun r => ∀ s ∈ r.1.skipped, s.Acceptable decls r.2) fun _ => False := by
  unfold run
  have henums := ends_mapM fun d (hd : d ∈ decls.enums) => linkEnum_ends hd
  refine henums.logged fun enums _ henums => ?_
  have hexcluded : Ends (reportExcluded (registerEnums ctx (successes enums)) decls.structs).outcome
      (fun _ => True) fun _ => False := ends_forM fun _ _ => trivial
  refine hexcluded.logged fun _ _ _ => ?_
  refine (settle_candidates_ends decls _).logged fun settled _ haccounted => ?_
  have hreported : Ends (settled.units.forM fun s =>
      Logged.tell (.structLinked s.nativeName s.accessors.length)).outcome (fun _ => True)
      fun _ => False := ends_forM fun _ _ => trivial
  refine hreported.logged fun _ _ _ => ?_
  refine (linkFunctions_ends settled.ctx fun _ hd => hd).logged fun linked _ hlinked => ?_
  obtain ⟨⟨requested, hfinal⟩, hfunctions⟩ := hlinked
  refine ends_tell fun s hs => ?_
  rcases List.mem_append.1 hs with hs | hs
  · rcases List.mem_append.1 hs with hs | hs
    · rcases List.mem_append.1 hs with hs | hs
      · refine forall_mem_failures (fun r hr s hs => ?_) s hs
        exact forall_mem_of_forall₂ henums (fun _ _ h => h) r hr s hs _
      · exact haccounted.failed s hs _
    · have hlater := (haccounted.fields s hs).requested requested
      rw [← hfinal] at hlater
      exact hlater
  · exact hfunctions s hs

/-- A run never aborts, all that it skips is skipped for a cause of its own, and linking what Java asks
for is enough to write the code around it. -/
theorem never_aborts (decls : Declarations) (ctx : Context) :
    (∃ g final, (run decls ctx).outcome = .ok (g, final) ∧
      ∀ s ∈ g.skipped, s.Justified decls final ∧ s.reason.isFatal = false ∧
        ∀ action edge verb, s.reason ≠ .unsupportedEdge action edge verb) ∧
    ∀ (op : Operation) (c : Context) (linked : LinkedOperation), op.FromJava →
      (op.link c .downcall).outcome = .ok linked →
        ∀ spec, ∃ u, DowncallUnit.ofLinked linked spec = .ok u := by
  constructor
  · obtain ⟨⟨g, final⟩, hrun, hskipped⟩ := (run_ends decls ctx).exists_ok
    exact ⟨g, final, hrun, hskipped⟩
  · intro op c linked hop hok spec
    have hoffered := hop.offered_of_link hok
    have hlinked := (hoffered.link_ends c).of_ok hok
    obtain ⟨run, hrun, -⟩ := hlinked.run_ok hoffered
    obtain ⟨u, hu, -⟩ := DowncallUnit.ofLinked_ok hlinked.sound hrun spec
    exact ⟨u, hu⟩

/-- An array is no argument: the function is skipped, and a string field can be written. -/
theorem never_aborts_array :
    (∃ g final, (run
          { functions := [⟨"sum", .void, [⟨"xs", .arrayOf (.ofScalar .int "int") (some 4)⟩]⟩] }
          { package := "geo", container := "Native" }).outcome = .ok (g, final) ∧
        ⟨.function, "sum", .unsupportedType "int[4]"⟩ ∈ g.skipped ∧
        Skipped.Justified
          { functions := [⟨"sum", .void, [⟨"xs", .arrayOf (.ofScalar .int "int") (some 4)⟩]⟩] } final
          ⟨.function, "sum", .unsupportedType "int[4]"⟩ ∧
        (LinkError.unsupportedType "int[4]").isFatal = false) ∧
      ∃ linked, ((Operation.setField (.ofRecord "struct Point")
          ⟨"label", .pointerTo (.ofScalar .charSigned "const char")⟩).link
            { package := "geo", container := "Native" } .downcall).outcome = .ok linked ∧
        ∃ u, DowncallUnit.ofLinked linked (.ofName "setLabel" (.ofClass "geo" "Native.Point")) =
          .ok u := by
  obtain ⟨⟨g, final, hrun, hskipped⟩, hunit⟩ := never_aborts
    { functions := [⟨"sum", .void, [⟨"xs", .arrayOf (.ofScalar .int "int") (some 4)⟩]⟩] }
    { package := "geo", container := "Native" }
  have hmem : ⟨.function, "sum", .unsupportedType "int[4]"⟩ ∈ g.skipped := by
    have hsettle (ctx : Context) : (settle ctx []).outcome = .ok ⟨[], [], [], ctx⟩ := by
      rw [settle]
      rfl
    have hrun' := hrun
    unfold run at hrun'
    simp only [Logged.outcome_bind, candidates, List.filter_nil, hsettle] at hrun'
    obtain ⟨rfl, -⟩ := Prod.mk.inj (Except.ok.inj hrun')
    exact List.mem_singleton.2 rfl
  obtain ⟨hjustified, hfatal, -⟩ := hskipped _ hmem
  have hlinked : ∃ linked, ((Operation.setField (.ofRecord "struct Point")
      ⟨"label", .pointerTo (.ofScalar .charSigned "const char")⟩).link
        { package := "geo", container := "Native" } .downcall).outcome = .ok linked := ⟨_, rfl⟩
  obtain ⟨linked, hok⟩ := hlinked
  exact ⟨⟨g, final, hrun, hmem, hjustified, hfatal⟩, linked, hok,
    hunit _ _ linked (.set _ _) hok _⟩

end Generation

end JniBridge
