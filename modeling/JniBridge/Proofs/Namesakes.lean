import Mathlib.Algebra.Order.Group.Multiset
import Mathlib.Tactic.Abel
import JniBridge.Proofs.Sifting
/-
Structs that are declared more than once.

A struct that fails is dropped by its name, and everything else of that name is dropped with it.  So there
are three things that can become of a struct, not two: it is generated; it fails and is reported; or it
would have linked, but one of its name failed in the same round, and it is lost.

1. A round sifts the structs that take part in it (`sifted_of_round`).
2. Those that fail are reported, and of the others those are lost that share a name with one of them
   (`Stage.fall`).
3. The rounds add up (`Rounds.fates`), so units and reports account for all structs exactly if nothing is
   lost, and nothing is lost if no name is declared twice (`structs_accounted`).
-/

namespace JniBridge

namespace Generation

/-! ## One round -/

section round

variable {c : Context} {ds : List StructDecl}
  {results : List (Except FailedStruct (StructUnit × List Skipped))}

/-- Each struct of a round links or fails. -/
theorem sifted_of_round (h : (ds.mapM (tryStruct c)).outcome = .ok results) :
    Sifted (fun d linked => (StructUnit.link d c).outcome = .ok linked)
      (fun d f => f.name = d.name ∧ (StructUnit.link d c).outcome = .error f.reason) ds
      (successes results) (failures results) := by
  have heach := forall₂_of_mapM_eq_ok h
  clear h
  induction heach with
  | nil => exact .nil
  | cons hd _ ih =>
    rcases linked_of_tryStruct hd with ⟨linked, rfl, hlink⟩ | ⟨e, rfl, hlink⟩
    · exact .kept hlink ih
    · exact .reported ⟨rfl, hlink⟩ ih

end round

section fates

variable (base : Context) (chosen : List StructDecl)

/-- How linking a struct ends while exactly those of the chosen structs have wrappers that are present. -/
def linkAmong (present : Finset String) (d : StructDecl) :
    Except LinkError (StructUnit × List Skipped) :=
  (StructUnit.link d (keeping base chosen present)).outcome

/-- The entry reports the struct, with the failure that it ends with in some round. -/
def ReportedBy (d : StructDecl) (s : Skipped) : Prop :=
  ∃ present, s.Reports .record d.name (linkAmong base chosen present d)

/-- The struct links in a round in which another one of its name fails. -/
def TakenAlong (reported : List StructDecl) (d : StructDecl) : Prop :=
  ∃ twin ∈ reported, twin.name = d.name ∧ ∃ present,
    (∃ linked, linkAmong base chosen present d = .ok linked) ∧
      ∃ e, linkAmong base chosen present twin = .error e

/-- What becomes of structs: some have units, some have reports, and the others are lost together with one
that has a report. -/
structure Fates (ds : List StructDecl) (settled : Settled) (kept reported lost : List StructDecl) :
    Prop where
  all : ds.Perm (kept ++ reported ++ lost)
  units : List.Forall₂ (fun d u => ∃ fields,
    (StructUnit.link d settled.ctx).outcome = .ok (u, fields)) kept settled.units
  reports : List.Forall₂ (ReportedBy base chosen) reported settled.failed
  taken_along : ∀ d ∈ lost, TakenAlong base chosen reported d

end fates

variable {base : Context} {chosen : List StructDecl} {present : Finset String} {c : Context}
  {ds : List StructDecl}

/-- What is lost with a report is lost with more reports. -/
theorem TakenAlong.mono {reported more : List StructDecl} {d : StructDecl}
    (h : TakenAlong base chosen reported d) (hsubset : reported ⊆ more) :
    TakenAlong base chosen more d := by
  obtain ⟨twin, htwin, hboth⟩ := h
  exact ⟨twin, hsubset htwin, hboth⟩

/-- The struct has no namesake among those that failed. -/
def stays (failed : List FailedStruct) (d : StructDecl) : Bool :=
  !(failed.map FailedStruct.name).contains d.name

/-- Who fails does not stay. -/
theorem filter_stays_of_failed {outcome : StructDecl → Except LinkError (StructUnit × List Skipped)}
    {reported : List StructDecl} {failed : List FailedStruct}
    (h : List.Forall₂ (fun d f => f.name = d.name ∧ outcome d = .error f.reason) reported failed) :
    reported.filter (stays failed) = [] := by
  refine List.filter_eq_nil_iff.2 fun d hd => ?_
  obtain ⟨f, hf, hname, -⟩ := exists_mem_of_forall₂ h.flip d hd
  simp only [stays, Bool.not_eq_true, Bool.not_eq_false', List.contains_iff_mem]
  rw [← hname]
  exact List.mem_map_of_mem hf

/-- In a round the structs that fail are reported, and those of their names fall with them. -/
theorem Stage.fall (h : Stage base chosen present c ds)
    {results : List (Except FailedStruct (StructUnit × List Skipped))}
    (hround : (ds.mapM (tryStruct c)).outcome = .ok results) :
    ∃ reported lost, ds.Perm (survivors ds (failures results) ++ (reported ++ lost)) ∧
      List.Forall₂ (ReportedBy base chosen) reported ((failures results).map FailedStruct.report) ∧
      ∀ d ∈ lost, TakenAlong base chosen reported d := by
  have hamong : ∀ d, (StructUnit.link d c).outcome = linkAmong base chosen present d := by
    intro d
    rw [linkAmong, StructUnit.link_congr h.context]
  obtain ⟨linking, reported, hperm, hlinking, hreported⟩ := (sifted_of_round hround).exists_parts
  have hsurvivors :
      (survivors ds (failures results)).Perm (linking.filter (stays (failures results))) := by
    have hfilter := hperm.filter (stays (failures results))
    rw [List.filter_append, filter_stays_of_failed hreported, List.append_nil] at hfilter
    exact hfilter
  -- of those that link, the ones that do not stay are lost
  refine ⟨reported, linking.filter fun d => !stays (failures results) d, ?_, ?_, ?_⟩
  · have hparts := List.filter_append_perm (stays (failures results)) linking
    have hlinking : linking.Perm
        (survivors ds (failures results) ++ linking.filter fun d => !stays (failures results) d) :=
      hparts.symm.trans (hsurvivors.symm.append_right _)
    refine hperm.trans ((hlinking.append_right reported).trans ?_)
    rw [List.append_assoc]
    exact List.perm_append_comm.append_left _
  · rw [List.forall₂_map_right_iff]
    refine hreported.imp fun d f hd => ⟨present, rfl, hd.1, ?_⟩
    rw [← hamong]
    exact hd.2
  · intro d hd
    obtain ⟨hd, hstays⟩ := List.mem_filter.1 hd
    obtain ⟨linked, -, hlink⟩ := exists_mem_of_forall₂ hlinking.flip d hd
    have hfallen : d.name ∈ (failures results).map FailedStruct.name := by
      simpa [stays] using hstays
    obtain ⟨f, hf, hname⟩ := List.mem_map.1 hfallen
    obtain ⟨twin, htwin, htwinName, hfails⟩ := exists_mem_of_forall₂ hreported f hf
    refine ⟨twin, htwin, htwinName.symm.trans hname, present, ⟨linked, ?_⟩, f.reason, ?_⟩
    · rw [← hamong]
      exact hlink
    · rw [← hamong]
      exact hfails

/-! ## All rounds -/

/-- The rounds leave no struct without a fate. -/
theorem Rounds.fates {n : Nat} {settled : Settled} (hrounds : Rounds n c ds settled)
    (h : Stage base chosen present c ds) :
    ∃ kept reported lost, Fates base chosen ds settled kept reported lost := by
  induction hrounds generalizing present with
  | @last c ds results hround hnone =>
    have hunits := Stage.units_of_last hround hnone
    refine ⟨ds, [], [], ?_, ?_, .nil, List.forall_mem_nil _⟩
    · rw [List.append_nil, List.append_nil]
    · rw [List.forall₂_map_right_iff]
      exact hunits.imp fun d linked hlink => ⟨linked.2, hlink⟩
  | @again n c ds results settled hround _ _ ih =>
    obtain ⟨reported, lost, hperm, hreported, hlost⟩ := h.fall hround
    obtain ⟨kept, later, lostLater, hrest⟩ := ih (h.next _ (h.mem_of_failed hround))
    refine ⟨kept, reported ++ later, lost ++ lostLater, ?_, hrest.units, ?_, ?_⟩
    · have hall : ds.Perm (kept ++ later ++ lostLater ++ (reported ++ lost)) :=
        hperm.trans (hrest.all.append_right _)
      refine hall.trans ?_
      simp only [← Multiset.coe_eq_coe, ← Multiset.coe_add]
      abel
    · exact List.rel_append hreported hrest.reports
    · intro d hd
      rcases List.mem_append.1 hd with hd | hd
      · exact (hlost d hd).mono (List.subset_append_left _ _)
      · exact (hrest.taken_along d hd).mono (List.subset_append_right _ _)

/-- Each struct is in one of the three lists, and these are as long as what they stand for. -/
theorem Fates.length_eq {settled : Settled} {kept reported lost : List StructDecl}
    (h : Fates base chosen ds settled kept reported lost) :
    settled.units.length + settled.failed.length + lost.length = ds.length := by
  have hall := h.all.length_eq
  have hkept := h.units.length_eq
  have hreported := h.reports.length_eq
  simp only [List.length_append] at hall
  omega

/-- If no name is declared twice, nothing is lost. -/
theorem Fates.lost_eq_nil {settled : Settled} {kept reported lost : List StructDecl}
    (h : Fates base chosen ds settled kept reported lost) (hnames : (ds.map StructDecl.name).Nodup) :
    lost = [] := by
  refine List.eq_nil_iff_forall_not_mem.2 fun d hd => ?_
  obtain ⟨twin, htwin, hname, -⟩ := h.taken_along d hd
  have hnodup := (h.all.map StructDecl.name).nodup_iff.1 hnames
  rw [List.map_append, List.nodup_append] at hnodup
  obtain ⟨-, -, hapart⟩ := hnodup
  have hreported : twin.name ∈ (kept ++ reported).map StructDecl.name :=
    List.mem_map_of_mem (List.mem_append_right _ htwin)
  exact hapart _ hreported _ (List.mem_map_of_mem hd) hname

/-! ## The run -/

variable {decls : Declarations} {ctx : Context} {linked : List (Except Skipped EnumUnit)}
  {settled : Settled} {called : List (Except Skipped FunctionUnit)} {g : Generation}
  {final : Context}

/-- The structs of a run meet the fates of its rounds. -/
theorem Stages.fates (h : Stages decls ctx linked settled called g final) :
    ∃ kept reported lost, Fates (registerEnums ctx g.enums) (candidates ctx decls.structs)
      (candidates ctx decls.structs) settled kept reported lost := by
  have henums : g.enums = successes linked := by rw [h.generated]
  obtain ⟨n, hrounds, -⟩ := rounds_of_settle h.structs
  rw [henums]
  exact hrounds.fates (stage_start _ _)

/-- Of the structs that no rule excludes some are generated, some are reported, and the others are lost,
each of them in a round in which it links and one of its name fails.  So units and reports account for all
of them exactly if nothing is lost, and nothing is lost if no name is declared twice. -/
theorem structs_accounted (decls : Declarations) (ctx : Context) :
    ∃ g final, (run decls ctx).outcome = .ok (g, final) ∧
      ∃ kept reported lost,
        (candidates ctx decls.structs).Perm (kept ++ reported ++ lost) ∧
        List.Forall₂ (fun d u => ∃ fields, (StructUnit.link d final).outcome = .ok (u, fields)) kept
          g.structs ∧
        List.Forall₂ (ReportedBy (registerEnums ctx g.enums) (candidates ctx decls.structs)) reported
          (g.skipped.filter fun s => s.kind = .record) ∧
        (∀ d ∈ lost, TakenAlong (registerEnums ctx g.enums) (candidates ctx decls.structs) reported
          d) ∧
        (g.structs.length + (g.skipped.filter fun s => s.kind = .record).length =
            (candidates ctx decls.structs).length ↔ lost = []) ∧
        (((candidates ctx decls.structs).map StructDecl.name).Nodup → lost = []) := by
  obtain ⟨g, final, hrun⟩ := exists_run decls ctx
  obtain ⟨linked, settled, called, hstages⟩ := stages_of_run hrun
  obtain ⟨kept, reported, lost, hfates⟩ := hstages.fates
  have hstructs : g.structs = settled.units := by rw [hstages.generated]
  obtain ⟨-, -, hreports⟩ := hstages.skipped_of_kind
  refine ⟨g, final, hrun, kept, reported, lost, hfates.all, ?_, ?_, hfates.taken_along, ?_,
    hfates.lost_eq_nil⟩
  · rw [hstructs]
    refine hfates.units.imp fun d u hunit => ?_
    obtain ⟨fields, hlink⟩ := hunit
    rw [← StructUnit.link_congr hstages.final_agrees] at hlink
    exact ⟨fields, hlink⟩
  · rw [hreports]
    exact hfates.reports
  · have hlength := hfates.length_eq
    rw [hstructs, hreports, ← List.length_eq_zero_iff]
    omega

/-! ## A struct that is lost -/

/-- After a round in which something fails the loop goes on. -/
theorem settle_of_some_failed {rest : Settled}
    {results : List (Except FailedStruct (StructUnit × List Skipped))}
    (hround : (ds.mapM (tryStruct c)).outcome = .ok results) (hfailed : failures results ≠ [])
    (hrest : (settle (withdraw c (failures results)) (survivors ds (failures results))).outcome =
      .ok rest) :
    (settle c ds).outcome =
      .ok { rest with failed := (failures results).map FailedStruct.report ++ rest.failed } := by
  have hless := (length_survivors_lt_iff hround).2 hfailed
  rw [settle, Logged.outcome_bind, hround]
  show Logged.outcome (dite _ _ _) = _
  rw [dif_pos hless, Logged.outcome_bind, outcome_skipFailed]
  show Logged.outcome (settle _ _ >>= _) = _
  rw [Logged.outcome_bind, hrest]
  rfl

/-- Two headers declare a struct of one name, and only the second one has no layout. -/
theorem struct_lost_with_namesake :
    ∃ g final, (run
        (({ structs := [⟨"S", [⟨"x", .ofScalar .int "int"⟩]⟩] } : Declarations) ++
          ({ structs := [⟨"S", [⟨"x", .ofScalar .longDouble "long double"⟩]⟩] } : Declarations))
        { package := "geo", container := "Native",
          rules := { structs := [⟨fun _ => true, { option := some true }⟩] } }).outcome =
          .ok (g, final) ∧
      g.structs.length = 0 ∧ g.skipped = [⟨.record, "S", .unsupportedType "long double"⟩] ∧
      (candidates
        { package := "geo", container := "Native",
          rules := { structs := [⟨fun _ => true, { option := some true }⟩] } }
        (({ structs := [⟨"S", [⟨"x", .ofScalar .int "int"⟩]⟩] } : Declarations) ++
          ({ structs := [⟨"S", [⟨"x", .ofScalar .longDouble "long double"⟩]⟩] } :
            Declarations)).structs).length = 2 := by
  refine ⟨_, _, run_of_stages ⟨rfl, settle_of_some_failed rfl (List.cons_ne_nil _ _)
    (settle_of_none_failed rfl rfl), rfl, rfl⟩, rfl, rfl, rfl⟩

end Generation

end JniBridge
