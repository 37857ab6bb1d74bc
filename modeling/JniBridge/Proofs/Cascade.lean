import Mathlib.Order.Bounds.Defs
import JniBridge.Proofs.Run
/-
Which structs are kept.

A struct that fails takes its wrapper with it, and a struct that embeds it may fail next, in whatever
order they are declared and through whatever typedefs.  What the rounds arrive at does not depend on that
order.  Call a set of names consistent if, with exactly these structs registered (`keeping`), all of them
have the layouts that they declare.

1. More wrappers make no layout fail (`Layout.ofDecl_of_below`).
2. So no name of a consistent set fails in a round (`Stage.not_mem_of_failed`), and what is left for the
   next round (`Stage.next`) still holds every consistent set.
3. The names of the last round, in which nothing fails, are consistent themselves
   (`Stage.consistent_of_last`).

Hence the rounds end with the greatest consistent set (`keeps_greatest_consistent`).
-/

namespace JniBridge

/-! ## More wrappers -/

/-- The second context has all the wrappers of the first, and perhaps more. -/
structure Context.Below (c c' : Context) : Prop where
  names : c.names = c'.names
  wrapper : ∀ record w, c.wrapper? record = some w → c'.wrapper? record = some w

/-- A field that can be placed can still be placed when there are more wrappers. -/
theorem Layout.fieldLayout_of_below {c c' : Context} (h : c.Below c') {f : NamedType}
    {placed : FieldLayout} (hf : fieldLayout c f = .ok placed) : fieldLayout c' f = .ok placed := by
  -- only a struct is looked up
  have hclass : ∀ record javaClass, layoutClass? c record = some javaClass →
      layoutClass? c' record = some javaClass := by
    intro record javaClass hsome
    obtain ⟨w, hw, hlayout⟩ := Option.bind_eq_some_iff.1 hsome
    exact Option.bind_eq_some_iff.2 ⟨w, h.wrapper record w hw, hlayout⟩
  have hresolved : ∀ t text, resolvedCall c t = .ok text → resolvedCall c' t = .ok text := by
    intro t text hok
    unfold resolvedCall at hok ⊢
    split at hok
    · next record _ _ =>
      cases hrecord : layoutClass? c (tagName record) with
      | none => simp only [hrecord, reduceCtorEq] at hok
      | some javaClass =>
        simp only [hrecord] at hok
        simp only [hclass _ _ hrecord, ← h.names]
        exact hok
    all_goals exact hok
  have hcall : ∀ t text, call c t = .ok text → call c' t = .ok text := by
    intro t text hok
    unfold call at hok ⊢
    split
    · next hpointer =>
      rw [if_pos hpointer] at hok
      exact hok
    · next hpointer =>
      rw [if_neg hpointer] at hok
      split at hok
      · exact hok
      · exact hresolved t text hok
  have harranged : ∀ text, call c f.type = .ok text → call c' f.type = .ok text := hcall f.type
  rw [fieldLayout, arrangement] at hf ⊢
  cases hplaced : call c f.type with
  | error e => simp only [hplaced, Except.map, reduceCtorEq] at hf
  | ok text =>
    rw [harranged text hplaced, ← h.names]
    rw [hplaced] at hf
    exact hf

/-- More wrappers make no layout fail, and change none. -/
theorem Layout.ofDecl_of_below {c c' : Context} (h : c.Below c') {d : StructDecl}
    {layout : StructLayout} (hd : ofDecl c d = .ok layout) : ofDecl c' d = .ok layout := by
  rw [ofDecl] at hd ⊢
  cases hplaced : d.fields.mapM (fieldLayout c) with
  | error e => simp only [hplaced, Except.map, reduceCtorEq] at hd
  | ok placed =>
    rw [mapM_eq_ok_of_imp (fun _ _ => fieldLayout_of_below h) hplaced, ← h.names]
    rw [hplaced] at hd
    exact hd

/-! ## The unit of a registered struct -/

namespace StructUnit

variable {c : Context} {d : StructDecl} {w : Wrapper}

/-- A struct that links has the layout it is to declare. -/
theorem exists_layout_of_link (hw : c.wrapper? d.name = some w) (hlayout : w.layout = true)
    {linked : StructUnit × List Skipped} (h : (link d c).outcome = .ok linked) :
    ∃ layout, Layout.ofDecl c d = .ok layout := by
  unfold link at h
  rw [hw] at h
  obtain ⟨declared, hdeclared, -⟩ := exists_of_bind_eq_ok h
  have hof : layoutFor c d w = .ok declared := hdeclared
  rw [layoutFor, if_pos hlayout] at hof
  cases hlinked : Layout.ofDecl c d with
  | ok layout => exact ⟨layout, rfl⟩
  | error e => simp only [hlinked, Except.map, reduceCtorEq] at hof

/-- A struct that fails is to declare a layout, and has none. -/
theorem layout_of_link_error (hw : c.wrapper? d.name = some w) {e : LinkError}
    (h : (link d c).outcome = .error e) : w.layout = true ∧ Layout.ofDecl c d = .error e := by
  have hd : d ∈ ({ structs := [d] } : Declarations).structs := List.mem_cons_self
  have hends := link_ends hd hw
  obtain ⟨-, hlayout, he⟩ := hends.of_error h
  exact ⟨hlayout, he⟩

end StructUnit

namespace Generation

/-! ## The structs that are kept -/

/-- The context without the wrappers of the chosen structs. -/
def clear (base : Context) (chosen : List StructDecl) : Context :=
  chosen.foldl (fun c d => c.unregisterStruct d.name) base

/-- The context with the wrappers of exactly those chosen structs whose names are kept; structs that
are not chosen have the wrappers they came with. -/
def keeping (base : Context) (chosen : List StructDecl) (kept : Finset String) : Context :=
  registerStructs (clear base chosen) (chosen.filter fun d => d.name ∈ kept)

/-- Every struct whose name is kept declares no layout, or has one under the wrappers of those that are
kept. -/
def Consistent (base : Context) (chosen : List StructDecl) (kept : Finset String) : Prop :=
  ∀ d ∈ chosen, d.name ∈ kept →
    (base.rules.structRule d.name).asks = false ∨
      ∃ layout, Layout.ofDecl (keeping base chosen kept) d = .ok layout

section keeping

variable (base : Context) (chosen : List StructDecl) (kept : Finset String)

theorem clear_eq : ∃ structs, clear base chosen = { base with structs } :=
  Context.foldl_structs base chosen fun _ _ => ⟨_, rfl⟩

theorem registerStructs_eq : ∃ structs, registerStructs base chosen = { base with structs } :=
  Context.foldl_structs base chosen fun _ _ => ⟨_, rfl⟩

theorem withdraw_eq (failed : List FailedStruct) :
    ∃ structs, withdraw base failed = { base with structs } :=
  Context.foldl_structs base failed fun _ _ => ⟨_, rfl⟩

/-- Keeping structs changes the registry only. -/
theorem keeping_eq : ∃ structs, keeping base chosen kept = { base with structs } := by
  obtain ⟨cleared, hcleared⟩ := clear_eq base chosen
  obtain ⟨structs, hstructs⟩ := registerStructs_eq (clear base chosen)
    (chosen.filter fun d => d.name ∈ kept)
  refine ⟨structs, ?_⟩
  rw [keeping, hstructs, hcleared]

/-- The registry when structs are kept: of those that are chosen the kept ones have the wrappers that
the rules give them, and nothing else has changed. -/
theorem wrapper?_keeping (name : String) :
    (keeping base chosen kept).wrapper? name =
      if name ∈ structNames chosen then
        if name ∈ kept then some (wrapperFor base name) else none
      else base.wrapper? name := by
  obtain ⟨cleared, hcleared⟩ := clear_eq base chosen
  have hbefore : (clear base chosen).wrapper? name = _ :=
    Context.wrapper?_unregisterEach StructDecl.name base chosen name
  have hafter : (registerStructs (clear base chosen)
      (chosen.filter fun d => d.name ∈ kept)).wrapper? name = _ :=
    Context.wrapper?_registerEach StructDecl.name (clear base chosen)
      (chosen.filter fun d => d.name ∈ kept) name (wrapperFor (clear base chosen))
  have hrules : wrapperFor (clear base chosen) name = wrapperFor base name := by
    rw [hcleared]
    rfl
  rw [keeping, hafter, hbefore, hrules]
  by_cases hchosen : name ∈ structNames chosen
  · have hmap : name ∈ chosen.map StructDecl.name := List.mem_toFinset.1 hchosen
    obtain ⟨d, hd, rfl⟩ := List.mem_map.1 hmap
    by_cases hkept : d.name ∈ kept
    · have hrow : d.name ∈ (chosen.filter fun d => d.name ∈ kept).map StructDecl.name :=
        List.mem_map_of_mem (List.mem_filter.2 ⟨hd, decide_eq_true hkept⟩)
      rw [if_pos hrow, if_pos hchosen, if_pos hkept]
    · have hrow : d.name ∉ (chosen.filter fun d => d.name ∈ kept).map StructDecl.name := by
        intro hmem
        obtain ⟨d', hd', hname⟩ := List.mem_map.1 hmem
        rw [← hname] at hkept
        exact hkept (of_decide_eq_true (List.mem_filter.1 hd').2)
      rw [if_neg hrow, if_pos hmap, if_pos hchosen, if_neg hkept]
  · have hmap : name ∉ chosen.map StructDecl.name := fun hmem =>
      hchosen (List.mem_toFinset.2 hmem)
    have hrow : name ∉ (chosen.filter fun d => d.name ∈ kept).map StructDecl.name := by
      intro hmem
      obtain ⟨d, hd, rfl⟩ := List.mem_map.1 hmem
      exact hmap (List.mem_map_of_mem (List.mem_filter.1 hd).1)
    rw [if_neg hrow, if_neg hmap, if_neg hchosen]

variable {base chosen kept}

theorem names_keeping : (keeping base chosen kept).names = base.names := by
  obtain ⟨structs, h⟩ := keeping_eq base chosen kept
  rw [h]

/-- Whoever keeps more has more wrappers. -/
theorem keeping_below {kept' : Finset String} (h : kept ⊆ kept') :
    (keeping base chosen kept).Below (keeping base chosen kept') := by
  refine ⟨names_keeping.trans names_keeping.symm, fun record w hw => ?_⟩
  rw [wrapper?_keeping] at hw ⊢
  by_cases hchosen : record ∈ structNames chosen
  · rw [if_pos hchosen] at hw ⊢
    by_cases hkept : record ∈ kept
    · rw [if_pos hkept] at hw
      rw [if_pos (h hkept)]
      exact hw
    · rw [if_neg hkept] at hw
      exact nomatch hw
  · rw [if_neg hchosen] at hw ⊢
    exact hw

/-- The rounds start with everything that is chosen. -/
theorem registerStructs_agrees :
    (registerStructs base chosen).Agrees (keeping base chosen (structNames chosen)) := by
  have hwrapper : ∀ record, (registerStructs base chosen).wrapper? record =
      (keeping base chosen (structNames chosen)).wrapper? record := by
    intro record
    have hregistered : (registerStructs base chosen).wrapper? record = _ :=
      Context.wrapper?_registerEach StructDecl.name base chosen record (wrapperFor base)
    rw [hregistered, wrapper?_keeping]
    by_cases hchosen : record ∈ structNames chosen
    · rw [if_pos (List.mem_toFinset.1 hchosen), if_pos hchosen, if_pos hchosen]
    · rw [if_neg fun hmem => hchosen (List.mem_toFinset.2 hmem), if_neg hchosen]
  obtain ⟨structs, hregister⟩ := registerStructs_eq base chosen
  obtain ⟨structs', hkeeping⟩ := keeping_eq base chosen (structNames chosen)
  rw [hregister, hkeeping] at hwrapper ⊢
  exact (Context.Agrees.refl base).withStructs hwrapper

end keeping

/-! ## The rounds -/

/-- What holds when a round starts: it takes place among the chosen structs whose names are kept, under
their wrappers. -/
structure Stage (base : Context) (chosen : List StructDecl) (kept : Finset String) (c : Context)
    (ds : List StructDecl) : Prop where
  subset : kept ⊆ structNames chosen
  decls : ds = chosen.filter fun d => d.name ∈ kept
  context : c.Agrees (keeping base chosen kept)

/-- What is left of the names when some have failed. -/
def remaining (kept : Finset String) (failed : List FailedStruct) : Finset String :=
  kept \ (failed.map FailedStruct.name).toFinset

theorem mem_remaining {kept : Finset String} {failed : List FailedStruct} {name : String} :
    name ∈ remaining kept failed ↔ name ∈ kept ∧ name ∉ failed.map FailedStruct.name := by
  rw [remaining, Finset.mem_sdiff, List.mem_toFinset]

/-- The first round. -/
theorem stage_start (base : Context) (chosen : List StructDecl) :
    Stage base chosen (structNames chosen) (registerStructs base chosen) chosen where
  subset := Finset.Subset.refl _
  decls := (List.filter_eq_self.2 fun d hd =>
    decide_eq_true (mem_structNames.2 ⟨d, hd, rfl⟩)).symm
  context := registerStructs_agrees

namespace Stage

variable {base : Context} {chosen : List StructDecl} {kept : Finset String} {c : Context}
  {ds : List StructDecl}

theorem mem_decls (h : Stage base chosen kept c ds) {d : StructDecl} :
    d ∈ ds ↔ d ∈ chosen ∧ d.name ∈ kept := by
  rw [h.decls, List.mem_filter, decide_eq_true_iff]

/-- Every struct of a round has the wrapper that the rules give it. -/
theorem wrapper (h : Stage base chosen kept c ds) {d : StructDecl} (hd : d ∈ ds) :
    c.wrapper? d.name = some (wrapperFor base d.name) := by
  obtain ⟨-, hkept⟩ := h.mem_decls.1 hd
  rw [h.context.wrapper, wrapper?_keeping, if_pos (h.subset hkept), if_pos hkept]

section round

variable {results : List (Except FailedStruct (StructUnit × List Skipped))}

/-- A name of a consistent set does not fail: its structs would have layouts even if there were only
the wrappers of that set. -/
theorem not_mem_of_failed (h : Stage base chosen kept c ds)
    (hround : (ds.mapM (tryStruct c)).outcome = .ok results) {s : Finset String} (hs : s ⊆ kept)
    (hconsistent : Consistent base chosen s) {f : FailedStruct} (hf : f ∈ failures results) :
    f.name ∉ s := by
  intro hmem
  obtain ⟨d, hd, hname, hlink⟩ := mem_of_mem_failures hround f hf
  obtain ⟨hasks, hlayout⟩ := StructUnit.layout_of_link_error (h.wrapper hd) hlink
  rw [← hname] at hmem
  rcases hconsistent d (h.mem_decls.1 hd).1 hmem with hsilent | ⟨layout, hok⟩
  · have hwrapper : (base.rules.structRule d.name).asks = true := hasks
    rw [hsilent] at hwrapper
    exact nomatch hwrapper
  · have hmore := Layout.ofDecl_of_below (keeping_below hs) hok
    rw [← Layout.ofDecl_congr h.context, hlayout] at hmore
    exact nomatch hmore

/-- The next round starts among what is left. -/
theorem next (h : Stage base chosen kept c ds)
    (failed : List FailedStruct) (hfailed : ∀ f ∈ failed, f.name ∈ kept) :
    Stage base chosen (remaining kept failed) (withdraw c failed) (survivors ds failed) := by
  have hwrapper : ∀ record, (withdraw c failed).wrapper? record =
      (keeping base chosen (remaining kept failed)).wrapper? record := by
    intro record
    have hwithdrawn : (withdraw c failed).wrapper? record = _ :=
      Context.wrapper?_unregisterEach FailedStruct.name c failed record
    rw [hwithdrawn, h.context.wrapper, wrapper?_keeping, wrapper?_keeping]
    by_cases hrow : record ∈ failed.map FailedStruct.name
    · obtain ⟨f, hf, rfl⟩ := List.mem_map.1 hrow
      have hgone : f.name ∉ remaining kept failed := fun hmem => (mem_remaining.1 hmem).2 hrow
      rw [if_pos hrow, if_pos (h.subset (hfailed f hf)), if_neg hgone]
    · have hleft : record ∈ remaining kept failed ↔ record ∈ kept := by
        rw [mem_remaining]
        exact and_iff_left hrow
      rw [if_neg hrow]
      simp only [hleft]
  refine ⟨fun name hname => h.subset (mem_remaining.1 hname).1, ?_, ?_⟩
  · rw [survivors, h.decls, List.filter_filter]
    refine List.filter_congr fun d _ => ?_
    rw [Bool.eq_iff_iff]
    simp [mem_remaining, and_comm]
  · obtain ⟨structs, hleft⟩ := withdraw_eq c failed
    obtain ⟨before, hbefore⟩ := keeping_eq base chosen kept
    obtain ⟨after, hafter⟩ := keeping_eq base chosen (remaining kept failed)
    have hstart := h.context
    rw [hbefore] at hstart
    rw [hleft, hafter] at hwrapper ⊢
    exact hstart.withStructs hwrapper

/-- Whoever fails in a round is one of its names. -/
theorem mem_of_failed (h : Stage base chosen kept c ds)
    (hround : (ds.mapM (tryStruct c)).outcome = .ok results) :
    ∀ f ∈ failures results, f.name ∈ kept := by
  intro f hf
  obtain ⟨d, hd, hname, -⟩ := mem_of_mem_failures hround f hf
  rw [← hname]
  exact (h.mem_decls.1 hd).2

/-- When nothing fails, every struct has its unit. -/
theorem units_of_last (hround : (ds.mapM (tryStruct c)).outcome = .ok results)
    (hnone : failures results = []) :
    List.Forall₂ (fun d linked => (StructUnit.link d c).outcome = .ok linked) ds
      (successes results) := by
  have heach := forall₂_of_mapM_eq_ok hround
  clear hround
  induction heach with
  | nil => exact .nil
  | @cons d r ds results hd hrest ih =>
    rcases linked_of_tryStruct hd with ⟨linked, rfl, hlink⟩ | ⟨e, rfl, -⟩
    · exact .cons hlink (ih hnone)
    · exact nomatch hnone

/-- A round in which nothing fails takes place among consistent names. -/
theorem consistent_of_last (h : Stage base chosen kept c ds)
    (hround : (ds.mapM (tryStruct c)).outcome = .ok results) (hnone : failures results = []) :
    Consistent base chosen kept := by
  intro d hd hkept
  have hmem := h.mem_decls.2 ⟨hd, hkept⟩
  by_cases hasks : (base.rules.structRule d.name).asks = true
  · refine Or.inr ?_
    obtain ⟨linked, -, hlink⟩ := exists_mem_of_forall₂ (units_of_last hround hnone).flip d hmem
    rw [← Layout.ofDecl_congr h.context]
    exact StructUnit.exists_layout_of_link (h.wrapper hmem) hasks hlink
  · exact Or.inl (Bool.eq_false_of_not_eq_true hasks)

end round

end Stage

/-- What the rounds arrive at. -/
structure Settles (base : Context) (chosen : List StructDecl) (kept : Finset String)
    (settled : Settled) (left : Finset String) : Prop where
  subset : left ⊆ kept
  consistent : Consistent base chosen left
  greatest : ∀ s ⊆ kept, Consistent base chosen s → s ⊆ left
  units : List.Forall₂ (fun d u => ∃ fields,
      (StructUnit.link d (keeping base chosen left)).outcome = .ok (u, fields))
    (chosen.filter fun d => d.name ∈ left) settled.units
  context : settled.ctx.Agrees (keeping base chosen left)
  failed : ∀ name ∈ kept, (∃ s ∈ settled.failed, s.kind = .record ∧ s.name = name) ↔ name ∉ left
  fields : ∀ s ∈ settled.fields, s.kind = .field

/-- All that the unit of a struct skips are fields. -/
theorem kind_of_link {c : Context} {d : StructDecl} {linked : StructUnit × List Skipped}
    (h : (StructUnit.link d c).outcome = .ok linked) : ∀ s ∈ linked.2, s.kind = .field := by
  unfold StructUnit.link at h
  split at h
  · exact nomatch h
  · obtain ⟨layout, -, h⟩ := exists_of_bind_eq_ok h
    obtain ⟨results, hresults, h⟩ := exists_of_bind_eq_ok h
    obtain rfl := Except.ok.inj h
    refine forall_mem_failures fun r hr s hs => ?_
    obtain ⟨f, -, hlinked⟩ := exists_mem_of_forall₂ (forall₂_of_mapM_eq_ok hresults) r hr
    rcases linked_of_linkField hlinked with ⟨a, rfl, -⟩ | ⟨e, rfl⟩
    · exact nomatch hs
    · obtain rfl := Except.error.inj hs
      rfl

/-- The last round settles on its own names. -/
theorem Stage.settles_last {base : Context} {chosen : List StructDecl} {kept : Finset String}
    {c : Context} {ds : List StructDecl}
    {results : List (Except FailedStruct (StructUnit × List Skipped))}
    (h : Stage base chosen kept c ds) (hround : (ds.mapM (tryStruct c)).outcome = .ok results)
    (hnone : failures results = []) :
    Settles base chosen kept
      ⟨(successes results).map Prod.fst, [], (successes results).flatMap Prod.snd, c⟩ kept := by
  have hunits := Stage.units_of_last hround hnone
  refine ⟨Finset.Subset.refl _, h.consistent_of_last hround hnone, fun s hs _ => hs, ?_, h.context,
    fun name hname => ?_, fun s hs => ?_⟩
  · rw [← h.decls, List.forall₂_map_right_iff]
    refine hunits.imp fun d linked hlink => ⟨linked.2, ?_⟩
    rw [← StructUnit.link_congr h.context]
    exact hlink
  · constructor
    · rintro ⟨s, hs, -⟩
      exact absurd hs List.not_mem_nil
    · intro hgone
      exact absurd hname hgone
  · obtain ⟨linked, hlinked, hmem⟩ := List.mem_flatMap.1 hs
    obtain ⟨d, -, hlink⟩ := exists_mem_of_forall₂ hunits linked hlinked
    exact kind_of_link hlink s hmem

/-- What the later rounds settle on, this one does, if the reports of what has failed in it come
first. -/
theorem Settles.after {base : Context} {chosen : List StructDecl} {kept : Finset String}
    {c : Context} {ds : List StructDecl}
    {results : List (Except FailedStruct (StructUnit × List Skipped))} {settled : Settled}
    {left : Finset String} (h : Stage base chosen kept c ds)
    (hround : (ds.mapM (tryStruct c)).outcome = .ok results)
    (hrest : Settles base chosen (remaining kept (failures results)) settled left) :
    Settles base chosen kept
      { settled with failed := (failures results).map FailedStruct.report ++ settled.failed }
      left := by
  have hless : remaining kept (failures results) ⊆ kept := fun _ hname => (mem_remaining.1 hname).1
  refine ⟨hrest.subset.trans hless, hrest.consistent, fun s hs hconsistent => ?_, hrest.units,
    hrest.context, fun name hname => ?_, hrest.fields⟩
  · refine hrest.greatest s (fun name hmem => mem_remaining.2 ⟨hs hmem, fun hfailed => ?_⟩)
      hconsistent
    obtain ⟨f, hf, rfl⟩ := List.mem_map.1 hfailed
    exact h.not_mem_of_failed hround hs hconsistent hf hmem
  · by_cases hfailed : name ∈ (failures results).map FailedStruct.name
    · have hgone : name ∉ left := fun hmem =>
        (mem_remaining.1 (hrest.subset hmem)).2 hfailed
      obtain ⟨f, hf, rfl⟩ := List.mem_map.1 hfailed
      refine iff_of_true ⟨f.report, ?_, rfl, rfl⟩ hgone
      exact List.mem_append_left _ (List.mem_map_of_mem hf)
    · rw [← hrest.failed name (mem_remaining.2 ⟨hname, hfailed⟩)]
      constructor
      · rintro ⟨s, hs, hkind, rfl⟩
        rcases List.mem_append.1 hs with hs | hs
        · obtain ⟨f, hf, rfl⟩ := List.mem_map.1 hs
          exact absurd (List.mem_map_of_mem hf) hfailed
        · exact ⟨s, hs, hkind, rfl⟩
      · rintro ⟨s, hs, hkind, rfl⟩
        exact ⟨s, List.mem_append_right _ hs, hkind, rfl⟩

/-- The rounds settle. -/
theorem Rounds.settles {n : Nat} {c : Context} {ds : List StructDecl} {settled : Settled}
    (hrounds : Rounds n c ds settled) {base : Context} {chosen : List StructDecl}
    {kept : Finset String} (h : Stage base chosen kept c ds) :
    ∃ left, Settles base chosen kept settled left := by
  induction hrounds generalizing kept with
  | last hround hnone => exact ⟨kept, h.settles_last hround hnone⟩
  | again hround _ _ ih =>
    obtain ⟨left, hrest⟩ := ih (h.next _ (h.mem_of_failed hround))
    exact ⟨left, Settles.after h hround hrest⟩

/-! ## The report -/

section reports

variable {decls : Declarations} {ctx : Context} {linked : List (Except Skipped EnumUnit)}
  {settled : Settled} {called : List (Except Skipped FunctionUnit)} {g : Generation}
  {final : Context}

/-- What is reported of enums is reported as such. -/
theorem Stages.kind_of_enum (h : Stages decls ctx linked settled called g final) :
    ∀ s ∈ failures linked, s.kind = .enumeration := by
  refine forall_mem_failures fun r hr s hs => ?_
  obtain ⟨d, -, hlinked⟩ := exists_mem_of_forall₂ (forall₂_of_mapM_eq_ok h.enums) r hr
  rcases linked_of_linkEnum hlinked with ⟨unit, rfl, -⟩ | ⟨e, rfl⟩
  · exact nomatch hs
  · obtain rfl := Except.error.inj hs
    rfl

/-- So is what is reported of functions. -/
theorem Stages.kind_of_function (h : Stages decls ctx linked settled called g final) :
    ∀ s ∈ failures called, s.kind = .function := by
  refine forall_mem_failures fun r hr s hs => ?_
  obtain ⟨d, -, _, _, _, hlinked⟩ := linked_of_linkFunctions h.functions r hr
  rcases linked_of_linkFunction hlinked with ⟨f, rfl, -⟩ | ⟨e, rfl⟩
  · exact nomatch hs
  · obtain rfl := Except.error.inj hs
    rfl

/-- The structs that a run reports are those that failed in its rounds. -/
theorem Stages.mem_skipped_record (h : Stages decls ctx linked settled called g final)
    (hfields : ∀ s ∈ settled.fields, s.kind = .field) (s : Skipped) (hkind : s.kind = .record) :
    s ∈ g.skipped ↔ s ∈ settled.failed := by
  have henums : s ∉ failures linked := fun hs => nomatch (h.kind_of_enum s hs).symm.trans hkind
  have hfunctions : s ∉ failures called := fun hs =>
    nomatch (h.kind_of_function s hs).symm.trans hkind
  have hfield : s ∉ settled.fields := fun hs => nomatch (hfields s hs).symm.trans hkind
  rw [h.generated]
  simp only [List.mem_append, henums, hfield, hfunctions, false_or, or_false]

end reports

/-! ## The run -/

/-- A run has kept the structs of these names. -/
structure Keeps (decls : Declarations) (ctx : Context) (g : Generation) (final : Context)
    (kept : Finset String) : Prop where
  /-- They are the largest consistent set of names that no rule excludes. -/
  greatest : IsGreatest {s | s ⊆ structNames (candidates ctx decls.structs) ∧
    Consistent (registerEnums ctx g.enums) (candidates ctx decls.structs) s} kept
  /-- The rounds that lead to them are at most one more than there are names. -/
  rounds : ∃ n settled, n ≤ (structNames (candidates ctx decls.structs)).card + 1 ∧
    Rounds n (registerStructs (registerEnums ctx g.enums) (candidates ctx decls.structs))
      (candidates ctx decls.structs) settled ∧ settled.units = g.structs
  /-- Their declarations, in order, have the units that linking gives under their wrappers. -/
  units : List.Forall₂ (fun d u => ∃ fields, (StructUnit.link d
      (keeping (registerEnums ctx g.enums) (candidates ctx decls.structs) kept)).outcome =
        .ok (u, fields))
    (decls.structs.filter fun d => d.name ∈ kept) g.structs
  /-- The registry in the end is theirs. -/
  registry : ∀ name, final.wrapper? name =
    (keeping (registerEnums ctx g.enums) (candidates ctx decls.structs) kept).wrapper? name
  /-- The other names are reported, and none of these. -/
  reported : ∀ name ∈ structNames (candidates ctx decls.structs),
    (∃ s ∈ g.skipped, s.kind = .record ∧ s.name = name) ↔ name ∉ kept

/-- Every declaration whose name is chosen is chosen. -/
theorem filter_candidates (ctx : Context) (ds : List StructDecl) {kept : Finset String}
    (h : kept ⊆ structNames (candidates ctx ds)) :
    ((candidates ctx ds).filter fun d => d.name ∈ kept) = ds.filter fun d => d.name ∈ kept := by
  rw [candidates, List.filter_filter]
  refine List.filter_congr fun d _ => ?_
  by_cases hkept : d.name ∈ kept
  · obtain ⟨d', hd', hname⟩ := mem_structNames.1 (h hkept)
    have hgenerates : (ctx.rules.structRule d'.name).generates = true := (List.mem_filter.1 hd').2
    rw [hname] at hgenerates
    simp [hkept, hgenerates]
  · simp [hkept]

/-- The rounds of a run keep the greatest consistent set of structs. -/
theorem Stages.exists_settles {decls : Declarations} {ctx : Context}
    {linked : List (Except Skipped EnumUnit)} {settled : Settled}
    {called : List (Except Skipped FunctionUnit)} {g : Generation} {final : Context}
    (h : Stages decls ctx linked settled called g final) :
    ∃ kept, Settles (registerEnums ctx g.enums) (candidates ctx decls.structs)
      (structNames (candidates ctx decls.structs)) settled kept := by
  have henums : g.enums = successes linked := by rw [h.generated]
  obtain ⟨n, hrounds, -⟩ := rounds_of_settle h.structs
  rw [henums]
  exact hrounds.settles (stage_start _ _)

/-- Every run ends, and it keeps the greatest consistent set of structs. -/
theorem keeps_greatest_consistent (decls : Declarations) (ctx : Context) :
    ∃ g final kept, (run decls ctx).outcome = .ok (g, final) ∧ Keeps decls ctx g final kept := by
  obtain ⟨g, final, hrun⟩ := exists_run decls ctx
  obtain ⟨linked, settled, called, hstages⟩ := stages_of_run hrun
  obtain ⟨kept, hsettles⟩ := hstages.exists_settles
  have henums : g.enums = successes linked := by rw [hstages.generated]
  have hstructs : g.structs = settled.units := by rw [hstages.generated]
  refine ⟨g, final, kept, hrun, ⟨⟨hsettles.subset, hsettles.consistent⟩, fun s hs => ?_⟩, ?_, ?_,
    fun name => ?_, fun name hname => ?_⟩
  · exact hsettles.greatest s hs.1 hs.2
  · obtain ⟨n, hrounds, hn⟩ := rounds_of_settle hstages.structs
    rw [← henums] at hrounds
    exact ⟨n, settled, hn, hrounds, hstructs.symm⟩
  · rw [hstructs, ← filter_candidates ctx decls.structs hsettles.subset]
    exact hsettles.units
  · have hall : ∀ d ∈ decls.functions, d ∈ decls.functions := fun _ hd => hd
    have hfinal := (linkFunctions_ends settled.ctx hall).of_ok hstages.functions
    obtain ⟨⟨requested, hlast⟩, -⟩ := hfinal
    have hlater : final.wrapper? name = settled.ctx.wrapper? name := by
      simp only at hlast
      rw [hlast]
      rfl
    rw [hlater]
    exact hsettles.context.wrapper name
  · rw [← hsettles.failed name hname]
    constructor
    · rintro ⟨s, hs, hkind, hsname⟩
      exact ⟨s, (hstages.mem_skipped_record hsettles.fields s hkind).1 hs, hkind, hsname⟩
    · rintro ⟨s, hs, hkind, hsname⟩
      exact ⟨s, (hstages.mem_skipped_record hsettles.fields s hkind).2 hs, hkind, hsname⟩

end Generation

end JniBridge
