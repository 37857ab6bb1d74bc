import JniBridge.Proofs.Distinct
/-
Structs without the fields that are skipped.

A struct can be declared without the fields that it skips (`StructDecl.trimmed`).  The other fields have
their accessors then as before, under names that are given out without what the skipped ones asked for.
So the accessors are the same exactly if no field that is skipped asks for a name that a later one asks
for (`StructUnit.accessors_trimmed_iff`).

A run in which the structs that are generated are declared like that keeps the same structs
(`Settles.kept_trimmed`).  A struct that has a layout has one with fewer fields, so what was consistent
is consistent still; and a struct that is trimmed has been kept with all its fields, so nothing that is
consistent now was not before.
-/

namespace JniBridge

open Naming

/-! ## Lists -/

/-- A row is known by its members and its names. -/
theorem eq_of_map_fst_of_map_snd {α β : Type} {xs ys : List (α × β)}
    (hfst : xs.map Prod.fst = ys.map Prod.fst) (hsnd : xs.map Prod.snd = ys.map Prod.snd) :
    xs = ys := by
  rw [List.zip_of_prod hfst hsnd, ← List.zip_of_prod rfl rfl]

/-- Lists that are computed from one list are equal. -/
theorem eq_of_forall₂_eq_ok {α β ε : Type} {f : α → Except ε β} {xs : List α} {ys zs : List β}
    (hys : List.Forall₂ (fun x y => f x = .ok y) xs ys)
    (hzs : List.Forall₂ (fun x z => f x = .ok z) xs zs) : ys = zs := by
  induction hys generalizing zs with
  | nil =>
    cases hzs
    rfl
  | cons hy _ ih =>
    cases hzs with
    | cons hz hrest =>
      rw [ih hrest, Except.ok.inj (hy.symm.trans hz)]

/-- What is related to one list on both sides is related over it. -/
theorem forall₂_over {α β γ : Type} {R : α → β → Prop} {S : α → γ → Prop} {xs : List α}
    {ys : List β} {zs : List γ} (hys : List.Forall₂ R xs ys) (hzs : List.Forall₂ S xs zs) :
    List.Forall₂ (fun y z => ∃ x ∈ xs, R x y ∧ S x z) ys zs := by
  induction hys generalizing zs with
  | nil =>
    cases hzs
    exact .nil
  | cons hy _ ih =>
    cases hzs with
    | cons hz hrest =>
      refine .cons ⟨_, List.mem_cons_self, hy, hz⟩ ((ih hrest).imp fun y z hyz => ?_)
      obtain ⟨x, hx, hxy, hxz⟩ := hyz
      exact ⟨x, List.mem_cons_of_mem _ hx, hxy, hxz⟩

/-- Lists of a kind can be filtered whole if a filter keeps all of a list or nothing. -/
theorem flatMap_filter {α β : Type} {f : α → List β} {p : α → Bool} {q : β → Bool}
    (h : ∀ x, ∀ y ∈ f x, q y = p x) (xs : List α) :
    (xs.filter p).flatMap f = (xs.flatMap f).filter q := by
  induction xs with
  | nil => rfl
  | cons x xs ih =>
    rw [List.flatMap_cons, List.filter_append, ← ih]
    cases hx : p x with
    | true =>
      have hall : (f x).filter q = f x :=
        List.filter_eq_self.2 fun y hy => (h x y hy).trans hx
      rw [List.filter_cons_of_pos hx, List.flatMap_cons, hall]
    | false =>
      have hnone : (f x).filter q = [] :=
        List.filter_eq_nil_iff.2 fun y hy => by
          rw [h x y hy, hx]
          exact Bool.false_ne_true
      rw [List.filter_cons_of_neg (by rw [hx]; exact Bool.false_ne_true), hnone, List.nil_append]

/-- Part of what has answers has answers. -/
theorem mapM_filter_ok {α β : Type} {f : α → Except LinkError β} {xs : List α} {ys : List β}
    (p : α → Bool) (h : xs.mapM f = .ok ys) : ∃ zs, (xs.filter p).mapM f = .ok zs := by
  induction xs generalizing ys with
  | nil => exact ⟨[], rfl⟩
  | cons x xs ih =>
    rw [List.mapM_cons] at h
    obtain ⟨y, hx, h⟩ := exists_of_except_bind h
    obtain ⟨rest, hrest, -⟩ := exists_of_except_bind h
    obtain ⟨zs, hzs⟩ := ih hrest
    rw [List.filter_cons]
    split
    · refine ⟨y :: zs, ?_⟩
      rw [List.mapM_cons, hx, hzs]
      rfl
    · exact ⟨zs, hzs⟩

/-! ## One struct -/

/-- The struct without the fields that have no accessors. -/
def StructDecl.trimmed (ctx : Context) (d : StructDecl) : StructDecl :=
  { d with fields := d.fields.filter (NamedType.accessible d.recordType ctx) }

/-- No field without accessors asks for a name that a later one with accessors asks for. -/
def StructDecl.Unshadowed (ctx : Context) (d : StructDecl) : Prop :=
  d.fields.Pairwise fun f g => f.accessible d.recordType ctx = false →
    g.accessible d.recordType ctx = true →
      ∀ a ∈ StructUnit.accessorBases f, ∀ b ∈ StructUnit.accessorBases g, a.2 ≠ b.2

theorem StructDecl.accessible_congr (d : StructDecl) (ctx ctx' : Context) :
    NamedType.accessible d.recordType ctx = NamedType.accessible d.recordType ctx' :=
  NamedType.accessible_congr rfl ctx ctx'

theorem StructDecl.trimmed_congr (d : StructDecl) (ctx ctx' : Context) :
    d.trimmed ctx = d.trimmed ctx' := by
  rw [trimmed, trimmed, d.accessible_congr ctx ctx']

theorem StructDecl.unshadowed_congr (d : StructDecl) (ctx ctx' : Context) :
    d.Unshadowed ctx ↔ d.Unshadowed ctx' := by
  rw [Unshadowed, Unshadowed, d.accessible_congr ctx ctx']

/-- A struct that has a layout has one with fewer fields. -/
theorem Layout.exists_ofDecl_trimmed {c : Context} {d : StructDecl} {layout : StructLayout}
    (ctx : Context) (h : ofDecl c d = .ok layout) :
    ∃ layout', ofDecl c (d.trimmed ctx) = .ok layout' := by
  rw [ofDecl] at h
  cases hplaced : d.fields.mapM (fieldLayout c) with
  | error e => simp only [hplaced, Except.map, reduceCtorEq] at h
  | ok placed =>
    obtain ⟨left, hleft⟩ := mapM_filter_ok (NamedType.accessible d.recordType ctx) hplaced
    refine ⟨⟨c.names.layoutField, c.names.sizeField, left⟩, ?_⟩
    rw [ofDecl, StructDecl.trimmed, hleft]
    rfl

namespace StructUnit

variable {ctx : Context} {d : StructDecl} {w : Wrapper} {u u' : StructUnit}
  {fields fields' : List Skipped}

/-- A field asks for its own accessors. -/
theorem fst_of_mem_accessorBases {f : NamedType} {asking : NamedType × String}
    (h : asking ∈ accessorBases f) : asking.1 = f := by
  rcases List.mem_pair.1 h with rfl | rfl <;> rfl

/-- The accessors have the names of the row. -/
theorem linkedNames_eq (ctx : Context) (d : StructDecl) :
    linkedNames ctx d =
      (accessorRow [] d.fields).filter fun named => named.1.1.accessible d.recordType ctx := by
  rw [linkedNames, linkedFields, ← flatMap_entries]
  refine flatMap_filter (fun n entry hentry => ?_) _
  rcases List.mem_pair.1 hentry with rfl | rfl <;> rfl

/-- All that is left of a trimmed struct has accessors. -/
theorem linkedNames_trimmed (ctx : Context) (d : StructDecl) :
    linkedNames ctx (d.trimmed ctx) = numberRow Prod.snd []
      ((d.fields.flatMap accessorBases).filter fun asking =>
        asking.1.accessible d.recordType ctx) := by
  have hbases : (d.trimmed ctx).fields.flatMap accessorBases =
      (d.fields.flatMap accessorBases).filter fun asking =>
        asking.1.accessible d.recordType ctx := by
    refine flatMap_filter (fun f asking hasking => ?_) _
    rw [fst_of_mem_accessorBases hasking]
  rw [linkedNames_eq, accessorRow, hbases]
  refine List.filter_eq_self.2 fun named hnamed => ?_
  have hmem := List.mem_map_of_mem (f := Prod.fst) hnamed
  rw [map_fst_numberRow] at hmem
  exact (List.mem_filter.1 hmem).2

/-- They have the names that they had exactly if nothing that is left out asks for one of these
before. -/
theorem linkedNames_trimmed_iff (ctx : Context) (d : StructDecl) :
    linkedNames ctx (d.trimmed ctx) = linkedNames ctx d ↔ d.Unshadowed ctx := by
  rw [linkedNames_trimmed, linkedNames_eq, accessorRow]
  refine (numberRow_filter_iff Prod.snd
    (fun asking : NamedType × String => asking.1.accessible d.recordType ctx) [] _).trans ?_
  rw [List.pairwise_flatMap]
  constructor
  · rintro ⟨-, hpairs⟩
    refine hpairs.imp fun {f g} hfg hf hg a ha b hb => hfg a ha b hb ?_ ?_
    · rw [fst_of_mem_accessorBases ha, hf]
    · rw [fst_of_mem_accessorBases hb, hg]
  · intro hpairs
    refine ⟨fun f _ => ?_, hpairs.imp fun {f g} hfg a ha b hb hno hyes => ?_⟩
    · -- one field has both accessors or none
      refine List.pairwise_iff_forall_sublist.2 fun {a b} hab hno hyes => ?_
      have ha : a.1 = f := fst_of_mem_accessorBases (hab.subset (by simp))
      have hb : b.1 = f := fst_of_mem_accessorBases (hab.subset (by simp))
      rw [ha, ← hb, hyes] at hno
      exact nomatch hno
    · rw [fst_of_mem_accessorBases ha] at hno
      rw [fst_of_mem_accessorBases hb] at hyes
      exact hfg hno hyes a ha b hb

/-- The entries of fields tell these apart. -/
theorem eq_of_flatMap_entries {ns ns' : List NamedField}
    (h : ns.flatMap NamedField.entries = ns'.flatMap NamedField.entries) : ns = ns' := by
  induction ns generalizing ns' with
  | nil =>
    cases ns' with
    | nil => rfl
    | cons n' ns' => exact nomatch h
  | cons n ns ih =>
    cases ns' with
    | nil => exact nomatch h
    | cons n' ns' =>
      simp only [List.flatMap_cons, NamedField.entries, List.cons_append, List.nil_append,
        List.cons.injEq, Prod.mk.injEq] at h
      obtain ⟨⟨⟨hfield, -⟩, hgetter⟩, ⟨-, hsetter⟩, hrest⟩ := h
      obtain ⟨f, getter, setter⟩ := n
      obtain ⟨f', getter', setter'⟩ := n'
      simp only at hfield hgetter hsetter
      rw [ih hrest, hfield, hgetter, hsetter]

/-- Without the fields that are skipped the accessors are the same exactly if no such field takes a
name from a later one. -/
theorem accessors_trimmed_iff (hw : ctx.wrapper? d.name = some w)
    (h : (link d ctx).outcome = .ok (u, fields))
    (h' : (link (d.trimmed ctx) ctx).outcome = .ok (u', fields')) :
    u'.accessors = u.accessors ↔ d.Unshadowed ctx := by
  have hw' : ctx.wrapper? (d.trimmed ctx).name = some w := hw
  rw [← linkedNames_trimmed_iff]
  constructor
  · intro haccessors
    refine eq_of_map_fst_of_map_snd ?_ ?_
    · rw [linkedNames_trimmed, map_fst_numberRow, linkedNames_eq, accessorRow]
      exact (map_fst_filter_numberRow Prod.snd
        (fun asking : NamedType × String => asking.1.accessible d.recordType ctx) _ _).symm
    · rw [← DowncallUnit.map_name_of_called (accessors_called hw h),
        ← DowncallUnit.map_name_of_called (accessors_called hw' h'), haccessors]
  · intro hnames
    have hfields : linkedFields ctx (d.trimmed ctx) = linkedFields ctx d :=
      eq_of_flatMap_entries hnames
    have haccessors := accessors_named hw' h'
    rw [hfields] at haccessors
    exact eq_of_forall₂_eq_ok haccessors (accessors_named hw h)

/-- A trimmed struct skips nothing. -/
theorem fields_trimmed (hw : ctx.wrapper? d.name = some w)
    (h : (link (d.trimmed ctx) ctx).outcome = .ok (u, fields)) : fields = [] := by
  have hw' : ctx.wrapper? (d.trimmed ctx).name = some w := hw
  have hreported := fields_reported hw' h
  have hnone : ((d.trimmed ctx).fields.filter fun f =>
      !f.accessible (d.trimmed ctx).recordType ctx) = [] := by
    refine List.filter_eq_nil_iff.2 fun f hf => ?_
    have haccessible : f.accessible d.recordType ctx = true := (List.mem_filter.1 hf).2
    show ¬ (!f.accessible d.recordType ctx) = true
    rw [haccessible]
    exact Bool.false_ne_true
  rw [hnone] at hreported
  exact List.map_eq_nil_iff.1 hreported

/-- A trimmed struct has the class that it had, and skips nothing. -/
theorem trimmed_of_link (h : (link d ctx).outcome = .ok (u, fields))
    (h' : (link (d.trimmed ctx) ctx).outcome = .ok (u', fields')) :
    u'.nativeName = u.nativeName ∧ u'.javaType = u.javaType ∧ fields' = [] ∧
      (u'.accessors = u.accessors ↔ d.Unshadowed ctx) := by
  obtain ⟨w, hw⟩ := exists_wrapper_of_link h
  have hw' : ctx.wrapper? (d.trimmed ctx).name = some w := hw
  obtain ⟨hname, htype⟩ := Generation.named_of_link hw h
  obtain ⟨hname', htype'⟩ := Generation.named_of_link hw' h'
  exact ⟨hname'.trans hname.symm, htype'.trans htype.symm, fields_trimmed hw h',
    accessors_trimmed_iff hw h h'⟩

end StructUnit

/-! ## The structs that are kept -/

/-- The struct, trimmed if it is one of those. -/
def StructDecl.trimmedAmong (ctx : Context) (names : List String) (d : StructDecl) : StructDecl :=
  if d.name ∈ names then d.trimmed ctx else d

@[simp]
theorem StructDecl.name_trimmedAmong (ctx : Context) (names : List String) (d : StructDecl) :
    (d.trimmedAmong ctx names).name = d.name := by
  unfold trimmedAmong
  split <;> rfl

namespace Generation

variable {ctx base : Context} {names : List String} {chosen : List StructDecl}

theorem structNames_trimmed :
    structNames (chosen.map (StructDecl.trimmedAmong ctx names)) = structNames chosen := by
  have hname : StructDecl.name ∘ StructDecl.trimmedAmong ctx names = StructDecl.name :=
    funext (StructDecl.name_trimmedAmong ctx names)
  rw [structNames, structNames, List.map_map, hname]

theorem candidates_trimmed (ds : List StructDecl) :
    candidates base (ds.map (StructDecl.trimmedAmong ctx names)) =
      (candidates base ds).map (StructDecl.trimmedAmong ctx names) := by
  rw [candidates, List.filter_map, candidates]
  refine congrArg _ (List.filter_congr fun d _ => ?_)
  simp only [Function.comp_apply, StructDecl.name_trimmedAmong]

/-- Which wrappers are registered depends on names only. -/
theorem keeping_agrees {chosen' : List StructDecl} (h : structNames chosen = structNames chosen')
    (kept : Finset String) :
    (keeping base chosen kept).Agrees (keeping base chosen' kept) := by
  have hwrapper : ∀ record, (keeping base chosen kept).wrapper? record =
      (keeping base chosen' kept).wrapper? record := by
    intro record
    rw [wrapper?_keeping, wrapper?_keeping, h]
  obtain ⟨structs, hkeeping⟩ := keeping_eq base chosen kept
  obtain ⟨structs', hkeeping'⟩ := keeping_eq base chosen' kept
  rw [hkeeping, hkeeping'] at hwrapper ⊢
  exact (Context.Agrees.refl base).withStructs hwrapper

variable {settled settled' : Settled} {kept kept' : Finset String}

/-- With the kept structs trimmed, the same structs are kept. -/
theorem Settles.kept_trimmed (h : Settles base chosen (structNames chosen) settled kept)
    (hnames : ∀ name, name ∈ names ↔ name ∈ kept)
    (h' : Settles base (chosen.map (StructDecl.trimmedAmong ctx names))
      (structNames (chosen.map (StructDecl.trimmedAmong ctx names))) settled' kept') :
    kept' = kept := by
  have hsame : structNames (chosen.map (StructDecl.trimmedAmong ctx names)) = structNames chosen :=
    structNames_trimmed
  have hagrees : ∀ s, (keeping base (chosen.map (StructDecl.trimmedAmong ctx names)) s).Agrees
      (keeping base chosen s) := keeping_agrees hsame
  -- what was consistent is consistent still
  have hkept : kept ⊆ kept' := by
    refine h'.greatest kept (h.subset.trans hsame.superset) fun d' hd' hmem => ?_
    obtain ⟨d, hd, rfl⟩ := List.mem_map.1 hd'
    rw [StructDecl.name_trimmedAmong] at hmem ⊢
    rcases h.consistent d hd hmem with hsilent | ⟨layout, hlayout⟩
    · exact Or.inl hsilent
    · rw [Layout.ofDecl_congr (hagrees kept), StructDecl.trimmedAmong, if_pos ((hnames _).2 hmem)]
      exact Or.inr (Layout.exists_ofDecl_trimmed ctx hlayout)
  -- whoever is trimmed was kept with all fields
  have hkept' : kept' ⊆ kept := by
    refine h.greatest kept' (h'.subset.trans hsame.subset) fun d hd hmem => ?_
    by_cases hbefore : d.name ∈ kept
    · rcases h.consistent d hd hbefore with hsilent | ⟨layout, hlayout⟩
      · exact Or.inl hsilent
      · exact Or.inr ⟨layout, Layout.ofDecl_of_below (keeping_below hkept) hlayout⟩
    · have hwhole : d.trimmedAmong ctx names = d :=
        if_neg fun hname => hbefore ((hnames _).1 hname)
      have hd' := List.mem_map_of_mem (f := StructDecl.trimmedAmong ctx names) hd
      rw [hwhole] at hd'
      rw [← Layout.ofDecl_congr (hagrees kept')]
      exact h'.consistent d hd' hmem
  exact Finset.Subset.antisymm hkept' hkept

/-- So what comes after the structs is linked under contexts that agree. -/
theorem Settles.agrees_trimmed (h : Settles base chosen (structNames chosen) settled kept)
    (hnames : ∀ name, name ∈ names ↔ name ∈ kept)
    (h' : Settles base (chosen.map (StructDecl.trimmedAmong ctx names))
      (structNames (chosen.map (StructDecl.trimmedAmong ctx names))) settled' kept') :
    settled'.ctx.Agrees settled.ctx := by
  obtain rfl := h.kept_trimmed hnames h'
  exact (h'.context.trans (keeping_agrees structNames_trimmed kept')).trans h.context.symm

/-- And so are the structs themselves, with all fields and trimmed. -/
theorem Settles.units_trimmed (h : Settles base chosen (structNames chosen) settled kept)
    (hnames : ∀ name, name ∈ names ↔ name ∈ kept)
    (h' : Settles base (chosen.map (StructDecl.trimmedAmong ctx names))
      (structNames (chosen.map (StructDecl.trimmedAmong ctx names))) settled' kept') :
    List.Forall₂ (fun u u' => ∃ d ∈ chosen, ∃ fields fields',
        (StructUnit.link d settled.ctx).outcome = .ok (u, fields) ∧
          (StructUnit.link (d.trimmed ctx) settled.ctx).outcome = .ok (u', fields'))
      settled.units settled'.units := by
  have hagrees := h.agrees_trimmed hnames h'
  obtain rfl := h.kept_trimmed hnames h'
  -- both lists of units come from the structs that are kept
  have hunits' := h'.units
  rw [List.filter_map, List.forall₂_map_left_iff] at hunits'
  simp only [Function.comp_def, StructDecl.name_trimmedAmong] at hunits'
  refine (forall₂_over h.units hunits').imp fun u u' hboth => ?_
  obtain ⟨d, hd, ⟨fields, hlink⟩, fields', hlink'⟩ := hboth
  obtain ⟨hchosen, hkept⟩ := List.mem_filter.1 hd
  have htrimmed : d.trimmedAmong ctx names = d.trimmed ctx :=
    if_pos ((hnames d.name).2 (of_decide_eq_true hkept))
  rw [htrimmed, ← StructUnit.link_congr h'.context, StructUnit.link_congr hagrees] at hlink'
  rw [← StructUnit.link_congr h.context] at hlink
  exact ⟨d, hchosen, fields, fields', hlink, hlink'⟩

end Generation

end JniBridge
