import JniBridge.Proofs.Grammar
/-
Canonical trees, paired with the trees they come from.

A front end hands over trees in which every typedef is replaced by what it stands for
(`CType.canonical`), laid beside the tree that the source wrote (`CType.paired`).  Pairing walks two
trees of which only one has typedefs, so that it has to keep in step with itself: at every depth it must
arrive at the node that belongs there.  That it does so is said once, for one node and what is right
below it (`CType.counterpart_paired`), and everything that is asked of a type follows.

The one thing that can be lost is a typedef name, and only where the two trees are spelled alike, since
then the written tree is not kept (`CType.sugarNames_paired`).
-/

namespace JniBridge

namespace CType

/-! ## Trees -/

/-- Every node of the tree satisfies the predicate; what the source wrote is not looked at. -/
inductive Throughout (Q : CType → Prop) : CType → Prop
  | scalar {k s p} (here : Q (.scalar k s p)) : Throughout Q (.scalar k s p)
  | pointer {pointee s p} (here : Q (.pointer pointee s p)) (below : Throughout Q pointee) :
    Throughout Q (.pointer pointee s p)
  | record {s p} (here : Q (.record s p)) : Throughout Q (.record s p)
  | enumeration {s p} (here : Q (.enumeration s p)) : Throughout Q (.enumeration s p)
  | prototype {returns params s p} (here : Q (.prototype returns params s p))
    (result : Throughout Q returns) (arguments : ∀ t ∈ params, Throughout Q t) :
    Throughout Q (.prototype returns params s p)
  | typedef {name defined p} (here : Q (.typedef name defined p)) (below : Throughout Q defined) :
    Throughout Q (.typedef name defined p)
  | array {element n s p} (here : Q (.array element n s p)) (below : Throughout Q element) :
    Throughout Q (.array element n s p)

section throughout

variable {Q : CType → Prop} {t : CType}

theorem Throughout.root (h : Throughout Q t) : Q t := by
  cases h <;> assumption

theorem Throughout.desugared (h : Throughout Q t) : Throughout Q t.desugared := by
  fun_induction CType.desugared t with
  | case1 name defined p ih =>
    cases h with
    | typedef _ below => exact ih below
  | case2 t _ => exact h

theorem Throughout.pointee (h : Throughout Q t) {pointee : CType} (hp : t.pointee? = some pointee) :
    Throughout Q pointee := by
  have hd := h.desugared
  unfold pointee? at hp
  split at hp
  · next q s p hq =>
    obtain rfl := Option.some.inj hp
    rw [hq] at hd
    cases hd with
    | pointer _ below => exact below
  · exact nomatch hp

theorem Throughout.prototype_types (h : Throughout Q t) {returns : CType} {params : List CType}
    (hp : t.prototype? = some (returns, params)) :
    Throughout Q returns ∧ ∀ p ∈ params, Throughout Q p := by
  have hd := h.desugared
  unfold prototype? at hp
  split at hp
  · next r ps s p hr =>
    obtain ⟨rfl, rfl⟩ := Prod.mk.inj (Option.some.inj hp)
    rw [hr] at hd
    cases hd with
    | prototype _ result arguments => exact ⟨result, arguments⟩
  · exact nomatch hp

end throughout

/-- The tree is made by the constructors, and nothing in it is paired. -/
def Built : CType → Prop := Throughout fun node => node.source = .unpaired

/-! ## Canonical trees -/

mutual
/-- Every typedef replaced by what it stands for, and what is above it spelled accordingly. -/
def canonical : CType → CType
  | scalar k s _ => ofScalar k s
  | pointer p _ _ => pointerTo p.canonical
  | record s _ => ofRecord s
  | enumeration s _ => ofEnumeration s
  | prototype r ps _ _ => function r.canonical (canonicalAll ps)
  | typedef _ d _ => d.canonical
  | array e n _ _ => arrayOf e.canonical n

def canonicalAll : List CType → List CType
  | [] => []
  | t :: ts => t.canonical :: canonicalAll ts
end

theorem canonicalAll_eq_map (ts : List CType) : canonicalAll ts = ts.map canonical := by
  induction ts with
  | nil => rfl
  | cons t ts ih => rw [canonicalAll, ih, List.map_cons]

/-- The canonical tree, every node of it paired with its counterpart in the tree. -/
def paired (t : CType) : CType := t.canonical.pairWith t

theorem pairAll_canonicalAll (ts : List CType) : pairAll (canonicalAll ts) ts = ts.map paired := by
  induction ts with
  | nil => rfl
  | cons t ts ih => rw [canonicalAll, pairAll, ih, List.map_cons, paired]

/-- Pointers are spelled in two ways, but built in one. -/
theorem exists_pointerTo (t : CType) : ∃ s, pointerTo t = .pointer t s .unpaired := by
  cases t <;> exact ⟨_, rfl⟩

/-! ## Counterparts -/

/-- The second node is built like the first, and what is right below it is paired. -/
inductive Counterpart : CType → CType → Prop
  | scalar {k s p p'} : Counterpart (.scalar k s p) (.scalar k s p')
  | pointer {pointee s p s' p'} : Counterpart (.pointer pointee s p) (.pointer pointee.paired s' p')
  | record {s p p'} : Counterpart (.record s p) (.record s p')
  | enumeration {s p p'} : Counterpart (.enumeration s p) (.enumeration s p')
  | prototype {returns params s p s' p'} :
    Counterpart (.prototype returns params s p) (.prototype returns.paired (params.map paired) s' p')
  | array {element n s p s' p'} :
    Counterpart (.array element n s p) (.array element.paired n s' p')

/-- Whatever typedefs stand above it, a node is paired with the node that it comes from. -/
theorem counterpart_pairWith {t tree : CType} (h : tree.desugared = t.desugared) :
    Counterpart t.desugared (t.canonical.pairWith tree) := by
  -- typedefs of the canonical tree are gone, and those of the written one are looked through
  fun_induction desugared t with
  | case1 name defined p ih =>
    rw [canonical]
    exact ih h
  | case2 t hnot =>
    cases t with
    | scalar k s p => exact .scalar
    | pointer pointee s p =>
      obtain ⟨s', hs'⟩ := exists_pointerTo pointee.canonical
      rw [canonical, hs', pairWith, h]
      exact .pointer
    | record s p => exact .record
    | enumeration s p => exact .enumeration
    | prototype returns params s p =>
      have hlength : (canonicalAll params).length = params.length := by
        rw [canonicalAll_eq_map, List.length_map]
      rw [canonical, function, pairWith, h]
      dsimp only
      rw [if_pos hlength, pairAll_canonicalAll]
      exact .prototype
    | typedef name defined p => exact absurd rfl (hnot name defined p)
    | array element n s p =>
      rw [canonical, arrayOf, pairWith, h]
      exact .array

theorem counterpart_paired (t : CType) : Counterpart t.desugared t.paired :=
  counterpart_pairWith rfl

/-! ## What a paired tree is -/

theorem Counterpart.desugared {d d' : CType} (h : Counterpart d d') : d'.desugared = d' := by
  cases h <;> rfl

theorem Counterpart.typedefNames {d d' : CType} (h : Counterpart d d') : d'.typedefNames = [] := by
  cases h <;> rfl

theorem Counterpart.kind {d d' : CType} (h : Counterpart d d') : d'.kind = d.kind := by
  cases h with
  | @array element n => cases n <;> rfl
  | _ => rfl

@[simp]
theorem paired_desugared (t : CType) : t.paired.desugared = t.paired := t.counterpart_paired.desugared

@[simp]
theorem kind_paired (t : CType) : t.paired.kind = t.desugared.kind := t.counterpart_paired.kind

theorem pointee?_paired (t : CType) : t.paired.pointee? = t.pointee?.map paired := by
  have h := t.counterpart_paired
  rw [pointee?, pointee?, paired_desugared]
  generalize t.desugared = d, t.paired = d' at h
  cases h <;> rfl

theorem prototype?_paired (t : CType) :
    t.paired.prototype? = t.prototype?.map fun s => (s.1.paired, s.2.map paired) := by
  have h := t.counterpart_paired
  rw [prototype?, prototype?, paired_desugared]
  generalize t.desugared = d, t.paired = d' at h
  cases h <;> rfl

theorem isVoid_paired (t : CType) : t.paired.isVoid = t.isVoid := by
  rw [isVoid, isVoid, paired_desugared, kind_paired]

/-- A context stays one: the pointee is spelled by itself, for it is a scalar. -/
theorem isBareVoidPointer_paired (t : CType) : t.paired.isBareVoidPointer = t.isBareVoidPointer := by
  rw [isBareVoidPointer, isBareVoidPointer, isVoidPointer, isVoidPointer, pointee?_paired]
  cases t.pointee? with
  | none => rfl
  | some pointee =>
    have h := pointee.counterpart_paired
    show (pointee.paired.isVoid && pointee.paired.desugared.spelling == "void") =
      (pointee.isVoid && pointee.desugared.spelling == "void")
    rw [isVoid, isVoid, paired_desugared]
    generalize pointee.desugared = d, pointee.paired = d' at h
    cases h with
    | @array element n => cases n <;> rfl
    | _ => rfl

/-! ## Spellings -/

/-- A node keeps its spelling, and remembers what it is paired with if that is spelled otherwise. -/
theorem root_pairWith (t tree : CType) :
    (t.pairWith tree).spelling = t.spelling ∧ (t.pairWith tree).source = pairing t.spelling tree := by
  cases t with
  | prototype returns params s p =>
    rw [pairWith]
    split
    · split <;> exact ⟨rfl, rfl⟩
    · exact ⟨rfl, rfl⟩
  | _ => exact ⟨rfl, rfl⟩

/-- A paired node is spelled in source as what it is paired with. -/
theorem sourceSpelling_pairWith (t tree : CType) :
    (t.pairWith tree).sourceSpelling = tree.spelling := by
  obtain ⟨hspelling, hsource⟩ := root_pairWith t tree
  rw [sourceSpelling, hsource, hspelling, pairing]
  by_cases hsame : t.spelling = tree.spelling
  · rw [if_pos hsame]
    exact hsame
  · rw [if_neg hsame]

theorem Built.sourceSpelling {t : CType} (h : t.Built) : t.sourceSpelling = t.spelling := by
  rw [CType.sourceSpelling, h.root]

theorem sourceSpelling_paired {t : CType} (h : t.Built) :
    t.paired.sourceSpelling = t.sourceSpelling := by
  rw [paired, sourceSpelling_pairWith, h.sourceSpelling]

/-! ## Typedef names -/

/-- The names of the integer typedefs that promise a width. -/
def recognised (name : String) : Bool :=
  pointerSizedNames.contains name || (fixedWidthNames.lookup name).isSome

/-- A recognised typedef of the type, if there is one, shows in how its canonical tree is spelled. -/
def Shown (t : CType) : Prop :=
  t.canonical.spelling = t.spelling → ∀ name ∈ t.typedefNames, recognised name = false

/-- The names are kept, or none of them matters. -/
theorem sugarNames_paired {t : CType} (hbuilt : t.Built) (hshown : t.Shown) :
    t.paired.sugarNames = t.sugarNames ∨
      t.paired.sugarNames = [] ∧ ∀ name ∈ t.sugarNames, recognised name = false := by
  have hnames : t.sugarNames = t.typedefNames := by
    rw [sugarNames, hbuilt.root]
    exact List.append_nil _
  have hpaired : t.paired.typedefNames = [] := t.counterpart_paired.typedefNames
  have hsource : t.paired.source = pairing t.canonical.spelling t :=
    (root_pairWith t.canonical t).2
  rw [hnames, sugarNames, hpaired, hsource, pairing]
  by_cases hsame : t.canonical.spelling = t.spelling
  · rw [if_pos hsame]
    exact .inr ⟨rfl, hshown hsame⟩
  · rw [if_neg hsame]
    exact .inl rfl

theorem pointerSized?_paired {t : CType} (hbuilt : t.Built) (hshown : t.Shown) :
    t.paired.pointerSized? = t.pointerSized? := by
  rcases sugarNames_paired hbuilt hshown with hkept | ⟨hlost, hnone⟩
  · rw [pointerSized?, pointerSized?, hkept]
  · rw [pointerSized?, pointerSized?, hlost, List.find?_nil, eq_comm, List.find?_eq_none]
    intro name hname hcontains
    have hrecognised : recognised name = true := by rw [recognised, hcontains, Bool.true_or]
    rw [hnone name hname] at hrecognised
    exact nomatch hrecognised

theorem fixedWidth?_paired {t : CType} (hbuilt : t.Built) (hshown : t.Shown) :
    t.paired.fixedWidth? = t.fixedWidth? := by
  rcases sugarNames_paired hbuilt hshown with hkept | ⟨hlost, hnone⟩
  · rw [fixedWidth?, fixedWidth?, hkept]
  · rw [fixedWidth?, fixedWidth?, hlost, List.findSome?_nil, eq_comm, List.findSome?_eq_none_iff]
    intro name hname
    have hrecognised := hnone name hname
    rw [recognised, Bool.or_eq_false_iff] at hrecognised
    exact Option.not_isSome_iff_eq_none.1 (ne_true_of_eq_false hrecognised.2)

end CType

end JniBridge
