import JniBridge.Proofs.Canonical
import JniBridge.Proofs.Faces
import JniBridge.Proofs.Together
/-
Typedefs that are looked through.

Linking asks of a typedef only whether its name is recognised.  What is left of a type without the others,
at any depth, is its skeleton (`CType.skeleton`): kinds and lengths, the names of records and enums, how
scalars are spelled, and the recognised names.  Composite nodes may be spelled in any way.

Two types of one skeleton are synonymous (`CType.Synonymous`).  Down their typedefs they come to nodes that
are built alike, of synonymous parts (`Synonymous.node`), and every question that linking asks of a type
follows from there, up to the face of its values (`Synonymous.face?_eq`).
-/

namespace JniBridge

/-- What is related to something is something. -/
theorem exists_of_rel {α β : Type} {R : α → β → Prop} {a : α} {b : Option β}
    (h : Option.Rel R (some a) b) : ∃ x, b = some x ∧ R a x := by
  cases h with
  | some h => exact ⟨_, rfl, h⟩

/-! ## Skeletons -/

/-- What linking can tell of a type. -/
inductive Skeleton where
  | scalar (kind : Scalar) (spelling : String)
  | pointer (pointee : Skeleton)
  | record (name : String)
  | enumeration (name : String)
  | prototype (returns : Skeleton) (params : List Skeleton)
  /-- A typedef of a recognised name. -/
  | typedef (name : String) (defined : Skeleton)
  | array (element : Skeleton) (length : Option Nat)

namespace Skeleton

/-- The first node that is no typedef. -/
def desugared : Skeleton → Skeleton
  | typedef _ defined => defined.desugared
  | s => s

/-- The typedef names on the way there. -/
def names : Skeleton → List String
  | typedef name defined => name :: defined.names
  | _ => []

end Skeleton

namespace CType

mutual
/-- The type without the typedefs that are not recognised, and without the spellings of what is built. -/
def skeleton : CType → Skeleton
  | scalar k s _ => .scalar k s
  | pointer p _ _ => .pointer p.skeleton
  | record s _ => .record (tagName s)
  | enumeration s _ => .enumeration (tagName s)
  | prototype r ps _ _ => .prototype r.skeleton (skeletons ps)
  | typedef name d _ => if recognised name then .typedef name d.skeleton else d.skeleton
  | array e n _ _ => .array e.skeleton n

def skeletons : List CType → List Skeleton
  | [] => []
  | t :: ts => t.skeleton :: skeletons ts
end

theorem skeleton_desugared (t : CType) : t.desugared.skeleton = t.skeleton.desugared := by
  fun_induction desugared t with
  | case1 name defined p ih =>
    rw [skeleton, ih]
    split <;> rfl
  | case2 t hnot =>
    cases t with
    | typedef name defined p => exact absurd rfl (hnot name defined p)
    | _ => rfl

theorem desugared_ne_typedef (t : CType) (name : String) (defined : CType) (p : Pairing CType) :
    t.desugared ≠ .typedef name defined p := by
  fun_induction desugared t with
  | case1 _ _ _ ih => exact ih
  | case2 t hnot => exact hnot name defined p

/-- Recognised names are kept, in order. -/
theorem names_skeleton (t : CType) : t.skeleton.names = t.typedefNames.filter recognised := by
  fun_induction typedefNames t with
  | case1 name defined p ih =>
    rw [skeleton, List.filter_cons]
    split
    · rw [Skeleton.names, ih]
    · exact ih
  | case2 t hnot =>
    cases t with
    | typedef name defined p => exact absurd rfl (hnot name defined p)
    | _ => rfl

/-! ## Synonymous types -/

/-- The types differ in typedefs that are not recognised, and in how they are spelled where that is left
open.  Neither is paired with another tree. -/
structure Synonymous (t t' : CType) : Prop where
  built : t.Built
  built' : t'.Built
  skeleton : t.skeleton = t'.skeleton

theorem forall₂_of_skeletons {ts ts' : List CType} (h : ∀ t ∈ ts, t.Built) (h' : ∀ t ∈ ts', t.Built)
    (hsame : skeletons ts = skeletons ts') : List.Forall₂ Synonymous ts ts' := by
  induction ts generalizing ts' with
  | nil =>
    cases ts' with
    | nil => exact .nil
    | cons => exact nomatch hsame
  | cons t ts ih =>
    cases ts' with
    | nil => exact nomatch hsame
    | cons t' ts' =>
      obtain ⟨ht, hts⟩ := List.forall_mem_cons.1 h
      obtain ⟨ht', hts'⟩ := List.forall_mem_cons.1 h'
      obtain ⟨hfirst, hothers⟩ := List.cons.inj hsame
      exact .cons ⟨ht, ht', hfirst⟩ (ih hts hts' hothers)

/-- Nodes that are built alike, of synonymous parts. -/
inductive SameNode : CType → CType → Prop
  | scalar {k s p p'} : SameNode (.scalar k s p) (.scalar k s p')
  | pointer {t t' s s' p p'} (pointee : t.Synonymous t') :
    SameNode (.pointer t s p) (.pointer t' s' p')
  | record {s s' p p'} (name : tagName s = tagName s') : SameNode (.record s p) (.record s' p')
  | enumeration {s s' p p'} (name : tagName s = tagName s') :
    SameNode (.enumeration s p) (.enumeration s' p')
  | prototype {r r' ps ps' s s' p p'} (returns : r.Synonymous r')
    (params : List.Forall₂ Synonymous ps ps') :
    SameNode (.prototype r ps s p) (.prototype r' ps' s' p')
  | array {e e' n s s' p p'} (element : e.Synonymous e') :
    SameNode (.array e n s p) (.array e' n s' p')

namespace Synonymous

variable {t t' : CType}

theorem symm (h : t.Synonymous t') : t'.Synonymous t := ⟨h.built', h.built, h.skeleton.symm⟩

theorem desugared (h : t.Synonymous t') : t.desugared.Synonymous t'.desugared where
  built := h.built.desugared
  built' := h.built'.desugared
  skeleton := by rw [skeleton_desugared, skeleton_desugared, h.skeleton]

/-- Down their typedefs, synonymous types are built alike. -/
theorem node (h : t.Synonymous t') : SameNode t.desugared t'.desugared := by
  have hnode := h.desugared
  have hnot := t.desugared_ne_typedef
  have hnot' := t'.desugared_ne_typedef
  generalize t.desugared = d, t'.desugared = d' at hnode hnot hnot'
  obtain ⟨hbuilt, hbuilt', hskeleton⟩ := hnode
  cases hbuilt with
  | scalar =>
    cases hbuilt' with
    | scalar =>
      obtain ⟨rfl, rfl⟩ := Skeleton.scalar.inj hskeleton
      exact .scalar
    | typedef => exact absurd rfl (hnot' _ _ _)
    | _ => exact nomatch hskeleton
  | pointer _ hpointee =>
    cases hbuilt' with
    | pointer _ hpointee' => exact .pointer ⟨hpointee, hpointee', Skeleton.pointer.inj hskeleton⟩
    | typedef => exact absurd rfl (hnot' _ _ _)
    | _ => exact nomatch hskeleton
  | record =>
    cases hbuilt' with
    | record => exact .record (Skeleton.record.inj hskeleton)
    | typedef => exact absurd rfl (hnot' _ _ _)
    | _ => exact nomatch hskeleton
  | enumeration =>
    cases hbuilt' with
    | enumeration => exact .enumeration (Skeleton.enumeration.inj hskeleton)
    | typedef => exact absurd rfl (hnot' _ _ _)
    | _ => exact nomatch hskeleton
  | prototype _ hreturns hparams =>
    cases hbuilt' with
    | prototype _ hreturns' hparams' =>
      obtain ⟨hr, hps⟩ := Skeleton.prototype.inj hskeleton
      refine .prototype ⟨hreturns, hreturns', hr⟩ ?_
      exact forall₂_of_skeletons hparams hparams' hps
    | typedef => exact absurd rfl (hnot' _ _ _)
    | _ => exact nomatch hskeleton
  | array _ helement =>
    cases hbuilt' with
    | array _ helement' =>
      obtain ⟨he, rfl⟩ := Skeleton.array.inj hskeleton
      exact .array ⟨helement, helement', he⟩
    | typedef => exact absurd rfl (hnot' _ _ _)
    | _ => exact nomatch hskeleton
  | typedef => exact absurd rfl (hnot _ _ _)

/-! ## What linking asks of a type -/

theorem kind_eq (h : t.Synonymous t') : t.desugared.kind = t'.desugared.kind := by
  have hnode := h.node
  generalize t.desugared = d, t'.desugared = d' at hnode
  cases hnode with
  | @array _ _ n => cases n <;> rfl
  | _ => rfl

theorem isVoid_eq (h : t.Synonymous t') : t.isVoid = t'.isVoid := by
  rw [isVoid, isVoid, h.kind_eq]

theorem pointee_rel (h : t.Synonymous t') : Option.Rel Synonymous t.pointee? t'.pointee? := by
  have hnode := h.node
  unfold pointee?
  generalize t.desugared = d, t'.desugared = d' at hnode
  cases hnode with
  | pointer pointee => exact .some pointee
  | _ => exact .none

theorem prototype_rel (h : t.Synonymous t') :
    Option.Rel (fun s s' => s.1.Synonymous s'.1 ∧ List.Forall₂ Synonymous s.2 s'.2) t.prototype?
      t'.prototype? := by
  have hnode := h.node
  unfold prototype?
  generalize t.desugared = d, t'.desugared = d' at hnode
  cases hnode with
  | prototype returns params => exact .some ⟨returns, params⟩
  | _ => exact .none

theorem recordName?_eq (h : t.Synonymous t') : t.recordName? = t'.recordName? := by
  have hnode := h.node
  unfold recordName?
  generalize t.desugared = d, t'.desugared = d' at hnode
  cases hnode with
  | record name => exact congrArg some name
  | _ => rfl

/-- A context stays one: `void` is spelled the same on both sides, for it is a scalar. -/
theorem isBareVoidPointer_eq (h : t.Synonymous t') : t.isBareVoidPointer = t'.isBareVoidPointer := by
  have hpointee := h.pointee_rel
  unfold isBareVoidPointer isVoidPointer
  generalize t.pointee? = p, t'.pointee? = p' at hpointee
  cases hpointee with
  | none => rfl
  | @some p p' hp =>
    have hnode := hp.node
    simp only [Option.any_some, isVoid]
    generalize p.desugared = d, p'.desugared = d' at hnode
    cases hnode with
    | @array _ _ n => cases n <;> rfl
    | _ => rfl

theorem isContext_iff (h : t.Synonymous t') : t.IsContext ↔ t'.IsContext := by
  rw [← isBareVoidPointer_iff, ← isBareVoidPointer_iff, h.isBareVoidPointer_eq]

/-! ## Recognised names -/

theorem recognisedNames_eq (h : t.Synonymous t') :
    t.sugarNames.filter recognised = t'.sugarNames.filter recognised := by
  have hnames : ∀ {t : CType}, t.Built → t.sugarNames = t.typedefNames := by
    intro t ht
    rw [sugarNames, ht.root]
    exact List.append_nil _
  rw [hnames h.built, hnames h.built', ← names_skeleton, ← names_skeleton, h.skeleton]

theorem pointerSized?_eq (h : t.Synonymous t') : t.pointerSized? = t'.pointerSized? := by
  have hfilter : ∀ names : List String, names.find? pointerSizedNames.contains =
      (names.filter recognised).find? pointerSizedNames.contains := by
    intro names
    rw [List.find?_filter]
    congr 1
    funext name
    rw [recognised]
    cases pointerSizedNames.contains name <;> simp
  rw [pointerSized?, pointerSized?, hfilter, hfilter t'.sugarNames, h.recognisedNames_eq]

theorem fixedWidth?_eq (h : t.Synonymous t') : t.fixedWidth? = t'.fixedWidth? := by
  have hfilter : ∀ names : List String, names.findSome? (fun name => fixedWidthNames.lookup name) =
      (names.filter recognised).findSome? fun name => fixedWidthNames.lookup name := by
    intro names
    induction names with
    | nil => rfl
    | cons name names ih =>
      rw [List.findSome?_cons, List.filter_cons]
      cases hlookup : fixedWidthNames.lookup name with
      | some w =>
        rw [if_pos (by rw [recognised, hlookup, Option.isSome_some, Bool.or_true]),
          List.findSome?_cons, hlookup]
      | none =>
        dsimp only
        rw [ih]
        by_cases hname : recognised name = true
        · rw [if_pos hname, List.findSome?_cons, hlookup]
        · rw [if_neg hname]
  rw [fixedWidth?, fixedWidth?, hfilter, hfilter t'.sugarNames, h.recognisedNames_eq]

/-- Failures spell the type, answers do not. -/
theorem primitiveShape_eq (h : t.Synonymous t') :
    t.primitiveShape.toOption = t'.primitiveShape.toOption := by
  unfold primitiveShape
  rw [h.kind_eq, h.pointerSized?_eq, h.fixedWidth?_eq]
  cases t'.pointerSized? with
  | some name => rfl
  | none =>
    cases t'.fixedWidth? with
    | some w => rfl
    | none =>
      cases t'.desugared.kind with
      | scalar k => cases hk : k.carrier? <;> simp [hk, Except.toOption]
      | _ => rfl

end Synonymous

/-! ## Shapes -/

/-- The shapes are the same, but for what pointers point at. -/
inductive SameShape : Shape → Shape → Prop
  | primitive : SameShape .primitive .primitive
  | nativeString : SameShape .nativeString .nativeString
  | functionPointer {proto proto'} (h : proto.Synonymous proto') :
    SameShape (.functionPointer proto) (.functionPointer proto')
  | pointer (pointee pointee') : SameShape (.pointer pointee) (.pointer pointee')
  | record (name) : SameShape (.record name) (.record name)
  | enumeration (name) : SameShape (.enumeration name) (.enumeration name)

namespace Synonymous

variable {t t' : CType}

theorem pointerShape_same (h : t.Synonymous t') : SameShape (pointerShape t) (pointerShape t') := by
  have hnode := h.node
  have hdesugared := h.desugared
  unfold pointerShape
  generalize t.desugared = d, t'.desugared = d' at hnode hdesugared
  cases hnode with
  | @scalar k =>
    cases k with
    | charSigned | charUnsigned => exact .nativeString
    | _ => exact .pointer _ _
  | prototype => exact .functionPointer hdesugared
  | _ => exact .pointer _ _

theorem shape_together (h : t.Synonymous t') :
    Together SameShape (fun _ _ => True) t.shape t'.shape := by
  have hnode := h.node
  unfold shape
  generalize t.desugared = d, t'.desugared = d' at hnode
  cases hnode with
  | @scalar k =>
    cases k with
    | void => exact .error trivial
    | _ => exact .ok .primitive
  | pointer pointee => exact .ok pointee.pointerShape_same
  | record name =>
    dsimp only
    rw [name]
    exact .ok (.record _)
  | enumeration name =>
    dsimp only
    rw [name]
    exact .ok (.enumeration _)
  | prototype | array => exact .error trivial

/-- Values of synonymous types cross alike, or of neither. -/
theorem face?_eq (h : t.Synonymous t') (ctx : Context) : t.face? ctx = t'.face? ctx := by
  have hshape := h.shape_together
  unfold face?
  generalize t.shape = s, t'.shape = s' at hshape
  cases hshape with
  | error => rfl
  | ok hsame =>
    cases hsame with
    | primitive =>
      dsimp only
      rw [h.primitiveShape_eq]
    | _ => rfl

theorem isValue_iff (h : t.Synonymous t') : t.IsValue ↔ t'.IsValue := by
  -- whether there is a face is the same in any context
  let ctx : Context := { package := "", container := "" }
  rw [t.isValue_iff_face? ctx, t'.isValue_iff_face? ctx, h.face?_eq ctx]

theorem isResult_iff (h : t.Synonymous t') : t.IsResult ↔ t'.IsResult := by
  rw [IsResult, IsResult, h.isVoid_eq, h.isValue_iff]

/-! ## Function pointers -/

theorem isCallable_of_isCallable (h : t.Synonymous t') (hcall : t.IsCallable) : t'.IsCallable := by
  obtain ⟨returns, types, context, hproto, hlast, hcontext, hvalues, hreturns⟩ := hcall
  have hrel := h.prototype_rel
  rw [hproto] at hrel
  obtain ⟨⟨returns', types'⟩, hproto', hsame, hparams⟩ := exists_of_rel hrel
  have hlastRel := rel_getLast? hparams
  rw [hlast] at hlastRel
  obtain ⟨context', hlast', hcontexts⟩ := exists_of_rel hlastRel
  refine ⟨returns', types', context', hproto', hlast', hcontexts.isContext_iff.1 hcontext, ?_,
    hsame.isResult_iff.1 hreturns⟩
  exact forall_mem_of_forall₂ ((List.forall₂_and_left _ _).2 ⟨hvalues, forall₂_dropLast hparams⟩)
    fun _ _ hx => hx.2.isValue_iff.1 hx.1

theorem isCallback_of_isCallback (h : t.Synonymous t') (hcall : t.IsCallback) : t'.IsCallback := by
  obtain ⟨proto, hshape, hcallable⟩ := (isCallback_iff t).1 hcall
  obtain ⟨s', hshape', hsame⟩ := h.shape_together.exists_ok hshape
  cases hsame with
  | functionPointer hproto =>
    exact (isCallback_iff t').2 ⟨_, hshape', hproto.isCallable_of_isCallable hcallable⟩

end Synonymous

end CType

end JniBridge
