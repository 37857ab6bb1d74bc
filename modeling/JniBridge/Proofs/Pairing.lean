import JniBridge.Plan
import JniBridge.Proofs.Canonical
import JniBridge.Proofs.Lookalike
/-
Linking canonical trees that are paired with the trees they come from.

It makes no difference whether a front end hands over the types as the source wrote them, or their
canonical trees paired with them: what links with the one links with the other, and what is generated
reads the same, layouts included (`pairing_changes_nothing`).

There is one exception, and it is by design.  A node that is spelled like its canonical counterpart does
not remember what the source wrote, so a recognised typedef on its chain is lost
(`pairing_hides_typedef`).  Hence types are asked to be readable (`CType.Readable`): where linking looks
for typedef names, which is at scalars and at what callbacks take and return, none is lost in that way.
-/

namespace JniBridge

/-- Generated code reads the same; native types may be built otherwise if they are spelled alike. -/
def Likeness.rendered : Likeness where
  java := True
  exact := False

/-! ## Texts -/

/-- Native signatures are written by the spellings of their types. -/
theorem NativeMethod.Alike.display {k : Likeness} {m m' : NativeMethod} (h : m.Alike k m') :
    m.display = m'.display := by
  have hparams : (m.params.map fun p => p.type.sourceSpelling ++ " " ++ p.name) =
      m'.params.map fun p => p.type.sourceSpelling ++ " " ++ p.name :=
    map_eq_map_of_forall₂ h.params fun _ _ hp => by rw [hp.1.spelled, hp.2]
  rw [NativeMethod.display, NativeMethod.display, Param.list, Param.list, h.returns.spelled, h.name,
    hparams]

/-- Callbacks that are alike are written alike. -/
theorem CallbackInterface.Alike.text {cb cb' : CallbackInterface} (h : cb.Alike .rendered cb') :
    Plan.callback cb = Plan.callback cb' := by
  rw [Plan.callback, Plan.callback, Plan.upcall, Plan.upcall, h.type, h.method.callback trivial,
    h.method.caller, h.method.javaBody trivial, h.method.lambda.display, h.method.nativeBody]

/-- The units are alike, and what a reader gets to see of them is the same. -/
structure DowncallUnit.ReadsAs (u u' : DowncallUnit) : Prop where
  alike : u.Alike .rendered u'
  native : u.nativeMethod.display = u'.nativeMethod.display
  text : Plan.downcall u = Plan.downcall u'
  callbacks : List.Forall₂ (fun cb cb' => Plan.callback cb = Plan.callback cb') u.linked.callbacks
    u'.linked.callbacks

theorem DowncallUnit.Alike.readsAs {u u' : DowncallUnit} (h : u.Alike .rendered u') :
    u.ReadsAs u' where
  alike := h
  native := h.nativeMethod.display
  text := by
    rw [Plan.downcall, Plan.downcall, h.javaMethod trivial, h.javaBody trivial, h.rawMethod,
      h.glueMethod, h.glueBody]
  callbacks := h.linked.callbacks.imp fun _ _ hcb => hcb.text

/-! ## Types -/

namespace CType

variable {t : CType} {P : CType → CType → Prop}

/-- A scalar that hides no recognised typedef; at other types linking does not look for one. -/
def Legible (t : CType) : Prop := t.shape = .ok .primitive → t.Shown

/-- The type is legible, and so is what a callback takes and returns if it points at one. -/
structure Readable (t : CType) : Prop where
  here : t.Legible
  signature : ∀ pointee returns params, t.pointee? = some pointee →
    pointee.prototype? = some (returns, params) → returns.Legible ∧ ∀ p ∈ params, p.Legible

theorem primitiveShape_paired (hbuilt : t.Built) (hshown : t.Shown) :
    Together (· = ·) Likeness.rendered.Failure t.primitiveShape t.paired.primitiveShape := by
  unfold primitiveShape
  rw [paired_desugared, kind_paired, pointerSized?_paired hbuilt hshown,
    fixedWidth?_paired hbuilt hshown]
  dsimp only
  cases t.pointerSized? with
  | some name => exact .ok rfl
  | none =>
    cases t.fixedWidth? with
    | some w => exact .ok rfl
    | none =>
      cases t.desugared.kind with
      | scalar s =>
        dsimp only
        cases s.carrier? with
        | some carrier => exact .ok rfl
        | none => exact .error False.elim
      | _ => exact .error False.elim

theorem pointerShape_paired {pointee : CType} (hbuilt : pointee.Built)
    (hproto : pointee.desugared.kind = .prototype → P pointee.desugared pointee.paired) :
    Shape.Alike P (pointerShape pointee) (pointerShape pointee.paired) := by
  have hcounterpart := pointee.counterpart_paired
  have hspelling : pointee.sourceSpelling = pointee.paired.sourceSpelling :=
    (sourceSpelling_paired hbuilt).symm
  unfold pointerShape
  rw [paired_desugared]
  generalize pointee.desugared = d, pointee.paired = d' at *
  cases hcounterpart with
  | @scalar k =>
    cases k with
    | charSigned | charUnsigned => exact .nativeString
    | _ => exact .pointer hspelling
  | prototype => exact .functionPointer (hproto rfl)
  | _ => exact .pointer hspelling

theorem shape_paired (hbuilt : t.Built)
    (hproto : ∀ pointee, t.pointee? = some pointee → pointee.desugared.kind = .prototype →
      P pointee.desugared pointee.paired) :
    Together (Shape.Alike P) Likeness.rendered.Failure t.shape t.paired.shape := by
  have hcounterpart := t.counterpart_paired
  have hpointee : ∀ pointee, t.pointee? = some pointee →
      Shape.Alike P (pointerShape pointee) (pointerShape pointee.paired) := by
    intro pointee hp
    exact pointerShape_paired (Throughout.pointee hbuilt hp) (hproto pointee hp)
  unfold pointee? at hpointee
  unfold shape
  rw [paired_desugared]
  generalize t.desugared = d, t.paired = d' at hcounterpart hpointee
  cases hcounterpart with
  | @scalar k =>
    cases k with
    | void => exact .error False.elim
    | _ => exact .ok .primitive
  | pointer => exact .ok (hpointee _ rfl)
  | record => exact .ok (.record _)
  | enumeration => exact .ok (.enumeration _)
  | prototype | array => exact .error False.elim

/-- A paired type looks like the type, if the prototypes that it points at do. -/
theorem looks_paired_of (hbuilt : t.Built) (hlegible : t.Legible)
    (hproto : ∀ pointee, t.pointee? = some pointee → pointee.desugared.kind = .prototype →
      P pointee.desugared pointee.paired) :
    Looks .rendered P t t.paired where
  native := ⟨(sourceSpelling_paired hbuilt).symm, False.elim⟩
  isVoid := (isVoid_paired t).symm
  bare := (isBareVoidPointer_paired t).symm
  primitive := fun hs => primitiveShape_paired hbuilt (hlegible hs)
  shape := shape_paired hbuilt hproto

theorem looksInside_paired (hbuilt : t.Built) (hlegible : t.Legible) :
    LooksInside .rendered t t.paired :=
  looks_paired_of hbuilt hlegible fun _ _ _ => trivial

/-- What a callback takes and returns is paired, too. -/
theorem signature_paired {proto : CType} (hbuilt : proto.Built)
    (hlegible : ∀ returns params, proto.prototype? = some (returns, params) →
      returns.Legible ∧ ∀ p ∈ params, p.Legible) :
    Signature .rendered proto.desugared proto.paired where
  exact := False.elim
  types := by
    have hdesugared : proto.desugared.prototype? = proto.prototype? := by
      rw [prototype?, desugared_desugared, prototype?]
    rw [hdesugared, prototype?_paired]
    cases hs : proto.prototype? with
    | none => exact .none
    | some s =>
      obtain ⟨returns, params⟩ := s
      obtain ⟨hreturnsBuilt, hparamsBuilt⟩ := Throughout.prototype_types hbuilt hs
      obtain ⟨hreturnsLegible, hparamsLegible⟩ := hlegible returns params hs
      refine .some ⟨looksInside_paired hreturnsBuilt hreturnsLegible, ?_⟩
      refine List.forall₂_map_right_iff.2 (List.forall₂_same.2 fun p hp => ?_)
      exact looksInside_paired (hparamsBuilt p hp) (hparamsLegible p hp)

theorem looks_paired (hbuilt : t.Built) (hreadable : t.Readable) :
    Looks .rendered (Signature .rendered) t t.paired := by
  refine looks_paired_of hbuilt hreadable.here fun pointee hp _ => ?_
  exact signature_paired (Throughout.pointee hbuilt hp) fun returns params hs =>
    hreadable.signature pointee returns params hp hs

end CType

/-! ## Operations -/

def NamedType.paired (named : NamedType) : NamedType := ⟨named.name, named.type.paired⟩

def FunctionDecl.paired (decl : FunctionDecl) : FunctionDecl :=
  ⟨decl.name, decl.returns.paired, decl.params.map NamedType.paired⟩

namespace Operation

/-- The second operation is the first with its values' types paired; a receiver is kept. -/
inductive Paired : Operation → Operation → Prop
  | callNative (decl : FunctionDecl) : Paired (.callNative decl) (.callNative decl.paired)
  | getField (record : CType) (field : NamedType) :
    Paired (.getField record field) (.getField record field.paired)
  | setField (record : CType) (field : NamedType) :
    Paired (.setField record field) (.setField record field.paired)

/-- The types of what is returned and of the arguments. -/
def valueTypes (op : Operation) : List CType :=
  op.returns :: (op.params.filter fun p => p.role == .value).map OperationParameter.type

theorem receiver_looks {k : Likeness} (record : CType) :
    (receiver record).Looks k (CType.Signature k) (receiver record) :=
  ⟨rfl, rfl, .refl CType.Signature.refl _, fun _ => rfl⟩

/-- Linking sees no difference between the operations. -/
theorem Paired.looks {op op' : Operation} (h : op.Paired op')
    (htypes : ∀ t ∈ op.valueTypes, t.Built ∧ t.Readable) :
    op.Looks .rendered (CType.Signature .rendered) op' := by
  have hlooks : ∀ t ∈ op.valueTypes, t.Looks .rendered (CType.Signature .rendered) t.paired :=
    fun t ht => CType.looks_paired (htypes t ht).1 (htypes t ht).2
  cases h with
  | callNative decl =>
    refine ⟨rfl, rfl, hlooks _ (List.mem_cons_self ..), ?_⟩
    show List.Forall₂ _ (decl.params.map argument) ((decl.params.map NamedType.paired).map argument)
    rw [List.map_map]
    refine List.forall₂_map_left_iff.2 (List.forall₂_map_right_iff.2 (List.forall₂_same.2 ?_))
    intro p hp
    have hmem : p.type ∈ (Operation.callNative decl).valueTypes :=
      List.mem_cons_of_mem _ (List.mem_map_of_mem (List.mem_filter.2
        ⟨List.mem_map_of_mem hp, rfl⟩))
    exact ⟨rfl, rfl, hlooks _ hmem, nofun⟩
  | getField record field =>
    exact ⟨rfl, rfl, hlooks _ (List.mem_cons_self ..), .cons (receiver_looks record) .nil⟩
  | setField record field =>
    have hmem : field.type ∈ (Operation.setField record field).valueTypes :=
      List.mem_cons_of_mem _ (List.mem_singleton_self _)
    exact ⟨rfl, rfl, .refl CType.Signature.refl _,
      .cons (receiver_looks record) (.cons ⟨rfl, rfl, hlooks _ hmem, nofun⟩ .nil)⟩

end Operation

/-! ## Layouts -/

namespace Layout

variable {t : CType}

theorem resolvedCall_paired (ctx : Context) (t : CType) :
    Together (· = ·) Likeness.rendered.Failure (resolvedCall ctx t) (resolvedCall ctx t.paired) := by
  have hcounterpart := t.counterpart_paired
  unfold resolvedCall
  rw [CType.paired_desugared]
  generalize t.desugared = d, t.paired = d' at hcounterpart
  cases hcounterpart with
  | record => exact Together.refl _ (fun _ => rfl) Likeness.Failure.refl
  | enumeration => exact .ok rfl
  | @scalar k =>
    dsimp only
    cases scalarCall? k with
    | some call => exact .ok rfl
    | none => exact .error False.elim
  | pointer | prototype | array => exact .error False.elim

/-- A pointer is placed as one whatever it is called. -/
theorem call_paired (ctx : Context) (hbuilt : t.Built) (hshown : t.isPointer = false → t.Shown) :
    Together (· = ·) Likeness.rendered.Failure (call ctx t) (call ctx t.paired) := by
  have hpointer : t.paired.isPointer = t.isPointer := by
    rw [CType.isPointer, CType.isPointer, CType.pointee?_paired, Option.isSome_map]
  unfold call CType.isPointerLike
  rw [hpointer]
  cases hp : t.isPointer with
  | true => exact .ok rfl
  | false =>
    rw [CType.pointerSized?_paired hbuilt (hshown hp), CType.fixedWidth?_paired hbuilt (hshown hp)]
    split
    · exact .ok rfl
    · cases t.fixedWidth? with
      | some w => exact .ok rfl
      | none => exact resolvedCall_paired ctx t

theorem arrangement_paired (ctx : Context) (hbuilt : t.Built)
    (hshown : t.isPointer = false → t.Shown) :
    Together (· = ·) Likeness.rendered.Failure (arrangement ctx t) (arrangement ctx t.paired) := by
  exact Together.map ((call_paired ctx hbuilt hshown).imp (fun _ _ h => congrArg _ h)
    fun _ _ hE => hE)

end Layout

/-! ## All together -/

/-- Pairing the types of an operation's values leaves what links, in either direction, and what is
generated for it; and it leaves the layouts of fields. -/
theorem pairing_changes_nothing (ctx : Context) :
    (∀ op op', Operation.Paired op op' → (∀ t ∈ op.valueTypes, t.Built ∧ t.Readable) →
      (∀ d, Together (LinkedOperation.Alike .rendered) (fun _ _ => True) (op.link ctx d).outcome
        (op'.link ctx d).outcome) ∧
      ∀ spec, Together DowncallUnit.ReadsAs (fun _ _ => True)
        (DowncallUnit.link op spec ctx).outcome (DowncallUnit.link op' spec ctx).outcome) ∧
    ∀ t : CType, t.Built → (t.isPointer = false → t.Shown) → Together (· = ·) (fun _ _ => True)
      (Layout.arrangement ctx t) (Layout.arrangement ctx t.paired) := by
  constructor
  · intro op op' hpaired htypes
    have hlooks := hpaired.looks htypes
    have hctx : ctx.Alike .rendered ctx := .refl ctx
    constructor
    · intro d
      exact (Operation.link_alike hlooks hctx d).imp (fun _ _ h => h) fun _ _ _ => trivial
    · intro spec
      exact (DowncallUnit.link_alike hlooks hctx spec).imp (fun _ _ h => h.readsAs)
        fun _ _ _ => trivial
  · intro t hbuilt hshown
    exact (Layout.arrangement_paired ctx hbuilt hshown).imp (fun _ _ h => h) fun _ _ _ => trivial

/-- A length and a callback, both by typedefs, cross the boundary as they do when they are paired. -/
theorem pairing_changes_nothing_visit :
    ∃ (decl : FunctionDecl) (u u' : DowncallUnit),
      decl = ⟨"visit", .void,
        [⟨"length", .typedefOf "size_t" (.ofScalar .unsignedLong "unsigned long")⟩,
          ⟨"visitor", .typedefOf "visitor" (.pointerTo (.function .void
            [.typedefOf "uint8_t" (.ofScalar .unsignedChar "unsigned char"), .voidPointer]))⟩,
          ⟨"context", .voidPointer⟩]⟩ ∧
      (DowncallUnit.link (.callNative decl) (.ofName "visit" (.ofClass "geo" "Native"))
        { package := "geo", container := "Native" }).outcome = .ok u ∧
      (DowncallUnit.link (.callNative decl.paired) (.ofName "visit" (.ofClass "geo" "Native"))
        { package := "geo", container := "Native" }).outcome = .ok u' ∧
      u.ReadsAs u' ∧
      Layout.arrangement { package := "geo", container := "Native" }
        (CType.paired (.typedefOf "size_t" (.ofScalar .unsignedLong "unsigned long"))) =
          .ok (Vocabulary.arranger ++ ".addCPointerField()") := by
  have hvoid : CType.void.Built ∧ CType.void.Readable := ⟨.scalar rfl, fun _ _ => nofun, nofun⟩
  have hlength : CType.Built (.typedefOf "size_t" (.ofScalar .unsignedLong "unsigned long")) ∧
      CType.Readable (.typedefOf "size_t" (.ofScalar .unsignedLong "unsigned long")) :=
    ⟨.typedef rfl (.scalar rfl), fun _ hsame => absurd hsame (by decide), nofun⟩
  have hcontext : CType.voidPointer.Built ∧ CType.voidPointer.Readable := by
    refine ⟨.pointer rfl (.scalar rfl), fun _ _ => nofun, fun pointee returns params hp hs => ?_⟩
    obtain rfl := Option.some.inj hp
    exact nomatch hs
  have hvisitor : CType.Built (.typedefOf "visitor" (.pointerTo (.function .void
        [.typedefOf "uint8_t" (.ofScalar .unsignedChar "unsigned char"), .voidPointer]))) ∧
      CType.Readable (.typedefOf "visitor" (.pointerTo (.function .void
        [.typedefOf "uint8_t" (.ofScalar .unsignedChar "unsigned char"), .voidPointer]))) := by
    constructor
    · refine .typedef rfl (.pointer rfl (.prototype rfl (.scalar rfl) ?_))
      exact List.forall_mem_cons.2 ⟨.typedef rfl (.scalar rfl), List.forall_mem_cons.2
        ⟨hcontext.1, nofun⟩⟩
    · refine ⟨fun _ hsame => absurd hsame (by decide), fun pointee returns params hp hs => ?_⟩
      obtain rfl := Option.some.inj hp
      obtain ⟨rfl, rfl⟩ := Prod.mk.inj (Option.some.inj hs)
      exact ⟨hvoid.2.here, List.forall_mem_cons.2 ⟨fun _ hsame => absurd hsame (by decide),
        List.forall_mem_cons.2 ⟨hcontext.2.here, nofun⟩⟩⟩
  obtain ⟨hoperations, hlayouts⟩ :=
    pairing_changes_nothing { package := "geo", container := "Native" }
  have hlink := (hoperations _ _ (.callNative ⟨"visit", .void,
    [⟨"length", .typedefOf "size_t" (.ofScalar .unsignedLong "unsigned long")⟩,
      ⟨"visitor", .typedefOf "visitor" (.pointerTo (.function .void
        [.typedefOf "uint8_t" (.ofScalar .unsignedChar "unsigned char"), .voidPointer]))⟩,
      ⟨"context", .voidPointer⟩]⟩)
    (List.forall_mem_cons.2 ⟨hvoid, List.forall_mem_cons.2 ⟨hlength, List.forall_mem_cons.2
      ⟨hvisitor, List.forall_mem_cons.2 ⟨hcontext, nofun⟩⟩⟩⟩)).2
    (.ofName "visit" (.ofClass "geo" "Native"))
  obtain ⟨u', hu', hreads⟩ := hlink.exists_ok rfl
  obtain ⟨call, hcall, rfl⟩ := (hlayouts _ hlength.1 fun _ => hlength.2.here rfl).exists_ok rfl
  exact ⟨_, _, u', rfl, rfl, hu', hreads, hcall⟩

/-- A `wchar_t` that is a recognised typedef of a builtin of the same name: paired, it is carried as the
builtin, and its field is placed as one. -/
theorem pairing_hides_typedef :
    ∃ wide : CType,
      wide = .typedefOf "wchar_t" (.typedefOf "uint16_t" (.ofScalar .wideChar "wchar_t")) ∧
      wide.Built ∧ wide.canonical.Throughout (fun node => CType.recognised node.spelling = false) ∧
      Layout.arrangement { package := "geo", container := "Native" } wide =
        .ok (Vocabulary.arranger ++ ".addFixedField(2)") ∧
      Layout.arrangement { package := "geo", container := "Native" } wide.paired =
        .ok (Vocabulary.arranger ++ ".addCIntField()") ∧
      ∃ u u',
        (DowncallUnit.link (.callNative ⟨"put", .void, [⟨"unit", wide⟩]⟩)
          (.ofName "put" (.ofClass "geo" "Native"))
          { package := "geo", container := "Native" }).outcome = .ok u ∧
        (DowncallUnit.link (.callNative (FunctionDecl.paired ⟨"put", .void, [⟨"unit", wide⟩]⟩))
          (.ofName "put" (.ofClass "geo" "Native"))
          { package := "geo", container := "Native" }).outcome = .ok u' ∧
        u.rawMethod.descriptor = "(C)V" ∧ u'.rawMethod.descriptor = "(I)V" := by
  refine ⟨_, rfl, .typedef rfl (.typedef rfl (.scalar rfl)), .scalar (by decide), ?_, ?_, ?_⟩
  · rfl
  · rfl
  · exact ⟨_, _, rfl, rfl, rfl, rfl⟩

end JniBridge
