import JniBridge.Proofs.Context
import JniBridge.Proofs.Likeness
/-
Linking what looks alike.

Of a type linking sees its shape, how it is carried, how it is spelled and whether it is `void` or a
bare pointer to it; of a context it sees where classes go and, in Java's half only, what is registered.
Types that look alike (`CType.Looks`) in contexts that are alike (`Context.Alike`) are therefore linked
alike, value by value (`Linking.classifyWith_alike`), parameter by parameter
(`Linking.linkParameters_alike`), and with the callbacks that function pointers need
(`Linking.create_alike`, `Operation.link_alike`).

What looking alike means for the prototype of a function pointer is a parameter of the relation, since a
callback does not look at the function pointers that it refuses.
-/

namespace JniBridge

variable {k : Likeness} {P : CType → CType → Prop}

/-! ## Types -/

/-- The shapes are the same, given what it means for prototypes; pointees are spelled alike. -/
inductive Shape.Alike (P : CType → CType → Prop) : Shape → Shape → Prop
  | primitive : Alike P .primitive .primitive
  | nativeString : Alike P .nativeString .nativeString
  | functionPointer {proto proto'} (h : P proto proto') :
    Alike P (.functionPointer proto) (.functionPointer proto')
  | pointer {pointee pointee'} (h : pointee.sourceSpelling = pointee'.sourceSpelling) :
    Alike P (.pointer pointee) (.pointer pointee')
  | record (name : String) : Alike P (.record name) (.record name)
  | enumeration (name : String) : Alike P (.enumeration name) (.enumeration name)

namespace CType

/-- Linking sees no difference between the types. -/
structure Looks (k : Likeness) (P : CType → CType → Prop) (t t' : CType) : Prop where
  native : k.Native t t'
  isVoid : t.isVoid = t'.isVoid
  bare : t.isBareVoidPointer = t'.isBareVoidPointer
  primitive : t.shape = .ok .primitive →
    Together (· = ·) k.Failure t.primitiveShape t'.primitiveShape
  shape : Together (Shape.Alike P) k.Failure t.shape t'.shape

/-- The same inside a callback, which takes no function pointers. -/
def LooksInside (k : Likeness) : CType → CType → Prop := Looks k fun _ _ => True

/-- The prototypes take and return what looks alike inside a callback. -/
structure Signature (k : Likeness) (proto proto' : CType) : Prop where
  exact : k.exact → proto = proto'
  types : Option.Rel (fun s s' => LooksInside k s.1 s'.1 ∧ List.Forall₂ (LooksInside k) s.2 s'.2)
    proto.prototype? proto'.prototype?

theorem Looks.refl (hP : ∀ proto, P proto proto) (t : CType) : Looks k P t t where
  native := .refl t
  isVoid := rfl
  bare := rfl
  primitive := fun _ => Together.refl _ (fun _ => rfl) Likeness.Failure.refl
  shape := by
    refine Together.refl _ (fun s => ?_) Likeness.Failure.refl
    cases s with
    | primitive => exact .primitive
    | nativeString => exact .nativeString
    | functionPointer proto => exact .functionPointer (hP proto)
    | pointer pointee => exact .pointer rfl
    | record name => exact .record name
    | enumeration name => exact .enumeration name

theorem Signature.refl (proto : CType) : Signature k proto proto where
  exact := fun _ => rfl
  types := by
    cases proto.prototype? with
    | none => exact .none
    | some s =>
      have hinside : ∀ t, LooksInside k t t := Looks.refl fun _ => trivial
      exact .some ⟨hinside s.1, List.forall₂_same.2 fun t _ => hinside t⟩

/-- Failures that spell the types are alike. -/
theorem Looks.failure {t t' : CType} (h : Looks k P t t') (cause : String → LinkError) :
    k.Failure (cause t.spelling) (cause t'.spelling) := fun hk => by rw [h.native.exact hk]

end CType

/-! ## Operations and contexts -/

/-- The parameters look alike; a handle, which is looked at more closely, is the same. -/
structure OperationParameter.Looks (k : Likeness) (P : CType → CType → Prop)
    (p p' : OperationParameter) : Prop where
  name : p.name = p'.name
  role : p.role = p'.role
  type : p.type.Looks k P p'.type
  handle : p.role = .structHandle → p.type = p'.type

structure Operation.Looks (k : Likeness) (P : CType → CType → Prop) (op op' : Operation) : Prop where
  kind : op.kind = op'.kind
  name : op.name = op'.name
  returns : op.returns.Looks k P op'.returns
  params : List.Forall₂ (OperationParameter.Looks k P) op.params op'.params

/-- The contexts put classes in the same place; what is registered is the same if Java's half is. -/
structure Context.Alike (k : Likeness) (c c' : Context) : Prop where
  package : c.package = c'.package
  container : c.container = c'.container
  names : c.names = c'.names
  java : k.java → c.Agrees c'

theorem Context.Alike.refl (c : Context) : c.Alike k c where
  package := rfl
  container := rfl
  names := rfl
  java := fun _ => ⟨rfl, rfl, rfl, fun _ => rfl, fun _ => rfl⟩

theorem OperationParameter.Looks.isContext {p p' : OperationParameter} (h : p.Looks k P p') :
    Linking.isContext p = Linking.isContext p' := by
  rw [Linking.isContext, Linking.isContext, h.role, h.type.bare]

namespace Linking

/-! ## Values -/

section value

variable {t t' : CType} {op op' : Operation} {c c' : Context}

/-- A value that two actions of the same making carry. -/
theorem typed_alike_of_eq {a a' : Action} {java java' : JavaType} {j : JniType}
    (ha : a = a') (hjava : java = java') (ht : k.Native t t') :
    (LinkedValue.typed a java j t).Alike k (LinkedValue.typed a' java' j t') := by
  subst ha
  exact LinkedValue.typed_alike (.refl a) (fun _ => hjava) ht

theorem linkPrimitive_alike (h : t.Looks k P t') (hs : t.shape = .ok .primitive) :
    Together (LinkedValue.Alike k) k.Failure (linkPrimitive t) (linkPrimitive t') := by
  unfold linkPrimitive
  refine (h.primitive hs).bind fun shape shape' hshape => ?_
  subst hshape
  cases shape.jni.asJava? with
  | none => exact .error (h.failure .unsupportedType)
  | some plain => exact .ok (typed_alike_of_eq (by rw [h.native.spelled]) rfl h.native)

theorem linkString_alike (hkind : op.kind = op'.kind) (h : t.Looks k P t') (d : Direction)
    (position : Position) :
    (linkString op d t position).Alike k (linkString op' d t' position) := by
  have hflag : deletionName? op d position = deletionName? op' d position := by
    unfold deletionName?
    rw [Operation.isSetter, Operation.isSetter, hkind]
  unfold linkString
  rw [hflag]
  exact
    { typed_alike_of_eq (j := .scalarArray .byte) rfl rfl h.native with
      companions := rfl }

theorem linkPointer_alike {pointee pointee' : CType} (h : t.Looks k P t')
    (hpointee : pointee.sourceSpelling = pointee'.sourceSpelling) :
    (linkPointer t pointee).Alike k (linkPointer t' pointee') :=
  typed_alike_of_eq (by rw [hpointee]) (by rw [h.native.spelled]) h.native

/-- The wrapper of a struct shows in Java's half only. -/
theorem linkStruct_alike (hc : c.Alike k c') (hkind : op.kind = op'.kind) (h : t.Looks k P t')
    (record : String) : (linkStruct op c t record).Alike k (linkStruct op' c' t' record) := by
  have haccess : op.isFieldAccess = op'.isFieldAccess := by
    rw [Operation.isFieldAccess, Operation.isFieldAccess, hkind]
  unfold linkStruct
  rw [← haccess]
  refine LinkedValue.typed_alike ⟨?_, fun hk => ?_⟩ (fun hk => ?_) h.native
  · split
    · exact .nestedStruct record _ _
    · exact .structCopy record _ _
  · rw [(hc.java hk).wrapper record]
  · rw [(hc.java hk).wrapper record]

theorem linkEnum_alike (hc : c.Alike k c') (h : t.Looks k P t') (enumeration : String) :
    (linkEnum c t enumeration).Alike k (linkEnum c' t' enumeration) := by
  unfold linkEnum
  refine LinkedValue.typed_alike (.refl _) (fun hk => ?_) h.native
  rw [(hc.java hk).enums enumeration, magicConstant, magicConstant, hc.package]

theorem linkHandle_together (t : CType) :
    Together (LinkedValue.Alike k) k.Failure (linkHandle t) (linkHandle t) := by
  unfold linkHandle
  split
  · exact .error (Likeness.Failure.refl _)
  · refine .ok ?_
    exact
      { action := .refl _, inJava := rfl, java := fun _ => rfl, rawType := rfl, jniType := rfl
        nativeType := .some (.refl t), intermediate := rfl, behaviors := rfl, isCompanion := rfl
        isReceiver := rfl, companions := rfl }

theorem linkCallbackObject_alike (h : t.Looks k P t') (callback : JavaType) :
    (linkCallbackObject t callback).Alike k (linkCallbackObject t' callback) where
  action := .refl _
  inJava := rfl
  java := fun _ => rfl
  rawType := rfl
  jniType := rfl
  nativeType := .some h.native
  intermediate := rfl
  behaviors := rfl
  isCompanion := rfl
  isReceiver := rfl
  companions := rfl

end value

/-! ## Classification -/

structure ClassifiedAlike (k : Likeness) (x x' : Classified) : Prop where
  value : x.value.Alike k x'.value
  slot : Option.Rel (LinkedValue.Alike k) x.slot x'.slot
  callback : Option.Rel (CallbackInterface.Alike k) x.callback x'.callback

/-- A value that leaves nothing for the next parameter. -/
theorem ClassifiedAlike.of_value {v v' : LinkedValue} (h : v.Alike k v') :
    ClassifiedAlike k { value := v } { value := v' } := ⟨h, .none, .none⟩

/-- A function pointer and its interface. -/
theorem spawned_alike {t t' : CType} (h : k.Native t t') {cb cb' : CallbackInterface}
    (hcb : cb.Alike k cb') : ClassifiedAlike k (spawned t cb) (spawned t' cb') where
  value :=
    { action := by
        unfold spawned
        rw [hcb.method.callbackType, hcb.method.closure]
        exact .refl _
      inJava := rfl, java := fun _ => rfl, rawType := rfl, jniType := rfl
      nativeType := .some h, intermediate := rfl, behaviors := rfl, isCompanion := rfl
      isReceiver := rfl, companions := rfl }
  slot := .some (typed_alike_of_eq rfl (by rw [hcb.type]) (.refl _))
  callback := .some hcb

/-- The policies do the same at function pointers that look alike. -/
def PolicyAlike (k : Likeness) (P : CType → CType → Prop) (policy policy' : PointerPolicy) : Prop :=
  ∀ t t' proto proto' position, CType.Looks k P t t' → P proto proto' →
    Together (ClassifiedAlike k) k.Failure (policy t proto position).outcome
      (policy' t' proto' position).outcome

section linking

variable {policy policy' : PointerPolicy} {op op' : Operation} {c c' : Context} {d : Direction}

theorem classifyWith_alike (hpolicy : PolicyAlike k P policy policy') (hc : c.Alike k c')
    (hkind : op.kind = op'.kind) {t t' : CType} (h : t.Looks k P t') (position : Position) :
    Together (ClassifiedAlike k) k.Failure (classifyWith policy op c d t position).outcome
      (classifyWith policy' op' c' d t' position).outcome := by
  have hshape := h.shape
  unfold classifyWith
  generalize hs : t.shape = s at hshape
  generalize t'.shape = s' at hshape
  cases hshape with
  | error he => exact .error he
  | ok hsame =>
    cases hsame with
    | primitive => exact Together.map ((linkPrimitive_alike h hs).imp (fun _ _ => .of_value)
        fun _ _ hE => hE)
    | nativeString => exact .ok (.of_value (linkString_alike hkind h d position))
    | functionPointer hproto => exact hpolicy t t' _ _ position h hproto
    | pointer hpointee => exact .ok (.of_value (linkPointer_alike h hpointee))
    | record name => exact .ok (.of_value (linkStruct_alike hc hkind h name))
    | enumeration name => exact .ok (.of_value (linkEnum_alike hc h name))

theorem classifyParameter_alike (hpolicy : PolicyAlike k P policy policy') (hc : c.Alike k c')
    (hkind : op.kind = op'.kind) (index : Nat) {p p' : OperationParameter} (h : p.Looks k P p') :
    Together (ClassifiedAlike k) k.Failure (classifyParameter policy op c d index p).outcome
      (classifyParameter policy' op' c' d index p').outcome := by
  unfold classifyParameter
  rw [← h.role]
  cases hrole : p.role with
  | structHandle =>
    dsimp only
    rw [← h.handle hrole]
    exact Together.map ((linkHandle_together p.type).imp (fun _ _ => .of_value) fun _ _ hE => hE)
  | callbackObject callback => exact .ok (.of_value (linkCallbackObject_alike h.type callback))
  | value => exact classifyWith_alike hpolicy hc hkind h.type (.parameter index)

/-! ## Operations -/

/-- Linked parameters are alike, and so are the interfaces made for them. -/
def ResultAlike (k : Likeness) (r r' : ParameterLinkage × Option CallbackInterface) : Prop :=
  r.1.Alike k r'.1 ∧ Option.Rel (CallbackInterface.Alike k) r.2 r'.2

/-- Parameters that look alike are linked alike, or none of the lists is linked. -/
theorem linkParameters_alike (hpolicy : PolicyAlike k P policy policy') (hc : c.Alike k c')
    (hkind : op.kind = op'.kind) {ps ps' : List OperationParameter}
    (h : List.Forall₂ (OperationParameter.Looks k P) ps ps') {pending pending' : Option Pending}
    (hpending : Option.Rel (fun w w' => w.owner = w'.owner ∧ w.slot.Alike k w'.slot) pending
      pending') (i : Nat) :
    Together (List.Forall₂ (ResultAlike k)) k.Failure
      (linkParameters policy op c d pending i ps).outcome
      (linkParameters policy' op' c' d pending' i ps').outcome := by
  -- both lists are walked in step, and something is pending on both sides or on none
  induction h generalizing pending pending' i with
  | nil =>
    cases hpending with
    | none => exact .ok .nil
    | @some waiting waiting' hwaiting =>
      rw [linkParameters, linkParameters, hwaiting.1]
      exact .error (Likeness.Failure.refl _)
  | @cons p p' ps ps' hp _ ih =>
    cases hpending with
    | some hwaiting =>
      rw [linkParameters, linkParameters, ← hp.isContext, hwaiting.1, ← hp.name]
      split
      · exact .error (Likeness.Failure.refl _)
      · refine together_tell ?_
        refine (hwaiting.2.toParameterLinkage p.name d).lifted fun l l' hl => ?_
        refine (ih .none (i + 1)).logged fun rest rest' hrest => .ok ?_
        exact .cons ⟨hl, .none⟩ hrest
    | none =>
      rw [linkParameters, linkParameters]
      refine (classifyParameter_alike hpolicy hc hkind i hp).logged fun x x' hx => ?_
      refine together_tell ?_
      rw [← hp.name]
      refine (hx.value.toParameterLinkage p.name d).lifted fun l l' hl => ?_
      have hnext := rel_map hx.slot (f := fun slot => (⟨p.name, slot⟩ : Pending))
        (g := fun slot => (⟨p.name, slot⟩ : Pending)) (S := fun w w' => w.owner = w'.owner ∧
          w.slot.Alike k w'.slot) fun _ _ hslot => ⟨rfl, hslot⟩
      refine (ih hnext (i + 1)).logged fun rest rest' hrest => .ok ?_
      exact .cons ⟨hl, hx.callback⟩ hrest

theorem linkReturn_alike (hpolicy : PolicyAlike k P policy policy') (hc : c.Alike k c')
    (h : op.Looks k P op') :
    Together (Option.Rel (ReturnValue.Alike k)) k.Failure (linkReturn policy op c d).outcome
      (linkReturn policy' op' c' d).outcome := by
  unfold linkReturn
  rw [← h.returns.isVoid]
  split
  · exact .ok .none
  · refine (classifyWith_alike hpolicy hc h.kind h.returns .returned).logged fun x x' hx => ?_
    exact hx.value.toReturnValue.lifted fun r r' hr => .ok (.some hr)

/-- Operations that look alike are linked alike. -/
theorem linkWith_alike (hpolicy : PolicyAlike k P policy policy') (hc : c.Alike k c')
    (h : op.Looks k P op') :
    Together (LinkedOperation.Alike k) k.Failure (linkWith policy op c d).outcome
      (linkWith policy' op' c' d).outcome := by
  unfold linkWith
  refine (linkReturn_alike hpolicy hc h).logged fun r r' hr => ?_
  refine (linkParameters_alike hpolicy hc h.kind h.params .none 0).logged fun rs rs' hrs => .ok ?_
  exact
    { linkage :=
        { operation := ⟨h.kind, h.name, h.returns.native⟩, direction := rfl, returnValue := hr
          params := List.rel_map (fun _ _ hx => hx.1) hrs }
      callbacks := List.rel_filterMap (fun _ _ hx => hx.2) hrs }

end linking

/-! ## Callbacks -/

/-- A callback refuses function pointers, whatever they look like. -/
theorem refusePointer_alike : PolicyAlike k P refusePointer refusePointer := by
  intro t t' proto proto' position h _
  cases position with
  | returned => exact .error (Likeness.Failure.refl _)
  | parameter index => exact .error (h.failure .callbackInCallback)

/-- The operations of callbacks whose prototypes look alike do, too. -/
theorem runCallback_alike {proto proto' : CType} (h : proto.Signature k proto') (name : String)
    (callback : JavaType) :
    Together (Operation.Looks k fun _ _ => True) k.Failure
      (Operation.runCallback name proto callback) (Operation.runCallback name proto' callback) := by
  have htypes := h.types
  have hfailure : ∀ cause : String → LinkError,
      k.Failure (cause proto.spelling) (cause proto'.spelling) := fun cause hk => by rw [h.exact hk]
  unfold Operation.runCallback
  generalize proto.prototype? = s at htypes
  generalize proto'.prototype? = s' at htypes
  cases htypes with
  | none => exact .error (hfailure .unsupportedType)
  | @some s s' hs =>
    obtain ⟨returns, types⟩ := s
    obtain ⟨returns', types'⟩ := s'
    obtain ⟨hreturns, hparams⟩ := hs
    have hlast := rel_getLast? hparams
    dsimp only
    generalize types.getLast? = context at hlast
    generalize types'.getLast? = context' at hlast
    cases hlast with
    | none => exact .error (hfailure .contextNotTaken)
    | some hcontext =>
      refine .ok ⟨rfl, rfl, hreturns, ?_⟩
      refine List.rel_append ?_ (.cons ⟨rfl, rfl, hcontext, nofun⟩ .nil)
      exact forall₂_mapIdx (forall₂_dropLast hparams) fun i t t' ht => ⟨rfl, rfl, ht, nofun⟩

/-- The interfaces for prototypes that look alike are alike. -/
theorem create_alike {c c' : Context} (hc : c.Alike k c') {proto proto' : CType}
    (h : proto.Signature k proto') (operation parameter : String) :
    Together (CallbackInterface.Alike k) k.Failure
      (CallbackInterface.create operation parameter proto c).outcome
      (CallbackInterface.create operation parameter proto' c').outcome := by
  have htype : ∀ name, c.nestedType name = c'.nestedType name := fun name => by
    rw [Context.nestedType, Context.nestedType, hc.package, hc.container]
  unfold CallbackInterface.create
  dsimp only
  rw [← htype, ← hc.names]
  refine (runCallback_alike h _ _).lifted fun op op' hop => ?_
  refine (linkWith_alike refusePointer_alike hc hop).logged fun linked linked' hlinked => ?_
  refine (UpcallUnit.ofLinkage_alike hlinked.linkage _ c.names).lifted fun u u' hu => .ok ?_
  exact ⟨rfl, rfl, rfl, rfl, hu⟩

theorem takesContext_alike {proto proto' : CType} (h : proto.Signature k proto') :
    takesContext proto = takesContext proto' := by
  have htypes := h.types
  unfold takesContext
  generalize proto.prototype? = s at htypes
  generalize proto'.prototype? = s' at htypes
  cases htypes with
  | none => rfl
  | some hs => exact any_eq_of_rel (rel_getLast? hs.2) fun _ _ hcontext => hcontext.bare

/-- Function pointers that look alike get interfaces that are alike, or none gets one. -/
theorem spawnCallback_alike {op op' : Operation} (h : op.Looks k (CType.Signature k) op')
    {c c' : Context} (hc : c.Alike k c') :
    PolicyAlike k (CType.Signature k) (spawnCallback op c) (spawnCallback op' c') := by
  intro t t' proto proto' position ht hproto
  cases position with
  | returned => exact .error (Likeness.Failure.refl _)
  | parameter index =>
    have hnext : (op.params[index + 1]?).any isContext = (op'.params[index + 1]?).any isContext :=
      any_eq_of_rel (rel_getElem? h.params (index + 1)) fun _ _ hp => hp.isContext
    have hparam := rel_getElem? h.params index
    unfold spawnCallback
    dsimp only
    rw [← takesContext_alike hproto, ← hnext, ← h.name, ← h.params.length_eq]
    split
    · exact .error (ht.failure .contextNotTaken)
    · generalize op.params[index]? = p at hparam
      generalize op'.params[index]? = p' at hparam
      cases hparam with
      | none => exact .error (Likeness.Failure.refl _)
      | @some p p' hp =>
        dsimp only
        rw [← hp.name]
        split
        · exact .error (Likeness.Failure.refl _)
        · refine (create_alike hc hproto op.name p.name).logged fun cb cb' hcb => .ok ?_
          exact spawned_alike ht.native hcb

end Linking

/-! ## Both levels -/

/-- Operations that look alike are linked alike in either direction, with all the callbacks they
need, or neither is linked. -/
theorem Operation.link_alike {op op' : Operation} (h : op.Looks k (CType.Signature k) op')
    {c c' : Context} (hc : c.Alike k c') (d : Direction) :
    Together (LinkedOperation.Alike k) k.Failure (op.link c d).outcome (op'.link c' d).outcome := by
  cases d with
  | downcall => exact Linking.linkWith_alike (Linking.spawnCallback_alike h hc) hc h
  | upcall => exact Linking.linkWith_alike Linking.refusePointer_alike hc h

/-- The code around them is alike. -/
theorem DowncallUnit.link_alike {op op' : Operation} (h : op.Looks k (CType.Signature k) op')
    {c c' : Context} (hc : c.Alike k c') (spec : DowncallSpec) :
    Together (DowncallUnit.Alike k) k.Failure (DowncallUnit.link op spec c).outcome
      (DowncallUnit.link op' spec c').outcome := by
  refine (Operation.link_alike h hc .downcall).logged fun linked linked' hlinked => ?_
  exact DowncallUnit.ofLinked_alike hlinked spec

end JniBridge
