import JniBridge.Proofs.Downcall
import JniBridge.Proofs.Reference
/-
What signatures show of an operation.

Of a parameter the signatures of the Java layer show the name and a descriptor, in which annotations and
type arguments do not occur, and those of the layer between show the type (`Face`).

  1. How a value is carried is settled by its shape and by the wrapper that is registered for it
     (`CType.face?`), and linking it shows just that (`Linking.classifyWith_face`).
  2. So all that signatures show can be read off an operation that links (`Operation.faces`,
     `Operation.returnFace?`, `Operation.faces_of_link`).
  3. Signatures can be written from what they show (`DowncallUnit.descriptor_rawMethodOf` and the others),
     so operations of the same faces have the same signatures.
-/

namespace JniBridge

open Linking

/-! ## Faces -/

/-- The types of a value, as signatures show them. -/
structure Face where
  /-- The descriptor of the Java type. -/
  java : Option String
  /-- The descriptor of the type that raw methods declare. -/
  raw : Option String
  jni : Option JniType
deriving DecidableEq, Repr

namespace Face

/-- A value whose raw type is the one that belongs to the native-interface type. -/
def carried (java : String) (jni : JniType) : Face :=
  ⟨some java, jni.asJava?.map JavaType.descriptor, some jni⟩

/-- A number, which is the same on all layers. -/
def number (kind : JavaScalar) : Face := carried kind.descriptor (.scalar kind)

/-- A parameter that only native code sees. -/
def hidden : Face := ⟨none, none, none⟩

/-- The receiver of a field access. -/
def handle : Face := ⟨none, some JavaScalar.long.descriptor, some (.scalar .long)⟩

/-- The receiver of a callback. -/
def receiver (callback : JavaType) : Face :=
  ⟨some callback.descriptor, some callback.descriptor, some .object⟩

/-- The context of a function pointer; of which interface it is an instance shows only in a type
argument. -/
def context : Face :=
  carried (JavaType.ofClass Vocabulary.javaPackage "FunctionPointer").descriptor (.scalar .long)

end Face

def LinkedValue.face (v : LinkedValue) : Face :=
  ⟨v.javaType.map JavaType.descriptor, v.declaredRaw.map JavaType.descriptor, v.jniType⟩

/-- What signatures show of a parameter. -/
def Parameter.shown (p : Parameter) : Param Face :=
  ⟨⟨p.javaType.map JavaType.descriptor, p.rawType.map JavaType.descriptor, p.jniType⟩, p.name⟩

def ReturnValue.face (r : ReturnValue) : Face :=
  ⟨some r.javaType.descriptor, some r.rawType.descriptor, some r.jniType⟩

namespace LinkedValue

variable {v : LinkedValue}

theorem shown_of_toParameterLinkage {name : String} {d : Direction} {l : ParameterLinkage}
    (h : v.toParameterLinkage name d = .ok l) :
    l.generated.map Parameter.shown = ⟨v.face, name⟩ :: v.companions.map Parameter.shown := by
  rw [eq_placed_of_toParameterLinkage h]
  rfl

theorem face_of_toReturnValue {r : ReturnValue} (h : v.toReturnValue = .ok r) :
    r.face = v.face ∧ r.companions = v.companions := by
  unfold toReturnValue at h
  split at h
  · next java j t hjava hjni _ =>
    split at h
    · next raw hraw =>
      have hdeclared : v.declaredRaw = some raw := by
        rw [declaredRaw, hjni]
        exact hraw
      obtain rfl := Except.ok.inj h
      refine ⟨?_, rfl⟩
      rw [face, hjava, hdeclared, hjni]
      rfl
    · cases h
  · cases h

end LinkedValue

/-! ## Values -/

@[simp]
theorem JavaType.descriptor_annotated (note : String) (t : JavaType) :
    (t.annotated note).descriptor = t.descriptor := by
  cases t <;> rfl

/-- The descriptor under which a struct crosses: that of its wrapper, or of a bare number. -/
def Context.structDescriptor (ctx : Context) (record : String) : String :=
  match ctx.wrapper? record with
  | some w => w.javaType.descriptor
  | none => JavaScalar.long.descriptor

/-- What signatures show of a value of the type, if such values cross on their own. -/
def CType.face? (ctx : Context) (t : CType) : Option Face :=
  match t.shape with
  | .ok .primitive => t.primitiveShape.toOption.bind fun r =>
    r.jni.asJava?.map fun plain => .carried plain.descriptor r.jni
  | .ok .nativeString => some (.carried JavaType.string.descriptor (.scalarArray .byte))
  | .ok (.pointer _) => some (.number .long)
  | .ok (.record name) => some (.carried (ctx.structDescriptor name) (.scalar .long))
  | .ok (.enumeration _) => some (.number .int)
  | .ok (.functionPointer _) => none
  | .error _ => none

/-- What crosses on its own has a face. -/
theorem CType.isValue_iff_face? (ctx : Context) (t : CType) : t.IsValue ↔ (t.face? ctx).isSome := by
  unfold face?
  constructor
  · rintro ⟨s, hs, hfun, hprim⟩
    rw [hs]
    cases s with
    | primitive =>
      obtain ⟨r, hr⟩ := hprim rfl
      obtain ⟨k, hk⟩ := t.primitiveShape_ends.of_ok hr
      simp only [hr, Except.toOption, Option.bind_some, hk]
      rfl
    | functionPointer proto => exact absurd rfl (hfun proto)
    | nativeString | pointer | record | enumeration => rfl
  · intro h
    cases hs : t.shape with
    | error e =>
      rw [hs] at h
      exact nomatch h
    | ok s =>
      rw [hs] at h
      cases s with
      | primitive =>
        cases hr : t.primitiveShape with
        | error e =>
          simp only [hr] at h
          exact nomatch h
        | ok r => exact ⟨_, hs, nofun, fun _ => ⟨r, hr⟩⟩
      | functionPointer proto => exact nomatch h
      | nativeString | pointer | record | enumeration => exact isValue_of_shape hs nofun nofun

namespace Linking

section value

variable {op : Operation} {ctx : Context} {d : Direction} {t : CType} {position : Position}

theorem linkPrimitive_face {v : LinkedValue} (h : linkPrimitive t = .ok v) :
    ∃ r plain, t.primitiveShape = .ok r ∧ r.jni.asJava? = some plain ∧
      v.face = .carried plain.descriptor r.jni ∧ v.companions = [] := by
  obtain ⟨r, plain, hr, hplain, rfl⟩ := linkPrimitive_eq h
  refine ⟨r, plain, hr, hplain, ?_, rfl⟩
  -- marked as unsigned or not
  unfold LinkedValue.face Face.carried
  split
  · simp [LinkedValue.typed, LinkedValue.declaredRaw]
  · simp [LinkedValue.typed, LinkedValue.declaredRaw]

theorem linkStruct_face (op : Operation) (ctx : Context) (t : CType) (record : String) :
    (linkStruct op ctx t record).face = .carried (ctx.structDescriptor record) (.scalar .long) := by
  unfold linkStruct Context.structDescriptor
  cases ctx.wrapper? record with
  | none => rfl
  | some w => rfl

theorem linkEnum_face (ctx : Context) (t : CType) (enumeration : String) :
    (linkEnum ctx t enumeration).face = .number .int := by
  unfold linkEnum
  dsimp only
  split <;> rfl

/-- Classification shows the face of the type, or spawns a callback. -/
theorem classifyWith_face {policy : PointerPolicy} (hpolicy : Spawning policy) {c : Classified}
    (hc : (classifyWith policy op ctx d t position).outcome = .ok c) :
    t.face? ctx = some c.value.face ∧ c.value.companions = flags op d t position ∧ c.slot = none ∨
      t.face? ctx = none ∧ ∃ cb, c = spawned t cb := by
  unfold classifyWith at hc
  cases hs : t.shape with
  | error e =>
    rw [hs] at hc
    exact nomatch hc
  | ok s =>
    simp only [hs] at hc
    cases s with
    | primitive =>
      cases hlinked : linkPrimitive t with
      | error e => simp only [hlinked, Except.map, Logged.outcome_ofExcept, reduceCtorEq] at hc
      | ok v =>
        simp only [hlinked, Except.map, Logged.outcome_ofExcept, Except.ok.injEq] at hc
        subst hc
        obtain ⟨r, plain, hr, hplain, hface, hcompanions⟩ := linkPrimitive_face hlinked
        refine Or.inl ⟨?_, hcompanions.trans (flags_of_shape hs nofun).symm, rfl⟩
        simp only [CType.face?, hs, hr, Except.toOption, Option.bind_some, hplain, Option.map_some,
          hface]
    | nativeString =>
      obtain rfl := Except.ok.inj hc
      refine Or.inl ⟨by simp only [CType.face?, hs]; rfl, ?_, rfl⟩
      exact (linkString_settled hs).companions
    | functionPointer proto =>
      obtain ⟨cb, rfl⟩ := hpolicy t proto position c hc
      exact Or.inr ⟨by simp only [CType.face?, hs], cb, rfl⟩
    | pointer pointee =>
      obtain rfl := Except.ok.inj hc
      exact Or.inl ⟨by simp only [CType.face?, hs]; rfl, (flags_of_shape hs nofun).symm, rfl⟩
    | record name =>
      obtain rfl := Except.ok.inj hc
      refine Or.inl ⟨?_, (flags_of_shape hs nofun).symm, rfl⟩
      simp only [CType.face?, hs, linkStruct_face]
    | enumeration name =>
      obtain rfl := Except.ok.inj hc
      refine Or.inl ⟨?_, (flags_of_shape hs nofun).symm, rfl⟩
      simp only [CType.face?, hs, linkEnum_face]

end value

/-! ## Parameters -/

/-- What signatures show of the parameters from some position on; the bit says that the first one is the
context of a function pointer. -/
def faces (op : Operation) (ctx : Context) (d : Direction) :
    Bool → List OperationParameter → List (Param Face)
  | _, [] => []
  | true, p :: ps => ⟨.context, p.name⟩ :: faces op ctx d false ps
  | false, p :: ps =>
    match p.role with
    | .structHandle => ⟨.handle, p.name⟩ :: faces op ctx d false ps
    | .callbackObject callback => ⟨.receiver callback, p.name⟩ :: faces op ctx d false ps
    | .value =>
      match p.type.face? ctx with
      | some face =>
        ⟨face, p.name⟩ :: (flags op d p.type (.parameter 0)).map Parameter.shown ++
          faces op ctx d false ps
      | none => ⟨.hidden, p.name⟩ :: faces op ctx d true ps

section parameters

variable {op : Operation} {ctx : Context} {d : Direction} {policy : PointerPolicy}

/-- What is awaited by a parameter is a context. -/
def AwaitsContext (pending : Option Pending) : Prop :=
  ∀ w, pending = some w → w.slot.face = .context ∧ w.slot.companions = []

theorem awaitsContext_none : AwaitsContext none := by
  intro w hw
  cases hw

/-- It does not matter where among the parameters a string stands. -/
theorem flags_parameter (op : Operation) (d : Direction) (t : CType) (i j : Nat) :
    flags op d t (.parameter i) = flags op d t (.parameter j) := by
  cases d <;> rfl

theorem face_of_linkHandle {t : CType} {v : LinkedValue} (h : linkHandle t = .ok v) :
    v.face = .handle ∧ v.companions = [] := by
  unfold linkHandle at h
  split at h
  · exact nomatch h
  · obtain rfl := Except.ok.inj h
    exact ⟨rfl, rfl⟩

/-- What one parameter shows, before those behind it. -/
theorem faces_of_classifyParameter (hpolicy : Spawning policy) {i : Nat} {p : OperationParameter}
    {c : Classified} (hc : (classifyParameter policy op ctx d i p).outcome = .ok c)
    (ps : List OperationParameter) :
    faces op ctx d false (p :: ps) =
        ⟨c.value.face, p.name⟩ :: c.value.companions.map Parameter.shown ++
          faces op ctx d c.slot.isSome ps ∧
      ∀ slot, c.slot = some slot → slot.face = .context ∧ slot.companions = [] := by
  unfold classifyParameter at hc
  rw [faces]
  cases hrole : p.role with
  | structHandle =>
    simp only [hrole] at hc
    cases hlinked : linkHandle p.type with
    | error e => simp only [hlinked, Except.map, Logged.outcome_ofExcept, reduceCtorEq] at hc
    | ok v =>
      simp only [hlinked, Except.map, Logged.outcome_ofExcept, Except.ok.injEq] at hc
      subst hc
      obtain ⟨hface, hcompanions⟩ := face_of_linkHandle hlinked
      rw [hface, hcompanions]
      refine ⟨rfl, fun slot hslot => ?_⟩
      cases hslot
  | callbackObject callback =>
    simp only [hrole] at hc
    obtain rfl := Except.ok.inj hc
    refine ⟨rfl, fun slot hslot => ?_⟩
    cases hslot
  | value =>
    simp only [hrole] at hc
    rcases classifyWith_face hpolicy hc with ⟨hface, hcompanions, hslot⟩ | ⟨hface, cb, rfl⟩
    · simp only [hface, hcompanions, hslot, flags_parameter op d p.type i 0]
      refine ⟨rfl, fun slot hslot => ?_⟩
      cases hslot
    · simp only [hface]
      refine ⟨rfl, fun slot hslot => ?_⟩
      obtain rfl := Option.some.inj hslot
      exact ⟨rfl, rfl⟩

/-- Linked parameters show what can be read off the operation. -/
theorem faces_of_linkParameters (hpolicy : Spawning policy) {ps : List OperationParameter}
    {pending : Option Pending}
    (hpending : AwaitsContext pending) {i : Nat}
    {rs : List (ParameterLinkage × Option CallbackInterface)}
    (hrs : (linkParameters policy op ctx d pending i ps).outcome = .ok rs) :
    (rs.flatMap fun r => r.1.generated).map Parameter.shown =
      faces op ctx d pending.isSome ps := by
  induction ps generalizing pending i rs with
  | nil =>
    cases pending with
    | none =>
      obtain rfl := Except.ok.inj hrs
      rfl
    | some waiting => exact nomatch hrs
  | cons p ps ih =>
    cases pending with
    | some waiting =>
      rw [linkParameters] at hrs
      split at hrs
      · cases hrs
      · obtain ⟨_, -, hrs⟩ := exists_of_bind_eq_ok hrs
        obtain ⟨l, hl, hrs⟩ := exists_of_bind_eq_ok hrs
        obtain ⟨rest, hrest, hrs⟩ := exists_of_bind_eq_ok hrs
        obtain rfl := Except.ok.inj hrs
        obtain ⟨hface, hcompanions⟩ := hpending waiting rfl
        rw [List.flatMap_cons, List.map_append, LinkedValue.shown_of_toParameterLinkage hl, hface,
          hcompanions, ih awaitsContext_none hrest]
        rfl
    | none =>
      rw [linkParameters] at hrs
      obtain ⟨c, hc, hrs⟩ := exists_of_bind_eq_ok hrs
      obtain ⟨_, -, hrs⟩ := exists_of_bind_eq_ok hrs
      obtain ⟨l, hl, hrs⟩ := exists_of_bind_eq_ok hrs
      obtain ⟨rest, hrest, hrs⟩ := exists_of_bind_eq_ok hrs
      obtain rfl := Except.ok.inj hrs
      obtain ⟨hfaces, hslot⟩ := faces_of_classifyParameter hpolicy hc ps
      have hnext : AwaitsContext (c.slot.map fun slot => ⟨p.name, slot⟩) := by
        intro w hw
        obtain ⟨slot, hs, rfl⟩ := Option.map_eq_some_iff.1 hw
        exact hslot slot hs
      have hbehind := ih hnext hrest
      rw [Option.isSome_map] at hbehind
      rw [List.flatMap_cons, List.map_append, LinkedValue.shown_of_toParameterLinkage hl, hbehind]
      exact hfaces.symm

theorem face_of_linkReturn (hpolicy : Spawning policy) {returnValue : Option ReturnValue}
    (h : (linkReturn policy op ctx d).outcome = .ok returnValue) :
    returnValue.map ReturnValue.face = (if op.returns.isVoid then none else op.returns.face? ctx) ∧
      (returnValue.map ReturnValue.companions).getD [] =
        if op.returns.isVoid then [] else flags op d op.returns .returned := by
  unfold linkReturn at h
  split at h
  · next hvoid =>
    obtain rfl := Except.ok.inj h
    rw [if_pos hvoid, if_pos hvoid]
    exact ⟨rfl, rfl⟩
  · next hvoid =>
    obtain ⟨c, hc, h⟩ := exists_of_bind_eq_ok h
    obtain ⟨r, hr, h⟩ := exists_of_bind_eq_ok h
    obtain rfl := Except.ok.inj h
    obtain ⟨hrface, hrcompanions⟩ := LinkedValue.face_of_toReturnValue hr
    rw [if_neg hvoid, if_neg hvoid]
    rcases classifyWith_face hpolicy hc with ⟨hface, hcompanions, -⟩ | ⟨-, cb, rfl⟩
    · exact ⟨by rw [hface, ← hrface]; rfl, hrcompanions.trans hcompanions⟩
    · -- a closure is no return value
      exact nomatch hr

end parameters

end Linking

/-! ## Operations -/

/-- What signatures show of the parameters of a linkage. -/
def Linkage.shown (l : Linkage) : List (Param Face) := l.allParameters.map Parameter.shown

/-- What signatures show of its result. -/
def Linkage.returnFace? (l : Linkage) : Option Face := l.returnValue.map ReturnValue.face

namespace Operation

/-- What signatures show of the parameters that an operation gives rise to. -/
def faces (op : Operation) (ctx : Context) (d : Direction) : List (Param Face) :=
  Linking.faces op ctx d false op.params ++
    (if op.returns.isVoid then [] else flags op d op.returns .returned).map Parameter.shown

def returnFace? (op : Operation) (ctx : Context) : Option Face :=
  if op.returns.isVoid then none else op.returns.face? ctx

/-- Linking shows what can be read off the operation. -/
theorem faces_of_link {op : Operation} {ctx : Context} {d : Direction} {linked : LinkedOperation}
    (h : (op.link ctx d).outcome = .ok linked) :
    linked.linkage.shown = op.faces ctx d ∧ linked.linkage.returnFace? = op.returnFace? ctx := by
  have hpolicy := spawning_policy op ctx d
  obtain ⟨returnValue, hreturn, h⟩ := exists_of_bind_eq_ok h
  obtain ⟨rs, hrs, h⟩ := exists_of_bind_eq_ok h
  obtain rfl := Except.ok.inj h
  obtain ⟨hface, hcompanions⟩ := face_of_linkReturn hpolicy hreturn
  refine ⟨?_, hface⟩
  have hparams := faces_of_linkParameters hpolicy awaitsContext_none hrs
  rw [faces, Linkage.shown, Linkage.allParameters, hcompanions, List.map_append, List.flatMap_map]
  exact congrArg (· ++ _) hparams

end Operation

/-! ## Signatures -/

/-- The descriptor of a method, from those of its parameters and of its result. -/
def descriptorOf (params : List String) (returns : Option String) : String :=
  "(" ++ String.join params ++ ")" ++ returns.getD "V"

namespace Linkage

variable (l : Linkage)

/-- What is read off the parameters through what they show can be read off the latter. -/
theorem filterMap_shown {α : Type} {f : Parameter → Option α} {g : Param Face → Option α}
    (h : ∀ p, f p = g p.shown) : l.allParameters.filterMap f = l.shown.filterMap g := by
  rw [shown, List.filterMap_map]
  exact List.filterMap_congr fun p _ => h p

theorem descriptor_javaParams :
    (l.allParameters.filterMap Parameter.javaParam?).map (fun p => p.type.descriptor) =
      l.shown.filterMap fun p => p.type.java := by
  rw [List.map_filterMap]
  refine l.filterMap_shown fun p => ?_
  exact Option.map_map ..

theorem descriptor_rawParams :
    (l.allParameters.filterMap Parameter.rawParam?).map (fun p => p.type.descriptor) =
      l.shown.filterMap fun p => p.type.raw := by
  rw [List.map_filterMap]
  refine l.filterMap_shown fun p => ?_
  exact Option.map_map ..

theorem name_rawParams :
    (l.allParameters.filterMap Parameter.rawParam?).map Param.name =
      l.shown.filterMap fun p => p.type.raw.map fun _ => Naming.escape p.name := by
  rw [List.map_filterMap]
  refine l.filterMap_shown fun p => ?_
  show (p.rawType.map _).map _ = (p.rawType.map _).map _
  rw [Option.map_map, Option.map_map]
  rfl

theorem jniParams :
    l.allParameters.filterMap Parameter.jniParam? =
      l.shown.filterMap fun p => p.type.jni.map fun j => ⟨j, p.name⟩ :=
  l.filterMap_shown fun _ => rfl

theorem descriptor_returns :
    ((l.returnValue.map ReturnValue.javaType).getD JavaType.nothing).descriptor =
        (l.returnFace?.bind Face.java).getD "V" ∧
      ((l.returnValue.map ReturnValue.rawType).getD JavaType.nothing).descriptor =
        (l.returnFace?.bind Face.raw).getD "V" ∧
      (l.returnValue.map ReturnValue.jniType).getD .void =
        (l.returnFace?.bind Face.jni).getD .void := by
  unfold returnFace?
  cases l.returnValue with
  | none => exact ⟨rfl, rfl, rfl⟩
  | some r => exact ⟨rfl, rfl, rfl⟩

end Linkage

namespace DowncallUnit

theorem descriptor_javaMethodOf (l : Linkage) (spec : DowncallSpec) :
    (javaMethodOf l spec).descriptor =
      descriptorOf (l.shown.filterMap fun p => p.type.java) (l.returnFace?.bind Face.java) := by
  rw [JavaMethod.descriptor, descriptorOf, ← l.descriptor_javaParams, ← l.descriptor_returns.1]
  rfl

theorem descriptor_rawMethodOf (l : Linkage) (spec : DowncallSpec) :
    (rawMethodOf l spec).descriptor =
      descriptorOf (l.shown.filterMap fun p => p.type.raw) (l.returnFace?.bind Face.raw) := by
  rw [JavaMethod.descriptor, descriptorOf, ← l.descriptor_rawParams, ← l.descriptor_returns.2.1]
  rfl

theorem glueMethodOf_eq (l : Linkage) (spec : DowncallSpec) :
    glueMethodOf l spec =
      ⟨Symbol.glueName spec.owner spec.rawName, (l.returnFace?.bind Face.jni).getD .void,
        l.shown.filterMap fun p => p.type.jni.map fun j => ⟨j, p.name⟩⟩ := by
  rw [glueMethodOf, l.jniParams, l.descriptor_returns.2.2]

end DowncallUnit

namespace UpcallUnit

theorem descriptor_callerOf (l : Linkage) (names : MemberNames) :
    (callerOf l names).descriptor =
      descriptorOf (l.shown.filterMap fun p => p.type.raw) (l.returnFace?.bind Face.raw) := by
  rw [JavaMethod.descriptor, descriptorOf, ← l.descriptor_rawParams, ← l.descriptor_returns.2.1]
  rfl

theorem methods_of_ofLinkage {l : Linkage} {callbackType : JavaType} {names : MemberNames}
    {u : UpcallUnit} (h : ofLinkage l callbackType names = .ok u) :
    u.caller = callerOf l names ∧ u.callback = callbackOf l names := by
  unfold ofLinkage at h
  dsimp only at h
  split at h
  · exact nomatch h
  · obtain ⟨javaBody, -, h⟩ := exists_of_except_bind h
    obtain ⟨run, -, h⟩ := exists_of_except_bind h
    obtain ⟨nativeBody, -, h⟩ := exists_of_except_bind h
    obtain rfl := Except.ok.inj h
    exact ⟨rfl, rfl⟩

end UpcallUnit

end JniBridge
