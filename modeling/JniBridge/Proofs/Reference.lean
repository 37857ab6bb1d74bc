import JniBridge.Proofs.Callback
/-
What a linkage refers to.

Generated code names three things that are generated elsewhere: the wrapper classes of structs, in the
actions that wrap and unwrap them; the classes of enums, in annotations; and callback interfaces, in the
types of their handles (`Reference`).  Linking takes all of them from two sources, the registry and the
callbacks that it makes itself, and adds none of its own (`Linking.references_of_linkWith`).  A callback
is linked without function pointers, so nothing is made inside it (`CallbackInterface.nested_of_create`).
-/

namespace JniBridge

/-! ## References -/

/-- A class that generated code refers to. -/
inductive Reference where
  /-- The wrapper class of a struct. -/
  | wrapper (record javaClass : String)
  /-- The class of an enum, by the annotation that names it. -/
  | constants (note : String)
  /-- A callback interface. -/
  | interface (type : JavaType)

namespace Reference

/-- The annotation is one that ties an integer to the constants of a class. -/
def isMagic (note : String) : Bool :=
  Vocabulary.magicConstant.toList.isPrefixOf note.toList

/-- What annotations refer to. -/
def ofAnnotations (notes : List String) : List Reference :=
  (notes.filter isMagic).map constants

end Reference

/-- Only the wrapper class of a struct is named in an action. -/
def Action.references : Action → List Reference
  | structCopy record (some javaClass) => [.wrapper record javaClass]
  | nestedStruct record (some javaClass) => [.wrapper record javaClass]
  | _ => []

mutual
/-- What a type refers to, in its annotations and as the handle of a callback, down to its arguments. -/
def JavaType.references : JavaType → List Reference
  | .void notes => Reference.ofAnnotations notes
  | .scalar _ notes => Reference.ofAnnotations notes
  | .object p n arguments notes =>
    Reference.ofAnnotations notes ++
      (if p = Vocabulary.javaPackage ∧ n = "FunctionPointer" then
        arguments.map Reference.interface else []) ++ JavaType.referencesAll arguments
  | .array element notes => Reference.ofAnnotations notes ++ JavaType.references element

def JavaType.referencesAll : List JavaType → List Reference
  | [] => []
  | t :: ts => JavaType.references t ++ JavaType.referencesAll ts
end

def Parameter.references (p : Parameter) : List Reference :=
  p.action.references ++ (p.javaType.toList ++ p.rawType.toList).flatMap JavaType.references

def ReturnValue.references (r : ReturnValue) : List Reference :=
  r.action.references ++ r.javaType.references ++ r.rawType.references

/-- What the actions and the types of a linkage refer to. -/
def Linkage.references (l : Linkage) : List Reference :=
  l.allParameters.flatMap Parameter.references ++
    l.returnValue.toList.flatMap ReturnValue.references

/-! ## Types -/

namespace Reference

theorem ofAnnotations_pointer (spelling : String) :
    ofAnnotations [Vocabulary.pointerAnnotation spelling] = [] := by
  have hnot : isMagic (Vocabulary.pointerAnnotation spelling) = false := by
    unfold isMagic Vocabulary.pointerAnnotation
    simp only [String.toList_append]
    rfl
  simp [ofAnnotations, hnot]

theorem ofAnnotations_magic (ctx : Context) (enumeration : String) :
    ofAnnotations [Linking.magicConstant ctx enumeration] =
      [constants (Linking.magicConstant ctx enumeration)] := by
  have hmagic : isMagic (Linking.magicConstant ctx enumeration) = true := by
    unfold isMagic Linking.magicConstant
    rw [List.isPrefixOf_iff_prefix]
    simp only [String.toList_append, List.append_assoc]
    exact List.prefix_append _ _
  simp [ofAnnotations, hmagic]

end Reference

/-- A class without arguments refers to nothing. -/
@[simp]
theorem JavaType.references_ofClass (package name : String) :
    (JavaType.ofClass package name).references = [] := by
  simp [ofClass, references, referencesAll, Reference.ofAnnotations]

/-- The handle of a callback refers to its interface. -/
theorem JavaType.references_functionPointer {interface : JavaType} (h : interface.references = []) :
    (Vocabulary.functionPointer interface).references = [.interface interface] := by
  simp [Vocabulary.functionPointer, generic, references, referencesAll, Reference.ofAnnotations, h]

/-- Raw types refer to nothing. -/
theorem JniType.references_of_asJava? {j : JniType} {t : JavaType} (h : j.asJava? = some t) :
    t.references = [] := by
  cases j with
  | void | scalar k | string | scalarArray k =>
    obtain rfl := Option.some.inj h
    rfl
  | object | classObject | throwable | methodId | objectArray => exact nomatch h

/-! ## Values -/

/-- All that the value refers to is known. -/
structure LinkedValue.Within (P : Reference → Prop) (v : LinkedValue) : Prop where
  action : ∀ r ∈ v.action.references, P r
  java : ∀ t, v.javaType = some t → ∀ r ∈ t.references, P r
  raw : ∀ t, v.rawType = some t → ∀ r ∈ t.references, P r
  companions : ∀ q ∈ v.companions, ∀ r ∈ q.references, P r

namespace LinkedValue.Within

variable {P : Reference → Prop} {v : LinkedValue}

/-- Values come with a Java type and no more. -/
theorem typed {a : Action} {java : JavaType} {j : JniType} {t : CType}
    (haction : ∀ r ∈ a.references, P r) (hjava : ∀ r ∈ java.references, P r) :
    (LinkedValue.typed a java j t).Within P where
  action := haction
  java := by
    intro t ht
    obtain rfl := Option.some.inj ht
    exact hjava
  raw := nofun
  companions := List.forall_mem_nil _

theorem declaredRaw (h : v.Within P) {t : JavaType} (ht : v.declaredRaw = some t) :
    ∀ r ∈ t.references, P r := by
  rcases Option.or_eq_some_iff.1 ht with hraw | ⟨-, hjni⟩
  · exact h.raw t hraw
  · obtain ⟨j, -, hj⟩ := Option.bind_eq_some_iff.1 hjni
    rw [JniType.references_of_asJava? hj]
    exact List.forall_mem_nil _

/-- Placing adds nothing. -/
theorem toParameterLinkage (h : v.Within P) {name : String} {d : Direction} {l : ParameterLinkage}
    (hl : v.toParameterLinkage name d = .ok l) : ∀ q ∈ l.generated, ∀ r ∈ q.references, P r := by
  rw [LinkedValue.eq_placed_of_toParameterLinkage hl]
  refine List.forall_mem_cons.2 ⟨fun r hr => ?_, h.companions⟩
  rcases List.mem_append.1 hr with hr | hr
  · exact h.action r hr
  · obtain ⟨t, ht, hr⟩ := List.mem_flatMap.1 hr
    rcases List.mem_append.1 ht with ht | ht
    · exact h.java t (Option.mem_toList.1 ht) r hr
    · exact h.declaredRaw (Option.mem_toList.1 ht) r hr

theorem toReturnValue (h : v.Within P) {x : ReturnValue} (hx : v.toReturnValue = .ok x) :
    (∀ r ∈ x.references, P r) ∧ ∀ q ∈ x.companions, ∀ r ∈ q.references, P r := by
  unfold LinkedValue.toReturnValue at hx
  split at hx
  · next java j t hjava hjni hnative =>
    split at hx
    · next raw hraw =>
      have hdeclared : v.declaredRaw = some raw := by
        rw [LinkedValue.declaredRaw, hjni]
        exact hraw
      obtain rfl := Except.ok.inj hx
      refine ⟨fun r hr => ?_, h.companions⟩
      rcases List.mem_append.1 hr with hr | hr
      · rcases List.mem_append.1 hr with hr | hr
        · exact h.action r hr
        · exact h.java java hjava r hr
      · exact h.declaredRaw hdeclared r hr
    · exact nomatch hx
  · exact nomatch hx

end LinkedValue.Within

namespace Linking

/-- What a context can be referred to for. -/
structure Knows (ctx : Context) (P : Reference → Prop) : Prop where
  wrapper : ∀ record w, ctx.wrapper? record = some w →
    (∀ javaClass, w.javaType.name? = some javaClass → P (.wrapper record javaClass)) ∧
      ∀ r ∈ w.javaType.references, P r
  constants : ∀ enumeration, ctx.hasEnum enumeration = true →
    P (.constants (magicConstant ctx enumeration))

section value

variable {ctx : Context} {P : Reference → Prop}

theorem linkPrimitive_within {t : CType} {v : LinkedValue} (h : linkPrimitive t = .ok v) :
    v.Within P := by
  obtain ⟨shape, plain, hshape, hjava, rfl⟩ := linkPrimitive_eq h
  obtain ⟨k, hk⟩ := t.primitiveShape_ends.of_ok hshape
  rw [hk] at hjava
  obtain rfl := Option.some.inj hjava
  refine .typed (List.forall_mem_nil _) fun r hr => ?_
  -- marked as unsigned or not, a number refers to nothing
  split at hr <;> exact absurd hr List.not_mem_nil

theorem linkString_within (op : Operation) (d : Direction) (t : CType) (position : Position) :
    (linkString op d t position).Within P where
  action := List.forall_mem_nil _
  java := by
    intro java hjava
    obtain rfl := Option.some.inj hjava
    exact List.forall_mem_nil _
  raw := nofun
  companions := by
    intro q hq
    obtain ⟨name, -, rfl⟩ := Option.map_eq_some_iff.1 (Option.mem_toList.1 hq)
    exact List.forall_mem_nil _

theorem linkPointer_within (t pointee : CType) : (linkPointer t pointee).Within P := by
  refine .typed (List.forall_mem_nil _) fun r hr => ?_
  have hnone : ((JavaType.ofScalar .long).annotated
      (Vocabulary.pointerAnnotation t.sourceSpelling)).references = [] :=
    Reference.ofAnnotations_pointer t.sourceSpelling
  rw [hnone] at hr
  exact absurd hr List.not_mem_nil

theorem linkStruct_within (h : Knows ctx P) (op : Operation) (t : CType) (record : String) :
    (linkStruct op ctx t record).Within P := by
  unfold linkStruct
  cases hwrapper : ctx.wrapper? record with
  | none =>
    refine .typed (fun r hr => ?_) fun r hr => ?_
    · exact absurd hr (by split <;> exact List.not_mem_nil)
    · have hnone : ((JavaType.ofScalar .long).annotated
          (Vocabulary.pointerAnnotation (record ++ "*"))).references = [] :=
        Reference.ofAnnotations_pointer (record ++ "*")
      rw [hnone] at hr
      exact absurd hr List.not_mem_nil
  | some w =>
    obtain ⟨hclass, htype⟩ := h.wrapper record w hwrapper
    refine .typed (fun r hr => ?_) htype
    cases hname : w.javaType.name? with
    | none => exact absurd hr (by simp only [Option.bind_some, hname]; split <;> exact List.not_mem_nil)
    | some javaClass =>
      have hrefers : r = .wrapper record javaClass := by
        simp only [Option.bind_some, hname] at hr
        split at hr <;> exact List.mem_singleton.1 hr
      rw [hrefers]
      exact hclass javaClass hname

theorem linkEnum_within (h : Knows ctx P) (t : CType) (enumeration : String) :
    (linkEnum ctx t enumeration).Within P := by
  unfold linkEnum
  refine .typed (List.forall_mem_nil _) fun r hr => ?_
  by_cases henum : ctx.hasEnum enumeration = true
  · rw [if_pos henum] at hr
    have hone : ((JavaType.ofScalar .int).annotated (magicConstant ctx enumeration)).references =
        [.constants (magicConstant ctx enumeration)] :=
      Reference.ofAnnotations_magic ctx enumeration
    rw [hone] at hr
    obtain rfl := List.mem_singleton.1 hr
    exact h.constants enumeration henum
  · rw [if_neg henum] at hr
    exact absurd hr List.not_mem_nil

end value

/-! ## Operations -/

/-- A function pointer becomes a callback, or is refused. -/
def Spawning (policy : PointerPolicy) : Prop :=
  ∀ t proto position c, (policy t proto position).outcome = .ok c → ∃ cb, c = spawned t cb

theorem spawning_policy (op : Operation) (ctx : Context) (d : Direction) :
    Spawning (policy op ctx d) := by
  intro t proto position c h
  cases d with
  | upcall => cases position <;> exact nomatch h
  | downcall =>
    cases position with
    | returned => exact nomatch h
    | parameter index =>
      simp only [policy, spawnCallback] at h
      split at h
      · exact nomatch h
      · split at h
        · exact nomatch h
        · split at h
          · exact nomatch h
          · obtain ⟨cb, -, h⟩ := exists_of_bind_eq_ok h
            exact ⟨cb, (Except.ok.inj h).symm⟩

section operation

variable {ctx : Context} {P : Reference → Prop} {op : Operation} {d : Direction}
  {policy : PointerPolicy}

/-- A classified value refers to what is known, and leaves nothing for the next parameter unless it
makes a callback. -/
theorem classifyWith_within (h : Knows ctx P) (hpolicy : Spawning policy) {t : CType}
    {position : Position} {c : Classified}
    (hc : (classifyWith policy op ctx d t position).outcome = .ok c) :
    c.value.Within P ∧ c.slot = c.callback.map contextValue := by
  unfold classifyWith at hc
  split at hc
  · exact nomatch hc
  · cases hlinked : linkPrimitive t with
    | error e => simp only [hlinked, Except.map, Logged.outcome_ofExcept, reduceCtorEq] at hc
    | ok v =>
      simp only [hlinked, Except.map, Logged.outcome_ofExcept, Except.ok.injEq] at hc
      subst hc
      exact ⟨linkPrimitive_within hlinked, rfl⟩
  · obtain rfl := Except.ok.inj hc
    exact ⟨linkString_within op d t position, rfl⟩
  · next proto _ =>
    obtain ⟨cb, rfl⟩ := hpolicy t proto position c hc
    exact ⟨⟨List.forall_mem_nil _, nofun, nofun, List.forall_mem_nil _⟩, rfl⟩
  · obtain rfl := Except.ok.inj hc
    exact ⟨linkPointer_within t _, rfl⟩
  · obtain rfl := Except.ok.inj hc
    exact ⟨linkStruct_within h op t _, rfl⟩
  · obtain rfl := Except.ok.inj hc
    exact ⟨linkEnum_within h t _, rfl⟩

/-- The receiver of a callback is of a type that refers to nothing. -/
def PlainReceiver (p : OperationParameter) : Prop :=
  ∀ callback, p.role = .callbackObject callback → callback.references = []

theorem classifyParameter_within (h : Knows ctx P) (hpolicy : Spawning policy) {index : Nat}
    {p : OperationParameter} (hp : PlainReceiver p) {c : Classified}
    (hc : (classifyParameter policy op ctx d index p).outcome = .ok c) :
    c.value.Within P ∧ c.slot = c.callback.map contextValue := by
  unfold classifyParameter at hc
  split at hc
  · -- a handle has no type in Java
    cases hlinked : linkHandle p.type with
    | error e => simp only [hlinked, Except.map, Logged.outcome_ofExcept, reduceCtorEq] at hc
    | ok v =>
      simp only [hlinked, Except.map, Logged.outcome_ofExcept, Except.ok.injEq] at hc
      subst hc
      unfold linkHandle at hlinked
      split at hlinked
      · exact nomatch hlinked
      · obtain rfl := Except.ok.inj hlinked
        exact ⟨⟨List.forall_mem_nil _, nofun, nofun, List.forall_mem_nil _⟩, rfl⟩
  · next callback hrole =>
    obtain rfl := Except.ok.inj hc
    have hnone : ∀ r ∈ callback.references, P r := by
      rw [hp callback hrole]
      exact List.forall_mem_nil _
    refine ⟨⟨List.forall_mem_nil _, fun t ht => ?_, fun t ht => ?_, List.forall_mem_nil _⟩, rfl⟩
    · obtain rfl := Option.some.inj ht
      exact hnone
    · obtain rfl := Option.some.inj ht
      exact hnone
  · exact classifyWith_within h hpolicy hc

/-- The object of a callback refers to the interface. -/
theorem contextValue_within {cb : CallbackInterface} (hplain : cb.type.references = [])
    (hknown : P (.interface cb.type)) : (contextValue cb).Within P := by
  refine .typed (List.forall_mem_nil _) fun r hr => ?_
  rw [JavaType.references_functionPointer hplain] at hr
  obtain rfl := List.mem_singleton.1 hr
  exact hknown

/-- All that linked parameters refer to is known, if the callbacks made for them are. -/
theorem references_of_linkParameters (h : Knows ctx P) (hpolicy : Spawning policy)
    {ps : List OperationParameter} (hps : ∀ p ∈ ps, PlainReceiver p) {pending : Option Pending}
    (hpending : ∀ waiting, pending = some waiting → waiting.slot.Within P) {i : Nat}
    {rs : List (ParameterLinkage × Option CallbackInterface)}
    (hrs : (linkParameters policy op ctx d pending i ps).outcome = .ok rs)
    (hcallbacks : ∀ cb ∈ rs.filterMap Prod.snd, cb.type.references = [] ∧ P (.interface cb.type)) :
    ∀ l ∈ rs.map Prod.fst, ∀ q ∈ l.generated, ∀ r ∈ q.references, P r := by
  induction ps generalizing pending i rs with
  | nil =>
    cases pending with
    | none =>
      obtain rfl := Except.ok.inj hrs
      exact List.forall_mem_nil _
    | some waiting => cases hrs
  | cons p ps ih =>
    obtain ⟨hp, hps⟩ := List.forall_mem_cons.1 hps
    cases pending with
    | some waiting =>
      rw [linkParameters] at hrs
      split at hrs
      · cases hrs
      · obtain ⟨_, -, hrs⟩ := exists_of_bind_eq_ok hrs
        obtain ⟨l, hl, hrs⟩ := exists_of_bind_eq_ok hrs
        obtain ⟨rest, hrest, hrs⟩ := exists_of_bind_eq_ok hrs
        obtain rfl := Except.ok.inj hrs
        have hnone : ∀ waiting, (none : Option Pending) = some waiting → waiting.slot.Within P := by
          intro waiting hwaiting
          cases hwaiting
        refine List.forall_mem_cons.2 ⟨?_, ih hps hnone hrest hcallbacks⟩
        exact (hpending waiting rfl).toParameterLinkage hl
    | none =>
      rw [linkParameters] at hrs
      obtain ⟨c, hc, hrs⟩ := exists_of_bind_eq_ok hrs
      obtain ⟨_, -, hrs⟩ := exists_of_bind_eq_ok hrs
      obtain ⟨l, hl, hrs⟩ := exists_of_bind_eq_ok hrs
      obtain ⟨rest, hrest, hrs⟩ := exists_of_bind_eq_ok hrs
      obtain rfl := Except.ok.inj hrs
      obtain ⟨hvalue, hslot⟩ := classifyParameter_within h hpolicy hp hc
      have hlater : ∀ cb ∈ rest.filterMap Prod.snd,
          cb.type.references = [] ∧ P (.interface cb.type) := by
        intro cb hcb
        obtain ⟨x, hx, hsome⟩ := List.mem_filterMap.1 hcb
        exact hcallbacks cb (List.mem_filterMap.2 ⟨x, List.mem_cons_of_mem _ hx, hsome⟩)
      refine List.forall_mem_cons.2 ⟨hvalue.toParameterLinkage hl, ih hps ?_ hrest hlater⟩
      -- the object of a callback is passed on to the parameter behind it
      intro waiting hwaiting
      obtain ⟨slot, hs, rfl⟩ := Option.map_eq_some_iff.1 hwaiting
      rw [hslot] at hs
      obtain ⟨cb, hcb, rfl⟩ := Option.map_eq_some_iff.1 hs
      obtain ⟨hplain, hknown⟩ :=
        hcallbacks cb (List.mem_filterMap.2 ⟨(l, c.callback), List.mem_cons_self, hcb⟩)
      exact contextValue_within hplain hknown

/-- All that a linkage refers to is known, if the callbacks made for it are. -/
theorem references_of_linkWith (h : Knows ctx P) (hpolicy : Spawning policy)
    (hps : ∀ p ∈ op.params, PlainReceiver p) {linked : LinkedOperation}
    (hlinked : (linkWith policy op ctx d).outcome = .ok linked)
    (hcallbacks : ∀ cb ∈ linked.callbacks, cb.type.references = [] ∧ P (.interface cb.type)) :
    ∀ r ∈ linked.linkage.references, P r := by
  obtain ⟨returnValue, hreturn, hlinked⟩ := exists_of_bind_eq_ok hlinked
  obtain ⟨rs, hrs, hlinked⟩ := exists_of_bind_eq_ok hlinked
  obtain rfl := Except.ok.inj hlinked
  have hnone : ∀ waiting, (none : Option Pending) = some waiting → waiting.slot.Within P :=
    fun _ h => nomatch h
  have hparams := references_of_linkParameters h hpolicy hps hnone hrs hcallbacks
  have hresult : ∀ x, returnValue = some x →
      (∀ r ∈ x.references, P r) ∧ ∀ q ∈ x.companions, ∀ r ∈ q.references, P r := by
    intro x hx
    subst hx
    unfold linkReturn at hreturn
    split at hreturn
    · exact nomatch hreturn
    · obtain ⟨c, hc, hreturn⟩ := exists_of_bind_eq_ok hreturn
      obtain ⟨x', hx', hreturn⟩ := exists_of_bind_eq_ok hreturn
      obtain rfl := Option.some.inj (Except.ok.inj hreturn)
      exact (classifyWith_within h hpolicy hc).1.toReturnValue hx'
  intro r hr
  rcases List.mem_append.1 hr with hr | hr
  · obtain ⟨q, hq, hr⟩ := List.mem_flatMap.1 hr
    rcases List.mem_append.1 hq with hq | hq
    · obtain ⟨l, hl, hq⟩ := List.mem_flatMap.1 hq
      exact hparams l hl q hq r hr
    · cases hx : returnValue with
      | none =>
        rw [hx] at hq
        exact absurd hq List.not_mem_nil
      | some x =>
        rw [hx] at hq
        exact (hresult x hx).2 q hq r hr
  · obtain ⟨x, hx, hr⟩ := List.mem_flatMap.1 hr
    exact (hresult x (Option.mem_toList.1 hx)).1 r hr

end operation

/-- The callbacks of an operation are made for its parameters. -/
theorem ParametersLinked.created {op : Operation} {ctx : Context} {d : Direction}
    {awaiting : Option CallbackInterface} {ps : List OperationParameter}
    {rs : List (ParameterLinkage × Option CallbackInterface)}
    (h : ParametersLinked op ctx d awaiting ps rs) :
    ∀ cb ∈ rs.filterMap Prod.snd, ∃ parameter proto,
      (CallbackInterface.create op.name parameter proto ctx).outcome = .ok cb := by
  induction h with
  | nil => exact List.forall_mem_nil _
  | value _ _ _ ih | handle _ _ _ _ ih | receiver _ _ ih | context _ _ _ _ ih => exact ih
  | pointer _ _ _ _ created _ ih => exact List.forall_mem_cons.2 ⟨⟨_, _, created⟩, ih⟩

/-- In an upcall no callback is made. -/
theorem ParametersLinked.callbacks_upcall {op : Operation} {ctx : Context}
    {awaiting : Option CallbackInterface} {ps : List OperationParameter}
    {rs : List (ParameterLinkage × Option CallbackInterface)}
    (h : ParametersLinked op ctx .upcall awaiting ps rs) : rs.filterMap Prod.snd = [] := by
  induction h with
  | nil => rfl
  | value _ _ _ ih | receiver _ _ ih => exact ih
  | handle _ down _ _ _ | pointer _ down _ _ _ _ _ | context _ down _ _ _ => exact nomatch down

end Linking

/-! ## Callbacks -/

/-- A callback's method comes from linking an operation of its own, in which no callback is made. -/
structure CallbackInterface.Nested (cb : CallbackInterface) (ctx : Context) : Prop where
  linked : (cb.method.linkage.operation.link ctx .upcall).outcome = .ok ⟨cb.method.linkage, []⟩
  receivers : ∀ p ∈ cb.method.linkage.operation.params, Linking.PlainReceiver p
  type : cb.type.references = []

theorem CallbackInterface.nested_of_create {operation parameter : String} {proto : CType}
    {ctx : Context} {cb : CallbackInterface}
    (h : (create operation parameter proto ctx).outcome = .ok cb) : cb.Nested ctx := by
  unfold create at h
  obtain ⟨op, hop, h⟩ := exists_of_bind_eq_ok h
  obtain ⟨linked, hlinked, h⟩ := exists_of_bind_eq_ok h
  obtain ⟨method, hmethod, h⟩ := exists_of_bind_eq_ok h
  obtain rfl := Except.ok.inj h
  have hdispatch := (Operation.runCallback_ends _ proto _).of_ok hop
  obtain ⟨returns, values, context, -, rfl⟩ := hdispatch
  have hlinkedAs := (Linking.linkDispatch_ends ctx _ returns values context _).of_ok hlinked
  obtain ⟨u, hu, haround⟩ := UpcallUnit.ofLinkage_ok hlinkedAs.sound hlinkedAs.dispatch_receiver
    hlinkedAs.dispatch_run _ ctx.names
  obtain rfl := Except.ok.inj (hmethod.symm.trans hu)
  obtain ⟨rs, hrs, -, hcallbacks⟩ := hlinkedAs.params
  have hlinkage : method.linkage = linked.linkage := haround.linkage
  have hmade : linked = ⟨method.linkage, []⟩ := by
    rw [hrs.callbacks_upcall] at hcallbacks
    rw [hlinkage, ← hcallbacks]
  have hoperation : method.linkage.operation = _ := hlinkage ▸ hlinkedAs.operation
  refine ⟨?_, ?_, JavaType.references_ofClass _ _⟩
  · rw [← hmade, hoperation]
    exact hlinked
  · rw [hoperation]
    intro p hp callback hrole
    rcases List.mem_append.1 hp with hp | hp
    · exact nomatch (Operation.role_of_mem_proxies p hp).symm.trans hrole
    · obtain rfl := List.mem_singleton.1 hp
      obtain rfl := Role.callbackObject.inj hrole
      exact JavaType.references_ofClass _ _

end JniBridge
