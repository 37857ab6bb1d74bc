import JniBridge.Linking
import JniBridge.Proofs.Outcome
/-
One value at a time: what classification settles, and what placing makes of it.

Whatever the shape of its type, an ordinary value has a type on every layer, a raw type that belongs to
its native-interface type, and an action with an expression on every edge (`Linking.Settled`).  That is
all that later proofs need to know, so the table of shapes is looked through here and nowhere else.

A failure of classification is always a refusal of the type: never a value left half settled.
-/

namespace JniBridge

/-! ## Refusals -/

/-- The declaration asks for something that no linkage can give.  These are the failures of linking;
the others are of layouts, of enum constants, or of values left half settled. -/
def LinkError.isRefusal : LinkError → Bool
  | unsupportedType _ | contextNotTaken _ | contextNotPassed _ | callbackReturned
  | callbackInCallback _ => true
  | _ => false

theorem LinkError.isFatal_of_isRefusal {e : LinkError} (h : e.isRefusal) : e.isFatal = false := by
  cases e <;> first | rfl | exact absurd h Bool.false_ne_true

/-- A refusal is no missing expression. -/
theorem LinkError.ne_unsupportedEdge {e : LinkError} (h : e.isRefusal) (action : String)
    (edge : Edge) (verb : String) : e ≠ .unsupportedEdge action edge verb := by
  rintro rfl
  exact absurd h Bool.false_ne_true

/-! ## Types of ordinary values -/

namespace CType

/-- Values of the type cross the boundary on their own: its shape is known, it is no function
pointer, and a scalar has a carrier. -/
def IsValue (t : CType) : Prop :=
  ∃ s, t.shape = .ok s ∧ (∀ proto, s ≠ .functionPointer proto) ∧
    (s = .primitive → ∃ r, t.primitiveShape = .ok r)

theorem isValue_of_shape {t : CType} {s : Shape} (hs : t.shape = .ok s)
    (hfun : ∀ proto, s ≠ .functionPointer proto) (hprim : s ≠ .primitive) : t.IsValue :=
  ⟨s, hs, hfun, fun h => absurd h hprim⟩

theorem not_isValue_of_functionPointer {t proto : CType}
    (hs : t.shape = .ok (.functionPointer proto)) : ¬ t.IsValue := by
  rintro ⟨s, hs', hfun, -⟩
  rw [hs] at hs'
  obtain rfl := Except.ok.inj hs'
  exact hfun proto rfl

/-- A scalar is carried by a scalar. -/
theorem primitiveShape_ends (t : CType) :
    Ends t.primitiveShape (fun r => ∃ k, r.jni = .scalar k) (·.isRefusal) := by
  unfold primitiveShape
  cases t.pointerSized? with
  | some name => exact ⟨_, rfl⟩
  | none =>
    cases t.fixedWidth? with
    | some w => exact ⟨_, rfl⟩
    | none =>
      cases t.desugared.kind with
      | scalar s =>
        cases hs : s.carrier? with
        | some k => simp [hs]
        | none => simp [hs, LinkError.isRefusal]
      | _ => rfl

theorem shape_ends (t : CType) : Ends t.shape (fun _ => True) (·.isRefusal) := by
  unfold shape
  split <;> trivial

/-! ## Native strings -/

/-- The type of a native string. -/
def isNativeString (t : CType) : Bool :=
  match t.shape with
  | .ok .nativeString => true
  | _ => false

/-- The type is, through typedefs, a pointer to plain characters. -/
def IsString (t : CType) : Prop :=
  ∃ pointee s p k s' p', t.desugared = .pointer pointee s p ∧ pointee.desugared = .scalar k s' p' ∧
    (k = .charSigned ∨ k = .charUnsigned)

theorem shape_of_isNativeString {t : CType} (h : t.isNativeString) :
    t.shape = .ok .nativeString := by
  unfold isNativeString at h
  split at h
  · assumption
  · exact nomatch h

theorem isNativeString_iff (t : CType) : t.isNativeString ↔ t.IsString := by
  constructor
  · intro h
    have hshape := shape_of_isNativeString h
    unfold shape at hshape
    split at hshape
    · exact nomatch hshape
    · exact nomatch hshape
    · next pointee s p hp =>
      have hpointee : pointerShape pointee = .nativeString := Except.ok.inj hshape
      unfold pointerShape at hpointee
      split at hpointee
      · next s' p' hd => exact ⟨pointee, s, p, _, s', p', hp, hd, Or.inl rfl⟩
      · next s' p' hd => exact ⟨pointee, s, p, _, s', p', hp, hd, Or.inr rfl⟩
      · exact nomatch hpointee
      · exact nomatch hpointee
    · exact nomatch hshape
    · exact nomatch hshape
    · exact nomatch hshape
  · rintro ⟨pointee, s, p, k, s', p', hp, hd, hk⟩
    have hshape : t.shape = .ok .nativeString := by
      rw [shape, hp]
      show Except.ok (pointerShape pointee) = _
      rw [pointerShape, hd]
      rcases hk with rfl | rfl
      · rfl
      · rfl
    rw [isNativeString, hshape]

/-- What is `void` through typedefs is no native string. -/
theorem isNativeString_of_isVoid {t : CType} (h : t.isVoid) : t.isNativeString = false := by
  have hkind : t.desugared.kind = .scalar .void := beq_iff_eq.1 h
  rw [isNativeString, shape]
  cases hd : t.desugared with
  | pointer pointee s p =>
    rw [hd] at hkind
    cases hkind
  | scalar k s p => cases k <;> rfl
  | _ => rfl

theorem not_isString_of_isVoid {t : CType} (h : t.isVoid) : ¬ t.IsString := by
  rw [← isNativeString_iff, isNativeString_of_isVoid h]
  exact Bool.false_ne_true

end CType

/-! ## Settled values -/

/-- The action has an expression on every edge, whichever way the call goes. -/
def Action.Converts (a : Action) : Prop := ∀ e d, e ∈ a.transitEdges d

/-- The value exists on all three layers and is treated in the usual way. -/
structure LinkedValue.Carried (v : LinkedValue) (t : CType) (d : Direction) : Prop where
  java : v.javaType.isSome
  /-- The raw type is the one that belongs to the native-interface type. -/
  jni : ∃ j raw, v.jniType = some j ∧ j.asJava? = some raw
  native : v.nativeType = some t
  rawType : v.rawType = none
  intermediate : v.intermediate = none
  behaviors : v.behaviors = none
  notCompanion : v.isCompanion = false
  notReceiver : v.isReceiver = false
  javaEdge : d.javaEdge ∈ v.action.transitEdges d
  nativeEdge : d.nativeEdge ∈ v.action.transitEdges d

theorem LinkedValue.typed_carried {a : Action} {java raw : JavaType} {j : JniType} {t : CType}
    {d : Direction} (companions : List Parameter) (hj : j.asJava? = some raw)
    (hjava : d.javaEdge ∈ a.transitEdges d) (hnative : d.nativeEdge ∈ a.transitEdges d) :
    ({ typed a java j t with companions := companions } : LinkedValue).Carried t d where
  java := rfl
  jni := ⟨j, raw, rfl, hj⟩
  native := rfl
  rawType := rfl
  intermediate := rfl
  behaviors := rfl
  notCompanion := rfl
  notReceiver := rfl
  javaEdge := hjava
  nativeEdge := hnative

namespace Linking

/-- The flags that a value of the type brings. -/
def flags (op : Operation) (d : Direction) (t : CType) (position : Position) : List Parameter :=
  match t.shape with
  | .ok .nativeString =>
    ((deletionName? op d position).map fun name => deletionFlag name d).toList
  | _ => []

/-- What is known of the value that an ordinary type is classified as. -/
structure Settled (op : Operation) (d : Direction) (t : CType) (position : Position)
    (v : LinkedValue) : Prop where
  isValue : t.IsValue
  carried : v.Carried t d
  converts : v.action.Converts
  companions : v.companions = flags op d t position

theorem mem_flags {op : Operation} {d : Direction} {t : CType} {position : Position} {p : Parameter}
    (h : p ∈ flags op d t position) :
    ∃ name, deletionName? op d position = some name ∧ p = deletionFlag name d := by
  unfold flags at h
  split at h
  · obtain ⟨name, hname, rfl⟩ := Option.map_eq_some_iff.1 (Option.mem_toList.1 h)
    exact ⟨name, hname, rfl⟩
  · exact absurd h List.not_mem_nil

/-- Only strings bring flags. -/
theorem flags_eq (op : Operation) (d : Direction) (t : CType) (position : Position) :
    flags op d t position =
      if t.isNativeString then
        ((deletionName? op d position).map fun name => deletionFlag name d).toList
      else [] := by
  unfold flags CType.isNativeString
  cases t.shape with
  | error e => rfl
  | ok s => cases s <;> rfl

/-- An upcall releases no native string, so it has no flags. -/
@[simp]
theorem flags_upcall (op : Operation) (t : CType) (position : Position) :
    flags op .upcall t position = [] := by
  rw [List.eq_nil_iff_forall_not_mem]
  intro p hp
  obtain ⟨name, hname, -⟩ := mem_flags hp
  exact nomatch hname

/-- Flags travel in downcalls only. -/
theorem direction_of_deletionName {op : Operation} {d : Direction} {position : Position}
    {name : String} (h : deletionName? op d position = some name) : d = .downcall := by
  cases d with
  | downcall => rfl
  | upcall => exact nomatch h

/-! ## Classification -/

variable {op : Operation} {ctx : Context} {d : Direction} {t : CType} {position : Position}

/-- A value with a type on every layer and an action for every edge is settled. -/
theorem settled_typed {a : Action} {java raw : JavaType} {j : JniType} {companions : List Parameter}
    (ht : t.IsValue) (hj : j.asJava? = some raw) (ha : a.Converts)
    (hc : companions = flags op d t position) :
    Settled op d t position { LinkedValue.typed a java j t with companions := companions } where
  isValue := ht
  carried := LinkedValue.typed_carried companions hj (ha _ _) (ha _ _)
  converts := ha
  companions := hc

/-- Types other than strings bring no flags. -/
theorem flags_of_shape {s : Shape} (hs : t.shape = .ok s) (hne : s ≠ .nativeString) :
    flags op d t position = [] := by
  unfold flags
  rw [hs]
  cases s with
  | nativeString => exact absurd rfl hne
  | _ => rfl

/-- What a scalar is linked as. -/
theorem linkPrimitive_eq {v : LinkedValue} (h : linkPrimitive t = .ok v) :
    ∃ r plain, t.primitiveShape = .ok r ∧ r.jni.asJava? = some plain ∧
      v = .typed (.primitive t.sourceSpelling r.jni)
        (if r.unsigned then plain.annotated Vocabulary.unsignedAnnotation else plain) r.jni t := by
  obtain ⟨r, hr, h⟩ := exists_of_except_bind h
  cases hplain : r.jni.asJava? with
  | none =>
    rw [hplain] at h
    exact nomatch h
  | some plain =>
    rw [hplain] at h
    exact ⟨r, plain, hr, hplain, (Except.ok.inj h).symm⟩

theorem linkPrimitive_ends (hs : t.shape = .ok .primitive) :
    Ends (linkPrimitive t) (Settled op d t position) fun e => e.isRefusal ∧ ¬ t.IsValue := by
  cases hr : t.primitiveShape with
  | error e =>
    -- a scalar without a carrier is no value
    have hrefused : e.isRefusal := t.primitiveShape_ends.of_error hr
    have hval : ¬ t.IsValue := by
      rintro ⟨s, hs', -, hprim⟩
      rw [hs] at hs'
      obtain ⟨r, hr'⟩ := hprim (Except.ok.inj hs').symm
      rw [hr] at hr'
      exact nomatch hr'
    unfold linkPrimitive
    rw [hr]
    exact ⟨hrefused, hval⟩
  | ok r =>
    obtain ⟨k, hk⟩ := t.primitiveShape_ends.of_ok hr
    have hval : t.IsValue := ⟨_, hs, nofun, fun _ => ⟨r, hr⟩⟩
    have hjava : r.jni.asJava? = some (.ofScalar k) := by rw [hk]; rfl
    unfold linkPrimitive
    simp only [hr, bind, Except.bind, hjava]
    exact settled_typed hval hjava (fun e _ => e.mem_all) (flags_of_shape hs nofun).symm

theorem linkString_settled (hs : t.shape = .ok .nativeString) :
    Settled op d t position (linkString op d t position) := by
  have hval : t.IsValue := CType.isValue_of_shape hs nofun nofun
  refine settled_typed hval rfl (fun e _ => e.mem_all) ?_
  unfold flags
  rw [hs]

theorem linkPointer_settled {pointee : CType} (hs : t.shape = .ok (.pointer pointee)) :
    Settled op d t position (linkPointer t pointee) := by
  have hval : t.IsValue := CType.isValue_of_shape hs nofun nofun
  exact settled_typed hval rfl (fun e _ => e.mem_all) (flags_of_shape hs nofun).symm

theorem linkStruct_settled {record : String} (hs : t.shape = .ok (.record record)) :
    Settled op d t position (linkStruct op ctx t record) := by
  have hval : t.IsValue := CType.isValue_of_shape hs nofun nofun
  -- borrowed or copied, a struct converts on every edge
  have hconverts : ∀ javaClass : Option String, Action.Converts
      (if op.isFieldAccess then .nestedStruct record javaClass
        else .structCopy record javaClass) := by
    intro javaClass e _
    split <;> exact e.mem_all
  exact settled_typed hval rfl (hconverts _) (flags_of_shape hs nofun).symm

theorem linkEnum_settled {enumeration : String} (hs : t.shape = .ok (.enumeration enumeration)) :
    Settled op d t position (linkEnum ctx t enumeration) := by
  have hval : t.IsValue := CType.isValue_of_shape hs nofun nofun
  exact settled_typed hval rfl (fun e _ => e.mem_all) (flags_of_shape hs nofun).symm

/-- What a classified value is, given what the policy makes of a function pointer. -/
def Classifies (op : Operation) (d : Direction) (t : CType) (position : Position)
    (Pointer : CType → Classified → Prop) (c : Classified) : Prop :=
  Settled op d t position c.value ∧ c.slot = none ∧ c.callback = none ∨
    ∃ proto, t.shape = .ok (.functionPointer proto) ∧ Pointer proto c

/-- Classification settles every value that is no function pointer, and refuses the rest or leaves
them to the policy. -/
theorem classifyWith_ends {policy : PointerPolicy} {Pointer : CType → Classified → Prop}
    {Refused : CType → Prop}
    (hpolicy : ∀ proto, t.shape = .ok (.functionPointer proto) →
      Ends (policy t proto position).outcome (Pointer proto) fun e => e.isRefusal ∧ Refused proto) :
    Ends (classifyWith policy op ctx d t position).outcome (Classifies op d t position Pointer)
      fun e => e.isRefusal ∧ ¬ t.IsValue ∧
        ∀ proto, t.shape = .ok (.functionPointer proto) → Refused proto := by
  have hshape := t.shape_ends
  unfold classifyWith
  cases hs : t.shape with
  | error e =>
    rw [hs] at hshape
    refine ⟨hshape, ?_, fun proto hproto => nomatch hproto⟩
    rintro ⟨s, hs', -⟩
    rw [hs] at hs'
    exact nomatch hs'
  | ok s =>
    cases s with
    | primitive =>
      refine Ends.map ((linkPrimitive_ends hs).imp (fun v _ hv => Or.inl ⟨hv, rfl, rfl⟩) ?_)
      exact fun e _ he => ⟨he.1, he.2, fun proto hproto => nomatch hproto⟩
    | nativeString => exact Or.inl ⟨linkString_settled hs, rfl, rfl⟩
    | functionPointer proto =>
      refine (hpolicy proto hs).imp (fun c _ hc => Or.inr ⟨proto, hs, hc⟩) fun e _ he => ?_
      refine ⟨he.1, CType.not_isValue_of_functionPointer hs, fun proto' hproto => ?_⟩
      obtain rfl := Shape.functionPointer.inj (Except.ok.inj hproto)
      exact he.2
    | pointer pointee => exact Or.inl ⟨linkPointer_settled hs, rfl, rfl⟩
    | record name => exact Or.inl ⟨linkStruct_settled hs, rfl, rfl⟩
    | enumeration name => exact Or.inl ⟨linkEnum_settled hs, rfl, rfl⟩

end Linking

end JniBridge
