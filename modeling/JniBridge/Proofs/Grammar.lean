import JniBridge.Proofs.Value
/-
Which parameter lists can be linked.

A parameter is an ordinary value, or a function pointer with its context right after it.  As a language
over types that is `(V | F C)*` (`CType.Arguments`).  Linking walks the list with one bit of memory,
whether the parameter before was a function pointer, and `Linking.Accepts` is the language in that
form, with the implicit receivers added.  For ordinary arguments the two agree
(`accepts_arguments_iff`).

Nothing here mentions a linkage: types are looked at through their typedefs and nothing else.
-/

namespace JniBridge

namespace CType

/-! ## Contexts -/

/-- A pointer to `void`, where typedefs are looked through and the pointee bears no qualifier. -/
def IsContext (t : CType) : Prop :=
  ∃ pointee s p p', t.desugared = .pointer pointee s p ∧ pointee.desugared = .scalar .void "void" p'

theorem isBareVoidPointer_iff (t : CType) : t.isBareVoidPointer ↔ t.IsContext := by
  unfold isBareVoidPointer isVoidPointer pointee? isVoid IsContext
  constructor
  · intro h
    split at h
    · next pointee s p hp =>
      simp only [Option.any_some, Bool.and_eq_true, beq_iff_eq] at h
      obtain ⟨hkind, hspelling⟩ := h
      -- nothing but a scalar has the kind of `void`
      cases hd : pointee.desugared with
      | scalar k s' p' =>
        rw [hd] at hkind hspelling
        obtain rfl : k = .void := CKind.scalar.inj hkind
        obtain rfl : s' = "void" := hspelling
        exact ⟨pointee, s, p, p', hp, hd⟩
      | array e n s' p' =>
        rw [hd] at hkind
        cases n <;> exact nomatch hkind
      | _ =>
        rw [hd] at hkind
        exact nomatch hkind
    · exact absurd h (by decide)
  · rintro ⟨pointee, s, p, p', hp, hd⟩
    rw [hp]
    simp only [Option.any_some, hd, kind, spelling, beq_self_eq_true, Bool.and_self]

/-! ## Function pointers -/

/-- Values of the type can be returned: there are none, or they cross on their own. -/
def IsResult (t : CType) : Prop := t.isVoid ∨ t.IsValue

/-- A prototype that a callback interface can be made for: its last parameter is a context, the
others are ordinary values, and so is what it returns, if anything. -/
def IsCallable (proto : CType) : Prop :=
  ∃ returns types context, proto.prototype? = some (returns, types) ∧
    types.getLast? = some context ∧ context.IsContext ∧ (∀ t ∈ types.dropLast, t.IsValue) ∧
    returns.IsResult

/-- A pointer, through typedefs, to a function prototype that a callback interface can be made for. -/
def IsCallback (t : CType) : Prop :=
  ∃ pointee s p, t.desugared = .pointer pointee s p ∧ pointee.desugared.kind = .prototype ∧
    pointee.IsCallable

@[simp]
theorem desugared_desugared (t : CType) : t.desugared.desugared = t.desugared := by
  fun_induction desugared t with
  | case1 name defined p ih => exact ih
  | case2 t h =>
    cases t with
    | typedef name defined p => exact absurd rfl (h name defined p)
    | _ => rfl

theorem isCallable_desugared (t : CType) : t.desugared.IsCallable ↔ t.IsCallable := by
  unfold IsCallable prototype?
  rw [desugared_desugared]

/-- The shape of a function pointer tells the prototype. -/
theorem shape_eq_functionPointer_iff {t proto : CType} :
    t.shape = .ok (.functionPointer proto) ↔
      ∃ pointee s p, t.desugared = .pointer pointee s p ∧ pointee.desugared.kind = .prototype ∧
        pointee.desugared = proto := by
  constructor
  · intro h
    unfold shape at h
    split at h
    · exact nomatch h
    · exact nomatch h
    · next pointee s p hp =>
      refine ⟨pointee, s, p, hp, ?_⟩
      have hshape : pointerShape pointee = .functionPointer proto := Except.ok.inj h
      unfold pointerShape at hshape
      split at hshape
      · exact nomatch hshape
      · exact nomatch hshape
      · next hproto =>
        obtain rfl := Shape.functionPointer.inj hshape
        exact ⟨by rw [hproto]; rfl, hproto⟩
      · exact nomatch hshape
    · exact nomatch h
    · exact nomatch h
    · exact nomatch h
  · rintro ⟨pointee, s, p, hp, hkind, rfl⟩
    -- what a pointer points at decides before anything else is looked at
    unfold shape
    rw [hp]
    show Except.ok (pointerShape pointee) = _
    unfold pointerShape
    cases hd : pointee.desugared with
    | prototype returns types s' p' => rfl
    | array e n s' p' =>
      rw [hd] at hkind
      cases n <;> exact nomatch hkind
    | _ =>
      rw [hd] at hkind
      exact nomatch hkind

theorem isCallback_iff (t : CType) :
    t.IsCallback ↔ ∃ proto, t.shape = .ok (.functionPointer proto) ∧ proto.IsCallable := by
  constructor
  · rintro ⟨pointee, s, p, hp, hkind, hcall⟩
    refine ⟨pointee.desugared, ?_, (isCallable_desugared pointee).2 hcall⟩
    exact shape_eq_functionPointer_iff.2 ⟨pointee, s, p, hp, hkind, rfl⟩
  · rintro ⟨proto, hs, hcall⟩
    obtain ⟨pointee, s, p, hp, hkind, rfl⟩ := shape_eq_functionPointer_iff.1 hs
    exact ⟨pointee, s, p, hp, hkind, (isCallable_desugared pointee).1 hcall⟩

/-- No type is read in two ways. -/
theorem not_isValue_of_isCallback {t : CType} (h : t.IsCallback) : ¬ t.IsValue := by
  obtain ⟨proto, hs, -⟩ := (isCallback_iff t).1 h
  exact not_isValue_of_functionPointer hs

/-! ## The language -/

/-- The lists of argument types that can be linked: `(V | F C)*`. -/
inductive Arguments : List CType → Prop
  | nil : Arguments []
  | value {t : CType} {ts : List CType} (ht : t.IsValue) (rest : Arguments ts) : Arguments (t :: ts)
  | callback {t context : CType} {ts : List CType} (ht : t.IsCallback) (hc : context.IsContext)
    (rest : Arguments ts) : Arguments (t :: context :: ts)

end CType

namespace Linking

/-! ## The language as linking reads it -/

/-- The parameters that can follow; the bit says that a function pointer awaits its context. -/
inductive Accepts (d : Direction) : Bool → List OperationParameter → Prop
  | nil : Accepts d false []
  | value {p : OperationParameter} {ps : List OperationParameter} (role : p.role = .value)
    (hp : p.type.IsValue) (rest : Accepts d false ps) : Accepts d false (p :: ps)
  | implicit {p : OperationParameter} {ps : List OperationParameter} (role : p.role ≠ .value)
    (rest : Accepts d false ps) : Accepts d false (p :: ps)
  | pointer {p : OperationParameter} {ps : List OperationParameter} (down : d = .downcall)
    (role : p.role = .value) (hp : p.type.IsCallback) (rest : Accepts d true ps) :
    Accepts d false (p :: ps)
  | context {p : OperationParameter} {ps : List OperationParameter} (role : p.role = .value)
    (hp : p.type.IsContext) (rest : Accepts d false ps) : Accepts d true (p :: ps)

variable {d : Direction} {p : OperationParameter} {ps : List OperationParameter}

theorem isContext_iff (p : OperationParameter) :
    isContext p ↔ p.role = .value ∧ p.type.IsContext := by
  unfold isContext
  rw [Bool.and_eq_true, beq_iff_eq, CType.isBareVoidPointer_iff]

theorem accepts_context_iff :
    Accepts d true (p :: ps) ↔ p.role = .value ∧ p.type.IsContext ∧ Accepts d false ps := by
  constructor
  · rintro (_ | _ | _ | _ | ⟨role, hp, rest⟩)
    exact ⟨role, hp, rest⟩
  · rintro ⟨role, hp, rest⟩
    exact .context role hp rest

/-- Behind a function pointer a context comes first. -/
theorem Accepts.head_isContext (h : Accepts d true ps) : ps.head?.any isContext := by
  cases h with
  | context role hp _ => exact (isContext_iff _).2 ⟨role, hp⟩

/-- A value takes no part in the protocol of function pointers. -/
theorem accepts_value_iff (role : p.role = .value) (hp : p.type.IsValue) :
    Accepts d false (p :: ps) ↔ Accepts d false ps := by
  constructor
  · rintro (_ | ⟨_, _, rest⟩ | ⟨hrole, _⟩ | ⟨_, _, hcall, _⟩)
    · exact rest
    · exact absurd role hrole
    · exact absurd hp (CType.not_isValue_of_isCallback hcall)
  · exact .value role hp

theorem accepts_implicit_iff (role : p.role ≠ .value) :
    Accepts d false (p :: ps) ↔ Accepts d false ps := by
  constructor
  · rintro (_ | ⟨hrole, _, _⟩ | ⟨_, rest⟩ | ⟨_, hrole, _, _⟩)
    · exact absurd hrole role
    · exact rest
    · exact absurd hrole role
  · exact .implicit role

theorem accepts_pointer_iff {proto : CType} (role : p.role = .value)
    (hs : p.type.shape = .ok (.functionPointer proto)) :
    Accepts d false (p :: ps) ↔ d = .downcall ∧ proto.IsCallable ∧ Accepts d true ps := by
  constructor
  · rintro (_ | ⟨_, hval, _⟩ | ⟨hrole, _⟩ | ⟨down, _, hcall, rest⟩)
    · exact absurd hval (CType.not_isValue_of_functionPointer hs)
    · exact absurd role hrole
    · obtain ⟨proto', hs', hproto⟩ := (CType.isCallback_iff _).1 hcall
      rw [hs] at hs'
      obtain rfl := Shape.functionPointer.inj (Except.ok.inj hs')
      exact ⟨down, hproto, rest⟩
  · rintro ⟨down, hproto, rest⟩
    exact .pointer down role ((CType.isCallback_iff _).2 ⟨proto, hs, hproto⟩) rest

/-- A value that is neither ordinary nor a function pointer is read in no way. -/
theorem not_accepts_of_refused (role : p.role = .value) (hval : ¬ p.type.IsValue)
    (hpointer : ∀ proto, p.type.shape ≠ .ok (.functionPointer proto)) :
    ¬ Accepts d false (p :: ps) := by
  rintro (_ | ⟨_, hp, _⟩ | ⟨hrole, _⟩ | ⟨_, _, hcall, _⟩)
  · exact hval hp
  · exact hrole role
  · obtain ⟨proto, hs, -⟩ := (CType.isCallback_iff _).1 hcall
    exact hpointer proto hs

/-- What linking reads is in the language; behind a function pointer, the context comes first. -/
theorem arguments_of_accepts {awaiting : Bool} (h : Accepts d awaiting ps)
    (hrole : ∀ p ∈ ps, p.role = .value) :
    match awaiting with
    | false => CType.Arguments (ps.map OperationParameter.type)
    | true => ∃ context ts, ps.map OperationParameter.type = context :: ts ∧ context.IsContext ∧
        CType.Arguments ts := by
  -- on the reading, in both states at once
  induction h with
  | nil => exact .nil
  | value _ hp _ ih => exact .value hp (ih fun q hq => hrole q (List.mem_cons_of_mem _ hq))
  | implicit role _ _ => exact absurd (hrole _ List.mem_cons_self) role
  | pointer _ _ hp _ ih =>
    obtain ⟨context, ts, hts, hc, rest⟩ := ih fun q hq => hrole q (List.mem_cons_of_mem _ hq)
    rw [List.map_cons, hts]
    exact .callback hp hc rest
  | context _ hp _ ih =>
    exact ⟨_, _, rfl, hp, ih fun q hq => hrole q (List.mem_cons_of_mem _ hq)⟩

/-- What is in the language is read to its end in a downcall. -/
theorem accepts_of_arguments {ts : List CType} (h : CType.Arguments ts)
    (hts : ps.map OperationParameter.type = ts) (hrole : ∀ p ∈ ps, p.role = .value) :
    Accepts .downcall false ps := by
  induction h generalizing ps with
  | nil =>
    obtain rfl := List.map_eq_nil_iff.1 hts
    exact .nil
  | value ht _ ih =>
    obtain ⟨p, ps, rfl, rfl, hrest⟩ := List.map_eq_cons_iff.1 hts
    exact .value (hrole p List.mem_cons_self) ht
      (ih hrest fun q hq => hrole q (List.mem_cons_of_mem _ hq))
  | callback ht hc _ ih =>
    obtain ⟨p, ps, rfl, rfl, hrest⟩ := List.map_eq_cons_iff.1 hts
    obtain ⟨c, ps, rfl, rfl, htail⟩ := List.map_eq_cons_iff.1 hrest
    have hroles : ∀ q ∈ ps, q.role = .value := fun q hq =>
      hrole q (List.mem_cons_of_mem _ (List.mem_cons_of_mem _ hq))
    exact .pointer rfl (hrole p List.mem_cons_self) ht
      (.context (hrole c (List.mem_cons_of_mem _ List.mem_cons_self)) hc (ih htail hroles))

/-- For ordinary arguments, reading with one bit of memory is being in the language. -/
theorem accepts_arguments_iff (hrole : ∀ p ∈ ps, p.role = .value) :
    Accepts .downcall false ps ↔ CType.Arguments (ps.map OperationParameter.type) :=
  ⟨fun h => arguments_of_accepts h hrole, fun h => accepts_of_arguments h rfl hrole⟩

end Linking

end JniBridge
