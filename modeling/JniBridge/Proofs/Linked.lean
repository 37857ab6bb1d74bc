import JniBridge.Proofs.Grammar
import JniBridge.Proofs.Parameter
/-
What linking makes of an operation.

`ParametersLinked` is the walk over a parameter list as a relation: one constructor for each thing that
can happen at a parameter, with the callback interface of a function pointer remembered until its
context has been read.  `linkWith_ends` says that linking, at either level, ends in a linkage so
related to its operation, or in a refusal, and in a refusal only if the operation is outside the
language of `Accepts`.  What a policy has to guarantee for that is `PolicyEnds`.
-/

namespace JniBridge

namespace Linking

/-- Linking cannot be made to fail by the receiver that comes with the parameter: only a downcall has
a handle, and the handle points at a record. -/
def Placeable (d : Direction) (p : OperationParameter) : Prop :=
  p.role = .structHandle →
    d = .downcall ∧ ∃ record, p.type.pointee?.bind CType.recordName? = some record

/-! ## The relation -/

/-- What linking makes of the parameters from some position on; first comes the callback interface
that still awaits its context. -/
inductive ParametersLinked (op : Operation) (ctx : Context) (d : Direction) :
    Option CallbackInterface → List OperationParameter →
      List (ParameterLinkage × Option CallbackInterface) → Prop
  | nil : ParametersLinked op ctx d none [] []
  | value {p ps rs v i} (role : p.role = .value) (settled : Settled op d p.type (.parameter i) v)
    (rest : ParametersLinked op ctx d none ps rs) :
    ParametersLinked op ctx d none (p :: ps) ((⟨v.placed p.name d, v.companions⟩, none) :: rs)
  | handle {p ps rs record} (role : p.role = .structHandle) (down : d = .downcall)
    (hrecord : p.type.pointee?.bind CType.recordName? = some record)
    (rest : ParametersLinked op ctx d none ps rs) :
    ParametersLinked op ctx d none (p :: ps)
      ((⟨(handleValue p.type record).placed p.name .downcall, []⟩, none) :: rs)
  | receiver {p ps rs callback} (role : p.role = .callbackObject callback)
    (rest : ParametersLinked op ctx d none ps rs) :
    ParametersLinked op ctx d none (p :: ps)
      ((⟨(linkCallbackObject p.type callback).placed p.name d, []⟩, none) :: rs)
  | pointer {p ps rs proto callback} (role : p.role = .value) (down : d = .downcall)
    (shape : p.type.shape = .ok (.functionPointer proto)) (callable : proto.IsCallable)
    (created : (CallbackInterface.create op.name p.name proto ctx).outcome = .ok callback)
    (rest : ParametersLinked op ctx d (some callback) ps rs) :
    ParametersLinked op ctx d none (p :: ps)
      ((⟨(spawned p.type callback).value.placed p.name .downcall, []⟩, some callback) :: rs)
  | context {p ps rs callback} (role : p.role = .value) (down : d = .downcall)
    (hcontext : p.type.IsContext) (rest : ParametersLinked op ctx d none ps rs) :
    ParametersLinked op ctx d (some callback) (p :: ps)
      ((⟨(contextValue callback).placed p.name .downcall, []⟩, none) :: rs)

/-- What is known of a linked return value. -/
structure ReturnSettled (op : Operation) (d : Direction) (r : ReturnValue) : Prop where
  isValue : op.returns.IsValue
  java : r.jniType.asJava? = some r.rawType
  native : r.nativeType = op.returns
  converts : r.action.Converts
  companions : r.companions = flags op d op.returns .returned

/-- The return value is settled, unless there is none. -/
def ReturnLinked (op : Operation) (d : Direction) (returnValue : Option ReturnValue) : Prop :=
  op.returns.isVoid ∧ returnValue = none ∨
    op.returns.isVoid = false ∧ ∃ r, returnValue = some r ∧ ReturnSettled op d r

/-- What linking makes of an operation. -/
structure LinkedAs (op : Operation) (ctx : Context) (d : Direction) (linked : LinkedOperation) :
    Prop where
  operation : linked.linkage.operation = op
  direction : linked.linkage.direction = d
  returns : ReturnLinked op d linked.linkage.returnValue
  params : ∃ rs, ParametersLinked op ctx d none op.params rs ∧
    linked.linkage.params = rs.map Prod.fst ∧ linked.callbacks = rs.filterMap Prod.snd

/-- The operation is in the language of what can be linked. -/
def OperationAccepted (op : Operation) (d : Direction) : Prop :=
  op.returns.IsResult ∧ Accepts d false op.params

/-- What is linked is in the language. -/
theorem ParametersLinked.accepts {op : Operation} {ctx : Context} {d : Direction}
    {awaiting : Option CallbackInterface} {ps : List OperationParameter}
    {rs : List (ParameterLinkage × Option CallbackInterface)}
    (h : ParametersLinked op ctx d awaiting ps rs) : Accepts d awaiting.isSome ps := by
  induction h with
  | nil => exact .nil
  | value role settled _ ih => exact .value role settled.isValue ih
  | handle role _ _ _ ih => exact .implicit (by rw [role]; exact nofun) ih
  | receiver role _ ih => exact .implicit (by rw [role]; exact nofun) ih
  | pointer role down shape callable _ _ ih =>
    exact .pointer down role ((CType.isCallback_iff _).2 ⟨_, shape, callable⟩) ih
  | context role _ hcontext _ ih => exact .context role hcontext ih

theorem LinkedAs.accepted {op : Operation} {ctx : Context} {d : Direction}
    {linked : LinkedOperation} (h : LinkedAs op ctx d linked) : OperationAccepted op d := by
  obtain ⟨rs, hrs, -, -⟩ := h.params
  refine ⟨?_, hrs.accepts⟩
  rcases h.returns with ⟨hvoid, -⟩ | ⟨-, r, -, hr⟩
  · exact Or.inl hvoid
  · exact Or.inr hr.isValue

/-! ## Policies -/

/-- A callback interface can be made for a function pointer that stands here. -/
def PointerAccepted (op : Operation) (d : Direction) (proto : CType) (position : Position) : Prop :=
  d = .downcall ∧ proto.IsCallable ∧
    ∃ i, position = .parameter i ∧ (op.params[i + 1]?).any isContext

/-- What a policy guarantees: it makes an interface, or refuses where none can be made. -/
def PolicyEnds (policy : PointerPolicy) (op : Operation) (ctx : Context) (d : Direction) : Prop :=
  ∀ t proto position, t.shape = .ok (.functionPointer proto) →
    (∀ i, position = .parameter i → i < op.params.length) →
    Ends (policy t proto position).outcome
      (fun c => PointerAccepted op d proto position ∧
        ∃ i p callback, position = .parameter i ∧ op.params[i]? = some p ∧
          (CallbackInterface.create op.name p.name proto ctx).outcome = .ok callback ∧
          c = spawned t callback)
      fun e => e.isRefusal ∧ ¬ PointerAccepted op d proto position

/-! ## One parameter -/

variable {policy : PointerPolicy} {op : Operation} {ctx : Context} {d : Direction} {i : Nat}
  {p : OperationParameter} {ps : List OperationParameter}

/-- A parameter that is classified and placed goes before the linkages of the others. -/
theorem linkParameters_cons {c : Classified} {l : ParameterLinkage}
    (hc : (classifyParameter policy op ctx d i p).outcome = .ok c)
    (hl : c.value.toParameterLinkage p.name d = .ok l) :
    (linkParameters policy op ctx d none i (p :: ps)).outcome =
      (linkParameters policy op ctx d (c.slot.map fun slot => ⟨p.name, slot⟩) (i + 1)
        ps).outcome.map ((l, c.callback) :: ·) := by
  rw [linkParameters, Logged.outcome_bind, hc]
  -- first the event, then placing, then the others
  show ((Logged.tell _ >>= fun _ => _ : Logged _).outcome) = _
  rw [Logged.outcome_bind]
  show (Logged.ofExcept (c.value.toParameterLinkage p.name d) >>= _ : Logged _).outcome = _
  rw [Logged.outcome_bind, Logged.outcome_ofExcept, hl]
  show (linkParameters _ _ _ _ _ _ _ >>= _ : Logged _).outcome = _
  rw [Logged.outcome_bind]
  rfl

theorem linkParameters_error {e : LinkError}
    (hc : (classifyParameter policy op ctx d i p).outcome = .error e) :
    (linkParameters policy op ctx d none i (p :: ps)).outcome = .error e := by
  rw [linkParameters, Logged.outcome_bind, hc]
  rfl

/-- A context takes what its function pointer left for it. -/
theorem linkParameters_context {pending : Pending} {l : ParameterLinkage} (hp : isContext p)
    (hl : pending.slot.toParameterLinkage p.name d = .ok l) :
    (linkParameters policy op ctx d (some pending) i (p :: ps)).outcome =
      (linkParameters policy op ctx d none (i + 1) ps).outcome.map ((l, none) :: ·) := by
  rw [linkParameters, hp]
  show ((Logged.tell _ >>= fun _ => _ : Logged _).outcome) = _
  rw [Logged.outcome_bind]
  show (Logged.ofExcept (pending.slot.toParameterLinkage p.name d) >>= _ : Logged _).outcome = _
  rw [Logged.outcome_bind, Logged.outcome_ofExcept, hl]
  show (linkParameters _ _ _ _ _ _ _ >>= _ : Logged _).outcome = _
  rw [Logged.outcome_bind]
  rfl

theorem linkParameters_no_context {pending : Pending} (hp : isContext p = false) :
    (linkParameters policy op ctx d (some pending) i (p :: ps)).outcome =
      .error (.contextNotPassed pending.owner) := by
  rw [linkParameters, hp]
  rfl

/-! ## All parameters -/

/-- The next parameter is the first of those that are left. -/
theorem getElem?_of_drop {α : Type} {xs ys : List α} {x : α} {i : Nat} (h : xs.drop i = x :: ys) :
    xs[i]? = some x ∧ xs[i + 1]? = ys.head? ∧ xs.drop (i + 1) = ys := by
  have hdrop : xs.drop (i + 1) = ys := by
    rw [← List.drop_drop, h, List.drop_one, List.tail_cons]
  refine ⟨?_, ?_, hdrop⟩
  · rw [← List.head?_drop, h, List.head?_cons]
  · rw [← List.head?_drop, hdrop]

/-- What linking the parameters from an index on ends in, in either state. -/
def ParametersEnd (policy : PointerPolicy) (op : Operation) (ctx : Context) (d : Direction) (i : Nat)
    (ps : List OperationParameter) : Prop :=
  ∀ (pending : Option Pending) (awaiting : Option CallbackInterface),
    pending.map Pending.slot = awaiting.map contextValue → (awaiting.isSome → d = .downcall) →
    Ends (linkParameters policy op ctx d pending i ps).outcome
      (ParametersLinked op ctx d awaiting ps)
      fun e => e.isRefusal ∧ ¬ Accepts d awaiting.isSome ps

theorem parametersEnd_nil : ParametersEnd policy op ctx d i [] := by
  intro pending awaiting hpending _
  cases awaiting with
  | none =>
    obtain rfl := Option.map_eq_none_iff.1 hpending
    exact .nil
  | some callback =>
    obtain ⟨waiting, rfl, -⟩ := Option.map_eq_some_iff.1 hpending
    exact ⟨rfl, nofun⟩

/-- Behind a function pointer the next parameter is its context or nothing is. -/
theorem context_ends {waiting : Pending} {callback : CallbackInterface}
    (hslot : waiting.slot = contextValue callback) (down : d = .downcall)
    (hrest : ParametersEnd policy op ctx d (i + 1) ps) :
    Ends (linkParameters policy op ctx d (some waiting) i (p :: ps)).outcome
      (ParametersLinked op ctx d (some callback) (p :: ps))
      fun e => e.isRefusal ∧ ¬ Accepts d true (p :: ps) := by
  subst down
  cases hcontext : isContext p with
  | false =>
    rw [linkParameters_no_context hcontext]
    refine ⟨rfl, fun haccepts => ?_⟩
    obtain ⟨role, htype, -⟩ := accepts_context_iff.1 haccepts
    rw [(isContext_iff p).2 ⟨role, htype⟩] at hcontext
    exact nomatch hcontext
  | true =>
    obtain ⟨role, htype⟩ := (isContext_iff p).1 hcontext
    have hl : waiting.slot.toParameterLinkage p.name .downcall =
        .ok ⟨(contextValue callback).placed p.name .downcall, []⟩ := by
      rw [hslot]
      exact (contextValue_carried callback).toParameterLinkage p.name
    rw [linkParameters_context hcontext hl]
    refine Ends.map ((hrest none none rfl nofun).imp (fun rs _ hrs => ?_) fun e _ he => ?_)
    · exact .context role rfl htype hrs
    · exact ⟨he.1, fun haccepts => he.2 (accepts_context_iff.1 haccepts).2.2⟩

/-- A receiver that comes with the operation is always placed. -/
theorem implicit_ends (hplace : Placeable d p) (role : p.role ≠ .value)
    (hrest : ParametersEnd policy op ctx d (i + 1) ps) :
    Ends (linkParameters policy op ctx d none i (p :: ps)).outcome
      (ParametersLinked op ctx d none (p :: ps))
      fun e => e.isRefusal ∧ ¬ Accepts d false (p :: ps) := by
  rw [accepts_implicit_iff role]
  cases hrole : p.role with
  | value => exact absurd hrole role
  | structHandle =>
    obtain ⟨rfl, record, hrecord⟩ := hplace hrole
    have hc : (classifyParameter policy op ctx .downcall i p).outcome =
        .ok { value := handleValue p.type record } := by
      unfold classifyParameter
      rw [hrole]
      show (linkHandle p.type).map _ = _
      rw [linkHandle_eq hrecord]
      rfl
    rw [linkParameters_cons hc (handleValue_toParameterLinkage p.type record p.name)]
    exact Ends.map ((hrest none none rfl nofun).mono fun rs _ hrs => .handle hrole rfl hrecord hrs)
  | callbackObject callback =>
    have hc : (classifyParameter policy op ctx d i p).outcome =
        .ok { value := linkCallbackObject p.type callback } := by
      unfold classifyParameter
      rw [hrole]
      rfl
    rw [linkParameters_cons hc (linkCallbackObject_toParameterLinkage p.type callback p.name d)]
    exact Ends.map ((hrest none none rfl nofun).mono fun rs _ hrs => .receiver hrole hrs)

/-- An argument that is no value, and no pointer that an interface can be made for, is read in no way:
the policy looks ahead as far as the language does. -/
theorem not_accepts_of_classify (role : p.role = .value) (hval : ¬ p.type.IsValue)
    (hpointer : ∀ proto, p.type.shape = .ok (.functionPointer proto) →
      ¬ PointerAccepted op d proto (.parameter i)) (hnext : op.params[i + 1]? = ps.head?) :
    ¬ Accepts d false (p :: ps) := by
  intro haccepts
  by_cases hs : ∃ proto, p.type.shape = .ok (.functionPointer proto)
  · obtain ⟨proto, hs⟩ := hs
    obtain ⟨down, callable, hafter⟩ := (accepts_pointer_iff role hs).1 haccepts
    have hcontext := hafter.head_isContext
    rw [← hnext] at hcontext
    exact hpointer proto hs ⟨down, callable, i, rfl, hcontext⟩
  · exact not_accepts_of_refused role hval (fun proto h => hs ⟨proto, h⟩) haccepts

/-- An ordinary argument is placed, or becomes a closure that awaits its context, or is refused. -/
theorem argument_ends (hpolicy : PolicyEnds policy op ctx d) (role : p.role = .value)
    (hp : op.params[i]? = some p) (hnext : op.params[i + 1]? = ps.head?)
    (hrest : ParametersEnd policy op ctx d (i + 1) ps) :
    Ends (linkParameters policy op ctx d none i (p :: ps)).outcome
      (ParametersLinked op ctx d none (p :: ps))
      fun e => e.isRefusal ∧ ¬ Accepts d false (p :: ps) := by
  have hlen : i < op.params.length := (List.getElem?_eq_some_iff.1 hp).1
  have hclass : classifyParameter policy op ctx d i p =
      classifyWith policy op ctx d p.type (.parameter i) := by
    unfold classifyParameter
    rw [role]
  have hends : Ends (classifyWith policy op ctx d p.type (.parameter i)).outcome _ _ :=
    classifyWith_ends fun proto hs =>
      hpolicy p.type proto (.parameter i) hs fun j hj => Position.parameter.inj hj ▸ hlen
  rw [← hclass] at hends
  cases hc : (classifyParameter policy op ctx d i p).outcome with
  | error e =>
    rw [linkParameters_error hc]
    obtain ⟨hrefusal, hval, hpointer⟩ := hends.of_error hc
    exact ⟨hrefusal, not_accepts_of_classify role hval hpointer hnext⟩
  | ok c =>
    rcases hends.of_ok hc with ⟨hsettled, hslot, hcallback⟩ | ⟨proto, hs, hspawned⟩
    · -- a value leaves nothing for the next parameter
      rw [linkParameters_cons hc (hsettled.carried.toParameterLinkage p.name), hslot, hcallback]
      refine Ends.map ((hrest none none rfl nofun).imp (fun rs _ hrs => ?_) fun e _ he => ?_)
      · exact .value role hsettled hrs
      · rw [accepts_value_iff role hsettled.isValue]
        exact he
    · -- a function pointer leaves the object of its interface
      obtain ⟨⟨rfl, callable, -⟩, j, q, callback, hj, hq, hcreated, rfl⟩ := hspawned
      obtain rfl := Position.parameter.inj hj
      obtain rfl := Option.some.inj (hp.symm.trans hq)
      rw [linkParameters_cons hc (spawned_toParameterLinkage p.type callback p.name)]
      refine Ends.map ((hrest _ (some callback) rfl fun _ => rfl).imp (fun rs _ hrs => ?_) ?_)
      · exact .pointer role rfl hs callable hcreated hrs
      · intro e _ he
        rw [accepts_pointer_iff role hs]
        exact ⟨he.1, fun h => he.2 h.2.2⟩

/-- Linking a parameter list ends in a linkage of it, or refuses a list outside the language. -/
theorem linkParameters_ends (hpolicy : PolicyEnds policy op ctx d) (ps : List OperationParameter)
    (i : Nat) (hdrop : op.params.drop i = ps) (hplace : ∀ p ∈ ps, Placeable d p) :
    ParametersEnd policy op ctx d i ps := by
  -- on the parameters that are left, for every pending pointer at once
  induction ps generalizing i with
  | nil => exact parametersEnd_nil
  | cons p ps ih =>
    obtain ⟨hp, hnext, hrest⟩ := getElem?_of_drop hdrop
    have hend := ih (i + 1) hrest fun q hq => hplace q (List.mem_cons_of_mem _ hq)
    intro pending awaiting hpending hdown
    cases awaiting with
    | some callback =>
      obtain ⟨waiting, rfl, hslot⟩ := Option.map_eq_some_iff.1 hpending
      exact context_ends hslot (hdown rfl) hend
    | none =>
      obtain rfl := Option.map_eq_none_iff.1 hpending
      by_cases role : p.role = .value
      · exact argument_ends hpolicy role hp hnext hend
      · exact implicit_ends (hplace p List.mem_cons_self) role hend

/-! ## The return value -/

/-- A settled value has all that a return value needs. -/
theorem Settled.toReturnValue {v : LinkedValue} (h : Settled op d op.returns .returned v) :
    ∃ r, v.toReturnValue = .ok r ∧ ReturnSettled op d r := by
  obtain ⟨j, raw, hj, hraw⟩ := h.carried.jni
  obtain ⟨java, hjava⟩ := Option.isSome_iff_exists.1 h.carried.java
  refine ⟨⟨java, raw, j, op.returns, v.action, v.companions⟩, ?_, ?_⟩
  · unfold LinkedValue.toReturnValue
    simp only [hjava, hj, h.carried.native, h.carried.rawType, Option.none_or, hraw]
  · exact
      { isValue := h.isValue, java := hraw, native := rfl, converts := h.converts
        companions := h.companions }

theorem linkReturn_ends (hpolicy : PolicyEnds policy op ctx d) :
    Ends (linkReturn policy op ctx d).outcome (ReturnLinked op d)
      fun e => e.isRefusal ∧ ¬ op.returns.IsResult := by
  unfold linkReturn
  by_cases hvoid : op.returns.isVoid
  · rw [if_pos hvoid]
    exact Or.inl ⟨hvoid, rfl⟩
  · rw [if_neg hvoid]
    have hends : Ends (classifyWith policy op ctx d op.returns .returned).outcome _ _ :=
      classifyWith_ends fun proto hs => hpolicy op.returns proto .returned hs nofun
    refine (hends.failing fun e _ he => ?_).logged fun c _ hc => ?_
    · refine ⟨he.1, ?_⟩
      rintro (h | h)
      · exact hvoid h
      · exact he.2.1 h
    · rcases hc with ⟨hsettled, -, -⟩ | ⟨proto, -, ⟨-, -, i, hi, -⟩, -⟩
      · obtain ⟨r, hr, hreturn⟩ := hsettled.toReturnValue
        refine Ends.logged (x := Logged.ofExcept c.value.toReturnValue)
          (Q := ReturnSettled op d) ?_ ?_
        · rw [Logged.outcome_ofExcept, hr]
          exact hreturn
        · exact fun r' _ hr' => Or.inr ⟨Bool.not_eq_true _ ▸ hvoid, r', rfl, hr'⟩
      · exact nomatch hi

/-! ## Operations -/

/-- Linking ends in a linkage of the operation, or refuses an operation outside the language. -/
theorem linkWith_ends (hpolicy : PolicyEnds policy op ctx d)
    (hplace : ∀ p ∈ op.params, Placeable d p) :
    Ends (linkWith policy op ctx d).outcome (LinkedAs op ctx d)
      fun e => e.isRefusal ∧ ¬ OperationAccepted op d := by
  unfold linkWith
  refine ((linkReturn_ends hpolicy).failing ?_).logged fun r _ hr => ?_
  · exact fun e _ he => ⟨he.1, fun h => he.2 h.1⟩
  · have hparams := linkParameters_ends hpolicy op.params 0 List.drop_zero hplace none none rfl nofun
    refine (hparams.failing ?_).logged fun rs _ hrs => ?_
    · exact fun e _ he => ⟨he.1, fun h => he.2 h.2⟩
    · exact ⟨rfl, rfl, hr, rs, hrs, rfl, rfl⟩

/-- No callback interface is ever made inside a callback. -/
theorem refusePointer_ends (op : Operation) (ctx : Context) :
    PolicyEnds refusePointer op ctx .upcall := by
  intro t proto position _ _
  cases position with
  | returned => exact ⟨rfl, fun h => nomatch h.1⟩
  | parameter i => exact ⟨rfl, fun h => nomatch h.1⟩

end Linking

end JniBridge
