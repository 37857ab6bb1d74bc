import JniBridge.Proofs.Body
/-
Linking the function pointers of an operation.

A callback is an operation of its own, linked in the other direction: the values of its prototype, and
last the object it was registered with (`Operation.dispatch`).  Every one of its parameters is linked by
itself (`Linking.Upcalled`), so the unit around it is always written (`UpcallUnit.ofLinkage_ok`), and a
callback interface fails only where its prototype is none that can be called
(`CallbackInterface.create_ends`).  With that the two levels close: `Operation.link_ends` says of
linking in either direction what `linkWith_ends` says of each level.
-/

namespace JniBridge

open Linking

/-! ## The operation -/

/-- The values that a callback takes, under names of their own. -/
def Operation.proxies (values : List CType) : List OperationParameter :=
  values.mapIdx fun i t => ⟨Vocabulary.proxyParameter i, t, .value⟩

/-- The operation of a callback whose prototype takes the values and then the context. -/
def Operation.dispatch (name : String) (returns : CType) (values : List CType) (context : CType)
    (callback : JavaType) : Operation where
  kind := .runCallback
  name := name
  returns := returns
  params :=
    Operation.proxies values ++ [⟨Vocabulary.callbackObject, context, .callbackObject callback⟩]

theorem Operation.role_of_mem_proxies {values : List CType} :
    ∀ p ∈ Operation.proxies values, p.role = .value := by
  intro p hp
  obtain ⟨i, _, rfl⟩ := List.mem_mapIdx.1 hp
  rfl

theorem Operation.map_type_proxies (values : List CType) :
    (Operation.proxies values).map OperationParameter.type = values := by
  refine List.ext_getElem (by simp [Operation.proxies]) fun i _ _ => ?_
  simp [Operation.proxies]

/-- Only a prototype without parameters has no operation. -/
theorem Operation.runCallback_ends (name : String) (proto : CType) (callback : JavaType) :
    Ends (Operation.runCallback name proto callback)
      (fun op => ∃ returns values context,
        proto.prototype? = some (returns, values ++ [context]) ∧
          op = Operation.dispatch name returns values context callback)
      fun e => e.isRefusal ∧ ¬ proto.IsCallable := by
  unfold Operation.runCallback CType.IsCallable
  cases hproto : proto.prototype? with
  | none =>
    refine ⟨rfl, ?_⟩
    rintro ⟨returns, types, context, h, -⟩
    exact nomatch h
  | some signature =>
    obtain ⟨returns, types⟩ := signature
    cases hlast : types.getLast? with
    | none =>
      simp only [hlast]
      refine ⟨rfl, ?_⟩
      rintro ⟨returns', types', context, h, hlast', -⟩
      obtain ⟨rfl, rfl⟩ := Prod.mk.inj (Option.some.inj h)
      exact nomatch hlast.symm.trans hlast'
    | some context =>
      simp only [hlast]
      refine ⟨returns, types.dropLast, context, ?_, rfl⟩
      rw [List.dropLast_append_getLast? context hlast]

theorem Operation.map_type_dispatch (name : String) (returns : CType) (values : List CType)
    (context : CType) (callback : JavaType) :
    (Operation.dispatch name returns values context callback).params.map OperationParameter.type =
      values ++ [context] := by
  rw [Operation.dispatch, List.map_append, Operation.map_type_proxies]
  rfl

namespace Linking

/-- A callback whose receiver comes last is accepted if its other parameters are ordinary values. -/
theorem accepts_append_singleton_iff {ps : List OperationParameter} {receiver : OperationParameter}
    (hps : ∀ p ∈ ps, p.role = .value) (hreceiver : receiver.role ≠ .value) :
    Accepts .upcall false (ps ++ [receiver]) ↔ ∀ p ∈ ps, p.type.IsValue := by
  induction ps with
  | nil => exact ⟨fun _ => List.forall_mem_nil _, fun _ => .implicit hreceiver .nil⟩
  | cons p ps ih =>
    have hrole : p.role = .value := hps p List.mem_cons_self
    have htail := ih fun q hq => hps q (List.mem_cons_of_mem _ hq)
    rw [List.cons_append]
    constructor
    · rintro (_ | ⟨_, hp, rest⟩ | ⟨himplicit, _⟩ | ⟨down, _⟩)
      · exact List.forall_mem_cons.2 ⟨hp, htail.1 rest⟩
      · exact absurd hrole himplicit
      · exact nomatch down
    · intro h
      obtain ⟨hp, hrest⟩ := List.forall_mem_cons.1 h
      exact .value hrole hp (htail.2 hrest)

/-- Which callbacks are in the language. -/
theorem dispatch_accepted_iff {name : String} {returns : CType} {values : List CType}
    {context : CType} {callback : JavaType} :
    OperationAccepted (.dispatch name returns values context callback) .upcall ↔
      returns.IsResult ∧ ∀ t ∈ values, t.IsValue := by
  have hreceiver : Role.callbackObject callback ≠ .value := nofun
  have hvalues : (∀ p ∈ Operation.proxies values, p.type.IsValue) ↔ ∀ t ∈ values, t.IsValue := by
    rw [← List.forall_mem_map, Operation.map_type_proxies]
  refine and_congr_right fun _ => ?_
  exact (accepts_append_singleton_iff Operation.role_of_mem_proxies hreceiver).trans hvalues

/-- A callback has no handle, so nothing stands in the way of placing its parameters. -/
theorem dispatch_placeable {name : String} {returns : CType} {values : List CType}
    {context : CType} {callback : JavaType} {d : Direction} :
    ∀ p ∈ (Operation.dispatch name returns values context callback).params, Placeable d p := by
  intro p hp role
  rcases List.mem_append.1 hp with hp | hp
  · exact nomatch (Operation.role_of_mem_proxies p hp).symm.trans role
  · obtain rfl := List.mem_singleton.1 hp
    exact nomatch role

/-! ## Its linkage -/

/-- How a parameter of a callback is linked: by itself, as an ordinary value or as the receiver. -/
inductive Upcalled : OperationParameter → ParameterLinkage → Prop
  | value {p q} (role : p.role = .value) (plain : q.Plain p.name p.type .upcall) :
    Upcalled p ⟨q, []⟩
  | receiver {p callback} (role : p.role = .callbackObject callback) :
    Upcalled p ⟨(linkCallbackObject p.type callback).placed p.name .upcall, []⟩

variable {op : Operation} {ctx : Context} {linked : LinkedOperation}

theorem ParametersLinked.upcalled {awaiting : Option CallbackInterface}
    {ps : List OperationParameter} {rs : List (ParameterLinkage × Option CallbackInterface)}
    (h : ParametersLinked op ctx .upcall awaiting ps rs) :
    List.Forall₂ (fun p r => Upcalled p r.1) ps rs := by
  induction h with
  | nil => exact .nil
  | value role settled _ ih =>
    refine .cons ?_ ih
    rw [settled.companions, flags_upcall]
    exact .value role (settled.carried.placed _)
  | receiver role _ ih => exact .cons (.receiver role) ih
  -- the rest belongs to downcalls
  | handle _ down _ _ _ | pointer _ down _ _ _ _ _ | context _ down _ _ _ => exact nomatch down

theorem LinkedAs.upcalled (h : LinkedAs op ctx .upcall linked) :
    List.Forall₂ Upcalled op.params linked.linkage.params := by
  obtain ⟨rs, hrs, hmap, -⟩ := h.params
  rw [hmap]
  exact List.forall₂_map_right_iff.2 hrs.upcalled

/-- A callback's parameters bring no companions, and neither does its result. -/
theorem LinkedAs.upcall_parameters (h : LinkedAs op ctx .upcall linked) :
    linked.linkage.allParameters = linked.linkage.params.map ParameterLinkage.parameter := by
  have hreturn : (linked.linkage.returnValue.map ReturnValue.companions).getD [] = [] := by
    refine List.eq_nil_iff_forall_not_mem.2 fun q hq => ?_
    have hflag := h.mem_companions hq
    rw [flags_upcall] at hflag
    exact absurd hflag List.not_mem_nil
  have hparams : ∀ {ps ls}, List.Forall₂ Upcalled ps ls →
      ls.flatMap ParameterLinkage.generated = ls.map ParameterLinkage.parameter := by
    intro ps ls hls
    induction hls with
    | nil => rfl
    | cons hl _ ih =>
      rw [List.flatMap_cons, ih]
      cases hl <;> rfl
  rw [Linkage.allParameters, hreturn, List.append_nil, hparams h.upcalled]

section dispatch

variable {name : String} {returns : CType} {values : List CType} {context : CType}
  {callback : JavaType}

/-- The parameters of a linked callback: its values, each with a type on every layer, and then the
receiver. -/
theorem LinkedAs.dispatch_parameters
    (h : LinkedAs (.dispatch name returns values context callback) ctx .upcall linked) :
    ∃ qs, linked.linkage.allParameters =
        qs ++ [(linkCallbackObject context callback).placed Vocabulary.callbackObject .upcall] ∧
      List.Forall₂ (fun (p : OperationParameter) (q : Parameter) => q.Plain p.name p.type .upcall)
        (Operation.proxies values) qs := by
  obtain ⟨ls, ls', hsplit, hvalues, hlast⟩ := exists_append_of_forall₂ h.upcalled
  obtain ⟨l, _, hl, hnil, rfl⟩ := List.forall₂_cons_left_iff.1 hlast
  obtain rfl := List.forall₂_nil_left_iff.1 hnil
  refine ⟨ls.map ParameterLinkage.parameter, ?_, ?_⟩
  · rw [h.upcall_parameters, hsplit, List.map_append]
    cases hl with
    | value role _ => exact nomatch role
    | receiver role =>
      obtain rfl := Role.callbackObject.inj role
      rfl
  · refine List.forall₂_map_right_iff.2 ?_
    have hroles := (List.forall₂_and_left _ _).2 ⟨Operation.role_of_mem_proxies, hvalues⟩
    refine hroles.imp ?_
    rintro p l ⟨role, hl⟩
    cases hl with
    | value _ plain => exact plain
    | receiver role' => exact nomatch role.symm.trans role'

/-- The receiver is found again among the parameters. -/
theorem LinkedAs.dispatch_receiver
    (h : LinkedAs (.dispatch name returns values context callback) ctx .upcall linked) :
    linked.linkage.allParameters.find? Parameter.isReceiver =
      some ((linkCallbackObject context callback).placed Vocabulary.callbackObject .upcall) := by
  obtain ⟨qs, hall, hqs⟩ := h.dispatch_parameters
  have hnone : qs.find? Parameter.isReceiver = none := by
    refine List.find?_eq_none.2 fun q hq => ?_
    have hnot := forall_mem_of_forall₂ hqs (fun _ _ hplain => hplain.notReceiver) q hq
    rw [hnot]
    exact Bool.false_ne_true
  rw [hall, List.find?_append, hnone]
  rfl

/-- The callback is run by calling the dispatcher on the variables that hold its parameters. -/
theorem LinkedAs.dispatch_run
    (h : LinkedAs (.dispatch name returns values context callback) ctx .upcall linked) :
    linked.linkage.run = .ok (Linkage.callbackText
      ((linked.linkage.returnValue.map ReturnValue.jniType).getD .void)
      ((Operation.dispatch name returns values context callback).params.map
        OperationParameter.converted)) := by
  rw [← h.arguments, Linkage.run, h.operation]
  rfl

end dispatch

/-- Linking a callback refuses exactly where one of its values is none that can cross. -/
theorem linkDispatch_ends (ctx : Context) (name : String) (returns : CType) (values : List CType)
    (context : CType) (callback : JavaType) :
    Ends (linkWith refusePointer (.dispatch name returns values context callback) ctx
        .upcall).outcome
      (LinkedAs (.dispatch name returns values context callback) ctx .upcall)
      fun e => e.isRefusal ∧ ¬ (returns.IsResult ∧ ∀ t ∈ values, t.IsValue) := by
  refine (linkWith_ends (refusePointer_ends _ ctx) dispatch_placeable).failing ?_
  intro e _ he
  rwa [dispatch_accepted_iff] at he

end Linking

/-! ## The unit around it -/

namespace UpcallUnit

/-- The unit is the code around a linked callback: its signatures are read off the linkage, and its
bodies do what they should. -/
structure Around (u : UpcallUnit) (l : Linkage) (receiver : Parameter) (interface : JavaType)
    (names : MemberNames) : Prop where
  linkage : u.linkage = l
  callbackType : u.callbackType = interface
  lambda : u.lambda = lambdaOf l
  caller : u.caller = callerOf l names
  callback : u.callback = callbackOf l names
  run : l.run = .ok u.run
  nativeBody : l.Conducts .native [contextBinding receiver] (lookupBindings interface u.caller)
    u.run u.nativeBody
  javaBody : l.Conducts .java [] [] (dispatch l receiver u.callback.name) u.javaBody

/-- A sound linkage with a receiver has its unit, if the operation itself can be written. -/
theorem ofLinkage_ok {l : Linkage} {receiver : Parameter} {run : String} (hl : l.Sound)
    (hreceiver : l.allParameters.find? Parameter.isReceiver = some receiver) (hrun : l.run = .ok run)
    (callbackType : JavaType) (names : MemberNames) :
    ∃ u, ofLinkage l callbackType names = .ok u ∧ u.Around l receiver callbackType names := by
  obtain ⟨javaBody, hjava, hconductsJava⟩ :=
    hl.body_ok .java [] [] (dispatch l receiver (callbackOf l names).name)
  obtain ⟨nativeBody, hnative, hconductsNative⟩ :=
    hl.body_ok .native [contextBinding receiver] (lookupBindings callbackType (callerOf l names)) run
  refine ⟨⟨l, callbackType, lambdaOf l, callerOf l names, callbackOf l names, run, nativeBody,
    javaBody⟩, ?_, ⟨rfl, rfl, rfl, rfl, rfl, hrun, hconductsNative, hconductsJava⟩⟩
  rw [ofLinkage, hreceiver]
  show (l.body .java [] [] _ >>= _) = _
  rw [hjava, hrun]
  show (l.body .native _ _ run >>= _) = _
  rw [hnative]
  rfl

end UpcallUnit

/-! ## Callback interfaces -/

namespace CallbackInterface

/-- The interface was made for a prototype: it dispatches into a linked callback. -/
structure Created (cb : CallbackInterface) (proto : CType) (ctx : Context) : Prop where
  type : cb.type = ctx.nestedType cb.name
  method : ∃ returns values context linked,
    proto.prototype? = some (returns, values ++ [context]) ∧
      LinkedAs (.dispatch cb.name returns values context cb.type) ctx .upcall linked ∧
      cb.method.Around linked.linkage
        ((linkCallbackObject context cb.type).placed Vocabulary.callbackObject .upcall) cb.type
        ctx.names

/-- An interface can be made for every prototype that can be called. -/
theorem create_ends (operation parameter : String) (proto : CType) (ctx : Context) :
    Ends (create operation parameter proto ctx).outcome (fun cb => cb.Created proto ctx)
      fun e => e.isRefusal ∧ ¬ proto.IsCallable := by
  unfold create
  have hop := Operation.runCallback_ends ("Callback_" ++ operation ++ "_" ++ parameter) proto
    (ctx.nestedType ("Callback_" ++ operation ++ "_" ++ parameter))
  refine Ends.logged (x := Logged.ofExcept _) hop fun op _ hop => ?_
  obtain ⟨returns, values, context, hproto, rfl⟩ := hop
  have hlink := linkDispatch_ends ctx ("Callback_" ++ operation ++ "_" ++ parameter) returns values
    context (ctx.nestedType ("Callback_" ++ operation ++ "_" ++ parameter))
  refine Ends.logged (hlink.failing fun e _ he => ⟨he.1, ?_⟩) fun linked _ hlinked => ?_
  · rintro ⟨returns', types, context', hproto', hlast, -, hvalues, hreturns⟩
    obtain ⟨rfl, rfl⟩ := Prod.mk.inj (Option.some.inj (hproto.symm.trans hproto'))
    rw [List.dropLast_concat] at hvalues
    exact he.2 ⟨hreturns, hvalues⟩
  · obtain ⟨u, hu, haround⟩ := UpcallUnit.ofLinkage_ok hlinked.sound hlinked.dispatch_receiver
      hlinked.dispatch_run (ctx.nestedType ("Callback_" ++ operation ++ "_" ++ parameter)) ctx.names
    show Ends (Logged.ofExcept (UpcallUnit.ofLinkage _ _ _) >>= _ : Logged _).outcome _ _
    rw [hu]
    exact ⟨rfl, returns, values, context, linked, hproto, hlinked, haround⟩

/-- What an interface was made for can be called, if its last parameter is a context. -/
theorem Created.isCallable {cb : CallbackInterface} {proto : CType} {ctx : Context}
    (h : cb.Created proto ctx) (htakes : takesContext proto) : proto.IsCallable := by
  obtain ⟨returns, values, context, linked, hproto, hlinked, -⟩ := h.method
  obtain ⟨hreturns, hvalues⟩ := dispatch_accepted_iff.1 hlinked.accepted
  have hlast : (values ++ [context]).getLast? = some context := List.getLast?_concat
  refine ⟨returns, values ++ [context], context, hproto, hlast, ?_, ?_, hreturns⟩
  · unfold takesContext at htakes
    rw [hproto] at htakes
    have hcontext : ((values ++ [context]).getLast?).any CType.isBareVoidPointer := htakes
    rw [hlast] at hcontext
    exact (CType.isBareVoidPointer_iff context).1 hcontext
  · rwa [List.dropLast_concat]

end CallbackInterface

/-! ## Both levels -/

namespace Linking

theorem takesContext_of_isCallable {proto : CType} (h : proto.IsCallable) : takesContext proto := by
  obtain ⟨returns, types, context, hproto, hlast, hcontext, -⟩ := h
  unfold takesContext
  rw [hproto]
  show (types.getLast?).any _
  rw [hlast]
  exact (CType.isBareVoidPointer_iff context).2 hcontext

/-- In a downcall an interface is made exactly where one can be. -/
theorem spawnCallback_ends (op : Operation) (ctx : Context) :
    PolicyEnds (spawnCallback op ctx) op ctx .downcall := by
  intro t proto position _ hposition
  cases position with
  | returned =>
    refine ⟨rfl, ?_⟩
    rintro ⟨-, -, i, hi, -⟩
    exact nomatch hi
  | parameter index =>
    have hp : ∃ p, op.params[index]? = some p := ⟨_, List.getElem?_eq_getElem (hposition index rfl)⟩
    obtain ⟨p, hp⟩ := hp
    -- the checks in order: the prototype, the parameter behind, and only then the nested linking
    unfold spawnCallback
    cases htakes : takesContext proto with
    | false =>
      refine ⟨rfl, fun h => ?_⟩
      rw [takesContext_of_isCallable h.2.1] at htakes
      exact nomatch htakes
    | true =>
      simp only [hp, Bool.not_true, Bool.false_eq_true, if_false]
      cases hnext : (op.params[index + 1]?).any isContext with
      | false =>
        refine ⟨rfl, ?_⟩
        rintro ⟨-, -, i, hi, hcontext⟩
        obtain rfl := Position.parameter.inj hi
        exact nomatch hnext.symm.trans hcontext
      | true =>
        have hcreate := CallbackInterface.create_ends op.name p.name proto ctx
        simp only [Bool.not_true, Bool.false_eq_true, if_false]
        refine (hcreate.failing ?_).logged fun callback hok hcreated => ?_
        · exact fun e _ he => ⟨he.1, fun h => he.2 h.2.1⟩
        · exact ⟨⟨rfl, hcreated.isCallable htakes, index, rfl, hnext⟩, index, p, callback, rfl, hp,
            hok, rfl⟩

/-- Either direction guarantees what linking asks of its policy. -/
theorem policy_ends (op : Operation) (ctx : Context) (d : Direction) :
    PolicyEnds (policy op ctx d) op ctx d := by
  cases d with
  | downcall => exact spawnCallback_ends op ctx
  | upcall => exact refusePointer_ends op ctx

end Linking

/-- Linking ends in a linkage of the operation, or refuses an operation outside the language. -/
theorem Operation.link_ends {op : Operation} {d : Direction} (ctx : Context)
    (hplace : ∀ p ∈ op.params, Placeable d p) :
    Ends (op.link ctx d).outcome (LinkedAs op ctx d)
      fun e => e.isRefusal ∧ ¬ OperationAccepted op d :=
  linkWith_ends (policy_ends op ctx d) hplace

/-- An operation links exactly if it is in the language. -/
theorem Operation.link_isOk_iff {op : Operation} {d : Direction} (ctx : Context)
    (hplace : ∀ p ∈ op.params, Placeable d p) :
    (∃ linked, (op.link ctx d).outcome = .ok linked) ↔ OperationAccepted op d := by
  have hends := Operation.link_ends ctx hplace
  constructor
  · rintro ⟨linked, hok⟩
    exact (hends.of_ok hok).accepted
  · intro haccepted
    cases hok : (op.link ctx d).outcome with
    | ok linked => exact ⟨linked, rfl⟩
    | error e => exact absurd haccepted (hends.of_error hok).2

end JniBridge
