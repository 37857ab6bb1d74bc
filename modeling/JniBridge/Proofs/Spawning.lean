import JniBridge.Proofs.Crossing
/-
Function pointers, their contexts and the interfaces made for them.

Linking walks the parameters of a function with one interface in hand: it is made at a function
pointer, handed to the next parameter, and put at the end of the list of interfaces.  So three things
keep in step, and this module says that they do:

  1. the interfaces are those of the function pointers, in order (`ParametersLinked.stands`);
  2. a lambda stands at a function pointer and nowhere else (`ParametersLinked.isLambda_eq`);
  3. a callback's object stands right after a lambda and nowhere else
     (`ParametersLinked.isCallbackObject_eq`).

`DowncallUnit.spawns_of_link` puts them together for the code around a function.  The closure that the
glue function binds for a function pointer is the one of the interface, and binds no further closure.
-/

namespace JniBridge

open Linking

/-! ## What the interface of a function pointer holds -/

namespace Action

/-- The action makes a function pointer up from a closure. -/
def isLambda : Action → Bool
  | callbackLambda .. => true
  | _ => false

/-- The action hands on the object that a callback is registered with. -/
def isCallbackObject : Action → Bool
  | callbackObject => true
  | _ => false

/-- What converts on every edge takes no part in callbacks. -/
theorem Converts.not_callback {a : Action} (h : a.Converts) :
    a.isLambda = false ∧ a.isCallbackObject = false := by
  have hedge := h .nativeToJni .downcall
  cases a with
  | callbackLambda => exact absurd hedge List.not_mem_nil
  | callbackObject => exact absurd hedge (by decide)
  | _ => exact ⟨rfl, rfl⟩

/-- Conversions are written as text. -/
theorem literal_of_transit {a : Action} {value : String} {e : Edge} {d : Direction} {x : Expression}
    (h : a.transit value e d = .ok x) : x.literal?.isSome := by
  unfold transit at h
  split at h
  · obtain rfl := Except.ok.inj h
    rfl
  · cases h

end Action

namespace Parameter

/-- What is not made up is written as text. -/
theorem literal_of_on {p : Parameter} {e : Edge} {x : Expression}
    (hgenerate : p.behaviors.get e ≠ .generate) (hx : p.on e = .ok (some x)) :
    x.literal?.isSome := by
  unfold on at hx
  cases hbehavior : p.behaviors.get e with
  | generate => exact absurd hbehavior hgenerate
  | none =>
    rw [hbehavior] at hx
    cases hx
  | transit =>
    rw [hbehavior] at hx
    cases htransit : p.action.transit p.name e p.direction with
    | error err =>
      simp only [htransit, Except.map, reduceCtorEq] at hx
    | ok y =>
      simp only [htransit, Except.map, Except.ok.injEq, Option.some.injEq] at hx
      exact hx ▸ Action.literal_of_transit htransit

/-- What takes part in a callback gets into native code: flags do not take part. -/
theorem Form.native_of_callback {p : Parameter} {d : Direction} (h : Form d p)
    (hp : p.action.isLambda ∨ p.action.isCallbackObject) :
    p.behaviors.supports d.nativeEdge := by
  cases h with
  | plain h =>
    rw [h.behaviors]
    cases d <;> rfl
  | receiver t callback name d => cases d <;> rfl
  | closure | handle => rfl
  | flag => rcases hp with h | h <;> exact nomatch h

/-- In an upcall nothing is made up. -/
theorem Form.not_generated_of_upcall {p : Parameter} (h : Form .upcall p) (e : Edge) :
    p.behaviors.get e ≠ .generate := by
  have hbehaviors : p.behaviors = .usual .upcall true true := by
    cases h with
    | plain h => exact h.behaviors
    | receiver => rfl
  rw [hbehaviors, Behaviors.usual_get]
  split
  · exact nofun
  · exact nofun

end Parameter

namespace CallbackInterface

/-- The interface was made for a parameter of an operation: its method is linked as an operation of
its own, which needs no further interfaces, and the method's closure binds no further closures. -/
structure MadeFor (cb : CallbackInterface) (operation parameter : String) (proto : CType)
    (ctx : Context) : Prop where
  operation : cb.operation = operation
  parameter : cb.parameter = parameter
  interface : cb.method.callbackType = cb.type
  runs : Operation.runCallback cb.name proto cb.type = .ok cb.method.linkage.operation
  linked : (cb.method.linkage.operation.link ctx .upcall).outcome = .ok ⟨cb.method.linkage, []⟩
  plain : ∀ b ∈ cb.method.nativeBody.bindings, b.value.literal?.isSome

theorem madeFor_of_create {operation parameter : String} {proto : CType} {ctx : Context}
    {cb : CallbackInterface} (h : (create operation parameter proto ctx).outcome = .ok cb) :
    cb.MadeFor operation parameter proto ctx := by
  obtain ⟨returns, values, context, linked, hproto, hlinked, haround⟩ :=
    ((create_ends operation parameter proto ctx).of_ok h).method
  have hnested := (nested_of_create h).linked
  unfold create at h
  obtain ⟨op, -, h⟩ := exists_of_bind_eq_ok h
  obtain ⟨_, -, h⟩ := exists_of_bind_eq_ok h
  obtain ⟨method, -, h⟩ := exists_of_bind_eq_ok h
  obtain rfl := Except.ok.inj h
  refine ⟨rfl, rfl, haround.callbackType, ?_, hnested, ?_⟩
  · rw [haround.linkage, hlinked.operation, Operation.runCallback, hproto]
    simp only [List.getLast?_concat, List.dropLast_concat]
    rfl
  · -- the variables around the parameters are look-ups, those of the parameters are conversions
    obtain ⟨bs, hbs, hholds⟩ := haround.nativeBody.bindings
    have hparams : ∀ b ∈ bs, b.value.literal?.isSome := by
      intro b hb
      obtain ⟨p, hp, hbound⟩ := exists_mem_of_forall₂ hholds b hb
      have hform := hlinked.sound.form p (List.mem_filter.1 hp).1
      rw [hlinked.direction] at hform
      exact Parameter.literal_of_on (hform.not_generated_of_upcall _) hbound.value
    rw [hbs]
    intro b hb
    rcases List.mem_append.1 hb with hb | hb
    · rcases List.mem_append.1 hb with hb | hb
      · obtain rfl := List.mem_singleton.1 hb
        rfl
      · exact hparams b hb
    · rcases List.mem_pair.1 hb with rfl | rfl
      · rfl
      · rfl

end CallbackInterface

/-! ## The walk over the parameters -/

namespace Linking

variable {op : Operation} {ctx : Context} {d : Direction} {awaiting : Option CallbackInterface}
  {ps : List OperationParameter} {rs : List (ParameterLinkage × Option CallbackInterface)}

/-- The positions of the function pointers among parameters. -/
def pointerPositions (ps : List OperationParameter) : List Nat :=
  ps.findIdxs fun p => p.type.isFunctionPointer

/-- The interface stands for the function pointer at a position, and the parameter behind it takes the
interface's object. -/
structure StandsAt (op : Operation) (ctx : Context) (ps : List OperationParameter)
    (rs : List (ParameterLinkage × Option CallbackInterface)) (i : Nat) (cb : CallbackInterface) :
    Prop where
  pointer : ∃ p proto, ps[i]? = some p ∧ p.type.shape = .ok (.functionPointer proto) ∧
    (CallbackInterface.create op.name p.name proto ctx).outcome = .ok cb ∧
    rs[i]? = some (⟨(spawned p.type cb).value.placed p.name .downcall, []⟩, some cb)
  context : ∃ name, rs[i + 1]? = some (⟨(contextValue cb).placed name .downcall, []⟩, none)

/-- In front of the parameters one more makes no difference but to the count. -/
theorem stands_behind {cbs : List CallbackInterface} (p : OperationParameter)
    (r : ParameterLinkage × Option CallbackInterface)
    (h : List.Forall₂ (StandsAt op ctx ps rs) (pointerPositions ps) cbs) :
    List.Forall₂ (StandsAt op ctx (p :: ps) (r :: rs))
      (ps.findIdxs (fun q => q.type.isFunctionPointer) (0 + 1)) cbs := by
  rw [List.findIdxs_start, List.forall₂_map_left_iff]
  exact h.imp fun i cb hcb => ⟨hcb.pointer, hcb.context⟩

/-- The interfaces stand, in order, for the function pointers. -/
theorem ParametersLinked.stands (h : ParametersLinked op ctx d awaiting ps rs)
    (hroles : ∀ p ∈ ps, p.role = .value) :
    List.Forall₂ (StandsAt op ctx ps rs) (pointerPositions ps) (rs.filterMap Prod.snd) := by
  induction h with
  | nil => exact .nil
  | @value p ps rs v i role settled _ ih =>
    have hrest := ih fun q hq => hroles q (List.mem_cons_of_mem _ hq)
    rw [pointerPositions, List.findIdxs_cons,
      if_neg (by rw [CType.isFunctionPointer_of_isValue settled.isValue]; decide)]
    exact stands_behind _ _ hrest
  | handle role | receiver role =>
    exact nomatch role.symm.trans (hroles _ List.mem_cons_self)
  | @pointer p ps rs proto cb role _ shape _ created rest ih =>
    have hrest := ih fun q hq => hroles q (List.mem_cons_of_mem _ hq)
    rw [pointerPositions, List.findIdxs_cons, if_pos (by rw [CType.isFunctionPointer, shape])]
    refine .cons ⟨⟨p, proto, rfl, shape, created, rfl⟩, ?_⟩ (stands_behind _ _ hrest)
    -- the interface in hand goes to the next parameter
    cases rest with
    | context _ _ _ _ => exact ⟨_, rfl⟩
  | @context p ps rs cb role _ hcontext _ ih =>
    have hrest := ih fun q hq => hroles q (List.mem_cons_of_mem _ hq)
    rw [pointerPositions, List.findIdxs_cons,
      if_neg (by rw [CType.isFunctionPointer_of_isContext hcontext]; decide)]
    exact stands_behind _ _ hrest

/-- Lambdas stand at function pointers. -/
theorem ParametersLinked.isLambda_eq (h : ParametersLinked op ctx d awaiting ps rs)
    (hroles : ∀ p ∈ ps, p.role = .value) :
    List.Forall₂ (fun p r => r.1.parameter.action.isLambda = p.type.isFunctionPointer) ps rs := by
  induction h with
  | nil => exact .nil
  | value role settled _ ih =>
    refine .cons ?_ (ih fun q hq => hroles q (List.mem_cons_of_mem _ hq))
    rw [CType.isFunctionPointer_of_isValue settled.isValue]
    exact settled.converts.not_callback.1
  | handle role | receiver role =>
    exact nomatch role.symm.trans (hroles _ List.mem_cons_self)
  | pointer _ _ shape _ _ _ ih =>
    refine .cons ?_ (ih fun q hq => hroles q (List.mem_cons_of_mem _ hq))
    rw [CType.isFunctionPointer, shape]
    rfl
  | context _ _ hcontext _ ih =>
    refine .cons ?_ (ih fun q hq => hroles q (List.mem_cons_of_mem _ hq))
    rw [CType.isFunctionPointer_of_isContext hcontext]
    rfl

/-- The parameter at a position is the context of a function pointer: the first one is if an interface
is in hand, any other one if a function pointer stands before it. -/
def takesObject (inHand : Bool) (ps : List OperationParameter) : Nat → Bool
  | 0 => inHand
  | i + 1 => (ps[i]?).any fun p => p.type.isFunctionPointer

/-- What is in hand behind the first parameter is known from the first parameter. -/
theorem takesObject_step {inHand : Bool} {p : OperationParameter}
    {r : ParameterLinkage × Option CallbackInterface}
    (hfirst : r.1.parameter.action.isCallbackObject = inHand)
    (hrest : ∀ i x, rs[i]? = some x →
      x.1.parameter.action.isCallbackObject = takesObject p.type.isFunctionPointer ps i) (i : Nat)
    (x : ParameterLinkage × Option CallbackInterface) (hx : (r :: rs)[i]? = some x) :
    x.1.parameter.action.isCallbackObject = takesObject inHand (p :: ps) i := by
  cases i with
  | zero =>
    obtain rfl := Option.some.inj hx
    exact hfirst
  | succ i =>
    rw [hrest i x hx]
    cases i with
    | zero => rfl
    | succ j => rfl

/-- A callback's object stands for a context. -/
theorem ParametersLinked.isCallbackObject_eq (h : ParametersLinked op ctx d awaiting ps rs)
    (hroles : ∀ p ∈ ps, p.role = .value) : ∀ i r, rs[i]? = some r →
      r.1.parameter.action.isCallbackObject = takesObject awaiting.isSome ps i := by
  induction h with
  | nil => exact fun i r hr => nomatch hr
  | value role settled _ ih =>
    refine takesObject_step settled.converts.not_callback.2 ?_
    rw [CType.isFunctionPointer_of_isValue settled.isValue]
    exact ih fun q hq => hroles q (List.mem_cons_of_mem _ hq)
  | handle role | receiver role =>
    exact nomatch role.symm.trans (hroles _ List.mem_cons_self)
  | pointer _ _ shape _ _ _ ih =>
    refine takesObject_step rfl ?_
    rw [CType.isFunctionPointer, shape]
    exact ih fun q hq => hroles q (List.mem_cons_of_mem _ hq)
  | context _ _ hcontext _ ih =>
    refine takesObject_step rfl ?_
    rw [CType.isFunctionPointer_of_isContext hcontext]
    exact ih fun q hq => hroles q (List.mem_cons_of_mem _ hq)

end Linking

/-! ## The parameters of a function -/

namespace FunctionDecl

/-- The positions of the function pointers among the parameters of a function. -/
def pointerPositions (decl : FunctionDecl) : List Nat :=
  decl.params.findIdxs fun p => p.type.isFunctionPointer

theorem mem_pointerPositions_iff {decl : FunctionDecl} {i : Nat} :
    i ∈ decl.pointerPositions ↔
      ((Operation.callNative decl).params[i]?).any fun p => p.type.isFunctionPointer := by
  have hparams : (Operation.callNative decl).params = decl.params.map Operation.argument := rfl
  rw [pointerPositions, List.mem_findIdxs_iff_exists_getElem_pos, hparams, List.getElem?_map]
  constructor
  · rintro ⟨hi, hp⟩
    rw [List.getElem?_eq_getElem hi]
    exact hp
  · intro h
    cases hp : decl.params[i]? with
    | none =>
      rw [hp] at h
      exact nomatch h
    | some p =>
      rw [hp] at h
      obtain ⟨hi, rfl⟩ := List.getElem?_eq_some_iff.1 hp
      exact ⟨hi, h⟩

end FunctionDecl

namespace Linking

variable {decl : FunctionDecl} {ctx : Context} {linked : LinkedOperation}

theorem LinkedAs.isLambda_iff (h : LinkedAs (.callNative decl) ctx .downcall linked) {i : Nat}
    {l : ParameterLinkage} (hl : linked.linkage.params[i]? = some l) :
    l.parameter.action.isLambda ↔ i ∈ decl.pointerPositions := by
  obtain ⟨rs, hrs, hmap, -⟩ := h.params
  rw [hmap, List.getElem?_map] at hl
  obtain ⟨r, hr, rfl⟩ := Option.map_eq_some_iff.1 hl
  have hlambda := hrs.isLambda_eq (Operation.role_of_mem_callNative decl)
  obtain ⟨p, hp, heq⟩ := getElem?_of_forall₂ hlambda.flip hr
  rw [FunctionDecl.mem_pointerPositions_iff, hp, heq]
  rfl

theorem LinkedAs.isCallbackObject_iff (h : LinkedAs (.callNative decl) ctx .downcall linked)
    {i : Nat} {l : ParameterLinkage} (hl : linked.linkage.params[i]? = some l) :
    l.parameter.action.isCallbackObject ↔ ∃ j ∈ decl.pointerPositions, i = j + 1 := by
  obtain ⟨rs, hrs, hmap, -⟩ := h.params
  rw [hmap, List.getElem?_map] at hl
  obtain ⟨r, hr, rfl⟩ := Option.map_eq_some_iff.1 hl
  rw [hrs.isCallbackObject_eq (Operation.role_of_mem_callNative decl) i r hr]
  cases i with
  | zero =>
    constructor
    · exact nofun
    · rintro ⟨j, -, hj⟩
      exact nomatch hj
  | succ j =>
    refine (FunctionDecl.mem_pointerPositions_iff (i := j)).symm.trans ?_
    constructor
    · exact fun hj => ⟨j, hj, rfl⟩
    · rintro ⟨k, hk, hjk⟩
      obtain rfl := Nat.succ.inj hjk
      exact hk

/-- Nothing that is generated besides the function's parameters takes part in a callback. -/
theorem LinkedAs.mem_params_of_callback (h : LinkedAs (.callNative decl) ctx .downcall linked)
    {p : Parameter} (hp : p ∈ linked.linkage.allParameters)
    (hcallback : p.action.isLambda ∨ p.action.isCallbackObject) :
    p ∈ linked.linkage.params.map ParameterLinkage.parameter := by
  have hform := h.sound.form p hp
  rw [h.direction] at hform
  rw [← h.native_parameters]
  exact List.mem_filter.2 ⟨hp, hform.native_of_callback hcallback⟩

end Linking

/-! ## The code around a function -/

namespace DowncallUnit

/-- In the code around a function, an interface serves the function pointer at a position. -/
structure Serves (u : DowncallUnit) (decl : FunctionDecl) (ctx : Context) (i : Nat)
    (cb : CallbackInterface) : Prop where
  /-- The interface was made for this function and this parameter. -/
  made : ∃ p proto, decl.params[i]? = some p ∧ p.type.shape = .ok (.functionPointer proto) ∧
    cb.MadeFor decl.name p.name proto ctx
  /-- The function pointer is made up from the interface's closure, and Java does not see it. -/
  lambda : ∃ l, u.linkage.params[i]? = some l ∧
    l.parameter.action = .callbackLambda cb.method.callbackType cb.method.closure ∧
    l.parameter.javaType = none ∧ l.parameter.jniType = none
  /-- In the place of the context Java passes the interface's object. -/
  object : ∃ l, u.linkage.params[i + 1]? = some l ∧ l.parameter.action = .callbackObject ∧
    l.parameter.jniType = some (.scalar .long) ∧
    l.parameter.javaType =
      some (.object "io.github.bnd.jni.runtime" "FunctionPointer" [cb.type] [])
  /-- The glue function binds the closure that runs the interface's method. -/
  binding : u.glueBody.bindings[i]? =
      some ⟨none, cb.parameter ++ "$int", .closure cb.method.closure⟩ ∧
    cb.method.closure.body = cb.method.nativeBody

/-- In the code around a function, function pointers, their contexts and the interfaces made for them
correspond to each other one to one. -/
structure Spawns (u : DowncallUnit) (decl : FunctionDecl) (ctx : Context) : Prop where
  names : u.linkage.params.map (fun l => l.parameter.name) = decl.params.map NamedType.name
  interfaces : List.Forall₂ (u.Serves decl ctx) decl.pointerPositions u.linked.callbacks
  lambdas : ∀ i l, u.linkage.params[i]? = some l →
    (l.parameter.action.isLambda ↔ i ∈ decl.pointerPositions)
  objects : ∀ i l, u.linkage.params[i]? = some l →
    (l.parameter.action.isCallbackObject ↔ ∃ j ∈ decl.pointerPositions, i = j + 1)
  /-- What else is generated takes no part in callbacks. -/
  others : ∀ p ∈ u.linkage.allParameters, p.action.isLambda ∨ p.action.isCallbackObject →
    p ∈ u.linkage.params.map ParameterLinkage.parameter

/-- An interface that stands for a function pointer in a linkage serves it in the code around. -/
theorem Around.serves {u : DowncallUnit} {decl : FunctionDecl} {ctx : Context}
    {linked : LinkedOperation} {spec : DowncallSpec} (hu : u.Around linked spec)
    (h : LinkedAs (.callNative decl) ctx .downcall linked)
    {rs : List (ParameterLinkage × Option CallbackInterface)}
    (hmap : linked.linkage.params = rs.map Prod.fst) {i : Nat} {cb : CallbackInterface}
    (hcb : StandsAt (.callNative decl) ctx (Operation.callNative decl).params rs i cb) :
    u.Serves decl ctx i cb := by
  obtain ⟨q, proto, hq, hshape, hcreated, hpointer⟩ := hcb.pointer
  obtain ⟨name, hcontext⟩ := hcb.context
  have hmade := CallbackInterface.madeFor_of_create hcreated
  have hparams : (Operation.callNative decl).params = decl.params.map Operation.argument := rfl
  rw [hparams, List.getElem?_map] at hq
  obtain ⟨p, hp, rfl⟩ := Option.map_eq_some_iff.1 hq
  have hlinkage : u.linkage.params = rs.map Prod.fst := by
    rw [← hmap, linkage, hu.linked]
  have hl : linked.linkage.params[i]? =
      some ⟨(spawned p.type cb).value.placed p.name .downcall, []⟩ := by
    rw [hmap, List.getElem?_map, hpointer]
    rfl
  refine ⟨⟨p, proto, hp, hshape, hmade⟩, ?_, ?_, ?_, rfl⟩
  · rw [hlinkage, List.getElem?_map, hpointer]
    exact ⟨_, rfl, rfl, rfl, rfl⟩
  · rw [hlinkage, List.getElem?_map, hcontext]
    exact ⟨_, rfl, rfl, rfl, rfl⟩
  · -- the glue function binds one variable for each parameter of the function
    obtain ⟨bs, hbs, hholds, -⟩ := h.native_variables hu.glueBody
    rw [List.nil_append, List.append_nil] at hbs
    obtain ⟨b, hb, hbound⟩ := getElem?_of_forall₂ hholds hl
    have hvalue : Except.ok (some (Expression.closure cb.method.closure)) =
        Except.ok (ε := LinkError) (some b.value) := hbound.value
    have hb' : b = ⟨none, Vocabulary.intermediate p.name, .closure cb.method.closure⟩ := by
      cases b
      obtain rfl := Option.some.inj (Except.ok.inj hvalue)
      obtain rfl := hbound.type
      obtain rfl := hbound.name
      rfl
    rw [hbs, hb, hb', hmade.parameter]
    rfl

/-- In the code around a linked function, its function pointers have their interfaces. -/
theorem spawns_of_link (decl : FunctionDecl) (ctx : Context) {linked : LinkedOperation}
    (h : ((Operation.callNative decl).link ctx .downcall).outcome = .ok linked)
    (spec : DowncallSpec) :
    ∃ u, (link (.callNative decl) spec ctx).outcome = .ok u ∧ u.linked = linked ∧
      u.Spawns decl ctx := by
  obtain ⟨u, hu, haround⟩ := exists_around (.call decl) h spec
  have hlinked := ((Operation.Offered.call decl).link_ends ctx).of_ok h
  obtain ⟨rs, hrs, hmap, hcallbacks⟩ := hlinked.params
  have hlinkage : u.linkage = linked.linkage := congrArg LinkedOperation.linkage haround.linked
  have hpositions : pointerPositions (Operation.callNative decl).params = decl.pointerPositions :=
    List.findIdxs_map
  have hnames : (Operation.callNative decl).params.map OperationParameter.name =
      decl.params.map NamedType.name := by
    rw [Operation.callNative, List.map_map]
    rfl
  refine ⟨u, hu, haround.linked, ?_⟩
  constructor
  · rw [hlinkage, ← hnames]
    exact (map_eq_map_of_forall₂ hlinked.reaches fun _ _ hl => hl.named.symm).symm
  · rw [haround.linked, hcallbacks, ← hpositions]
    exact (hrs.stands (Operation.role_of_mem_callNative decl)).imp fun i cb hcb =>
      haround.serves hlinked hmap hcb
  · rw [hlinkage]
    exact fun i l hl => hlinked.isLambda_iff hl
  · rw [hlinkage]
    exact fun i l hl => hlinked.isCallbackObject_iff hl
  · rw [hlinkage]
    exact fun p hp hcallback => hlinked.mem_params_of_callback hp hcallback

/-- A function takes two function pointers, and an ordinary pointer to `void` between them. -/
theorem spawns_of_link_walk :
    ∃ linked, ((Operation.callNative ⟨"walk", .void,
        [⟨"visitor", .pointerTo (.function .void [.ofScalar .int "int", .voidPointer])⟩,
          ⟨"context", .voidPointer⟩, ⟨"data", .voidPointer⟩,
          ⟨"done", .pointerTo (.function .void [.voidPointer])⟩,
          ⟨"doneContext", .voidPointer⟩]⟩).link
        { package := "geo", container := "Native" } .downcall).outcome = .ok linked ∧
      FunctionDecl.pointerPositions ⟨"walk", .void,
        [⟨"visitor", .pointerTo (.function .void [.ofScalar .int "int", .voidPointer])⟩,
          ⟨"context", .voidPointer⟩, ⟨"data", .voidPointer⟩,
          ⟨"done", .pointerTo (.function .void [.voidPointer])⟩,
          ⟨"doneContext", .voidPointer⟩]⟩ = [0, 3] ∧
      ∃ u, (link (.callNative ⟨"walk", .void,
          [⟨"visitor", .pointerTo (.function .void [.ofScalar .int "int", .voidPointer])⟩,
            ⟨"context", .voidPointer⟩, ⟨"data", .voidPointer⟩,
            ⟨"done", .pointerTo (.function .void [.voidPointer])⟩,
            ⟨"doneContext", .voidPointer⟩]⟩) (.ofName "walk" (.ofClass "geo" "Native"))
          { package := "geo", container := "Native" }).outcome = .ok u ∧ u.linked = linked ∧
        u.Spawns ⟨"walk", .void,
          [⟨"visitor", .pointerTo (.function .void [.ofScalar .int "int", .voidPointer])⟩,
            ⟨"context", .voidPointer⟩, ⟨"data", .voidPointer⟩,
            ⟨"done", .pointerTo (.function .void [.voidPointer])⟩,
            ⟨"doneContext", .voidPointer⟩]⟩ { package := "geo", container := "Native" } :=
  ⟨_, rfl, rfl, spawns_of_link _ _ rfl _⟩

end DowncallUnit

end JniBridge
