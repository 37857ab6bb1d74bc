import JniBridge.Proofs.Closure
/-
The names in the unit of a function.

A function pointer is made up on the native side, so Java sees every parameter of a function but those;
a returned native string adds the flag that releases it (`FunctionDecl.generated`).  What Java sees has a
type on every layer above native code and is converted under one and the same name
(`Parameter.Shows`), so each of the three signatures and each of the two bodies lists the names that can
be read off the declaration (`DowncallUnit.NamedAs`).

A result is named before it is converted exactly if it is a native string (`Operation.link_captures`).
-/

namespace JniBridge

open Linking

/-! ## Types that matter for names -/

namespace CType

/-- The type of a function pointer. -/
def isFunctionPointer (t : CType) : Bool :=
  match t.shape with
  | .ok (.functionPointer _) => true
  | _ => false

theorem isFunctionPointer_of_isValue {t : CType} (h : t.IsValue) : t.isFunctionPointer = false := by
  obtain ⟨s, hs, hfun, -⟩ := h
  unfold isFunctionPointer
  rw [hs]
  cases s with
  | functionPointer proto => exact absurd rfl (hfun proto)
  | _ => rfl

/-- A bare pointer to `void` is a pointer like any other. -/
theorem shape_of_isContext {t : CType} (h : t.IsContext) :
    ∃ pointee, t.shape = .ok (.pointer pointee) := by
  obtain ⟨pointee, s, p, p', ht, hpointee⟩ := h
  refine ⟨pointee, ?_⟩
  rw [shape, ht]
  show Except.ok (pointerShape pointee) = _
  rw [pointerShape, hpointee]

theorem isFunctionPointer_of_isContext {t : CType} (h : t.IsContext) :
    t.isFunctionPointer = false := by
  obtain ⟨pointee, hshape⟩ := shape_of_isContext h
  rw [isFunctionPointer, hshape]

end CType

/-! ## The names of a declaration -/

namespace FunctionDecl

/-- Everything that is generated for the parameters and the result of a function, by name and by whether
Java sees it. -/
def generated (decl : FunctionDecl) : List (String × Bool) :=
  decl.params.map (fun p => (p.name, !p.type.isFunctionPointer)) ++
    if decl.returns.isNativeString then [(Vocabulary.returnDeletion, true)] else []

/-- The names that Java sees. -/
def shown (decl : FunctionDecl) : List String :=
  (decl.generated.filter Prod.snd).map Prod.fst

/-- The name whose variable would hold the result, if the result is named. -/
def captured (decl : FunctionDecl) : List String :=
  if decl.returns.isNativeString then ["returnValue"] else []

end FunctionDecl

/-! ## The generated parameters -/

/-- The parameter goes by the name on every layer, and Java either sees it whole or not at all. -/
structure Parameter.Shows (q : Parameter) (name : String) (seen : Bool) : Prop where
  named : q.name = name
  intermediate : q.intermediate = Vocabulary.intermediate name
  java : q.javaType.isSome = seen
  raw : q.rawType.isSome = seen
  jni : q.jniType.isSome = seen
  taken : q.behaviors.get .javaToJni = if seen then .transit else .none

theorem Parameter.Plain.shows {q : Parameter} {name : String} {t : CType}
    (h : q.Plain name t .downcall) : q.Shows name true := by
  obtain ⟨j, raw, hj, hraw, -⟩ := h.jni
  exact
    { named := h.named, intermediate := h.intermediate, java := h.java
      raw := by rw [hraw]; rfl
      jni := by rw [hj]; rfl
      taken := by rw [h.behaviors]; rfl }

namespace Linking

variable {decl : FunctionDecl} {ctx : Context} {linked : LinkedOperation}

/-- Only a setter's parameters bring flags. -/
theorem flags_of_not_setter {op : Operation} (h : op.isSetter = false) (t : CType) (i : Nat) :
    flags op .downcall t (.parameter i) = [] := by
  unfold flags deletionName?
  rw [h]
  split <;> rfl

/-- Each ordinary parameter of such an operation shows as itself and brings nothing. -/
theorem ParametersLinked.shows {op : Operation} {awaiting : Option CallbackInterface}
    {ps : List OperationParameter} {rs : List (ParameterLinkage × Option CallbackInterface)}
    (h : ParametersLinked op ctx .downcall awaiting ps rs) (hsetter : op.isSetter = false)
    (hroles : ∀ p ∈ ps, p.role = .value) :
    List.Forall₂ (fun p r => r.1.companions = [] ∧
      r.1.parameter.Shows p.name (!p.type.isFunctionPointer)) ps rs := by
  induction h with
  | nil => exact .nil
  | value role settled _ ih =>
    have hrest := ih fun p hp => hroles p (List.mem_cons_of_mem _ hp)
    refine .cons ⟨?_, ?_⟩ hrest
    · rw [settled.companions]
      exact flags_of_not_setter hsetter _ _
    · rw [CType.isFunctionPointer_of_isValue settled.isValue]
      exact (settled.carried.placed _).shows
  | handle role | receiver role =>
    exact nomatch role.symm.trans (hroles _ List.mem_cons_self)
  | pointer role _ shape _ _ _ ih =>
    have hrest := ih fun p hp => hroles p (List.mem_cons_of_mem _ hp)
    refine .cons ⟨rfl, ?_⟩ hrest
    rw [CType.isFunctionPointer, shape]
    exact ⟨rfl, rfl, rfl, rfl, rfl, rfl⟩
  | context role _ hcontext _ ih =>
    have hrest := ih fun p hp => hroles p (List.mem_cons_of_mem _ hp)
    refine .cons ⟨rfl, ?_⟩ hrest
    rw [CType.isFunctionPointer_of_isContext hcontext]
    exact ((contextValue_carried _).placed _).shows

/-- The flag of a returned native string shows, and nothing else comes with a result. -/
theorem LinkedAs.shows_companions (h : LinkedAs (.callNative decl) ctx .downcall linked) :
    List.Forall₂ (fun (n : String × Bool) q => Parameter.Shows q n.1 n.2)
      (if decl.returns.isNativeString then [(Vocabulary.returnDeletion, true)] else [])
      ((linked.linkage.returnValue.map ReturnValue.companions).getD []) := by
  rcases h.returns with ⟨hvoid, hr⟩ | ⟨-, r, hr, hsettled⟩
  · have hnone : decl.returns.isNativeString = false := CType.isNativeString_of_isVoid hvoid
    rw [hr, hnone]
    exact .nil
  · rw [hr]
    show List.Forall₂ _ _ r.companions
    rw [hsettled.companions]
    show List.Forall₂ _ _ (flags (.callNative decl) .downcall decl.returns .returned)
    unfold flags CType.isNativeString
    cases decl.returns.shape with
    | error e => exact .nil
    | ok s =>
      cases s with
      | nativeString => exact .cons ⟨rfl, rfl, rfl, rfl, rfl, rfl⟩ .nil
      | _ => exact .nil

/-- What is generated for a function shows as its declaration says. -/
theorem LinkedAs.shows (h : LinkedAs (.callNative decl) ctx .downcall linked) :
    List.Forall₂ (fun n q => Parameter.Shows q n.1 n.2) decl.generated
      linked.linkage.allParameters := by
  obtain ⟨rs, hrs, hmap, -⟩ := h.params
  refine List.rel_append ?_ h.shows_companions
  have hparams := hrs.shows rfl (Operation.role_of_mem_callNative decl)
  rw [hmap]
  have hps : (Operation.callNative decl).params = decl.params.map Operation.argument := rfl
  rw [hps, List.forall₂_map_left_iff] at hparams
  -- nothing comes between the parameters, so they stay in step with the declaration
  clear hps hrs hmap
  generalize decl.params = ps at hparams
  induction hparams with
  | nil => exact .nil
  | cons hp _ ih =>
    obtain ⟨hcompanions, hshows⟩ := hp
    rw [List.map_cons, List.map_cons, List.flatMap_cons, ParameterLinkage.generated, hcompanions]
    exact .cons hshows ih

/-! ## Results -/

/-- A result is named before it is converted exactly if it is a native string. -/
theorem classifyWith_captures {policy : PointerPolicy} {op : Operation} {d : Direction} {t : CType}
    {c : Classified}
    (hpolicy : ∀ proto, ∃ e, (policy t proto .returned).outcome = .error e)
    (h : (classifyWith policy op ctx d t .returned).outcome = .ok c) :
    c.value.action.capturesResult = t.isNativeString := by
  unfold classifyWith at h
  unfold CType.isNativeString
  cases hs : t.shape with
  | error e =>
    rw [hs] at h
    exact nomatch h
  | ok s =>
    rw [hs] at h
    cases s with
    | primitive =>
      -- a scalar that is linked at all is linked as a scalar
      have hlink : (linkPrimitive t).map (fun v => ({ value := v } : Classified)) = .ok c := h
      cases hv : linkPrimitive t with
      | error e =>
        rw [hv] at hlink
        exact nomatch hlink
      | ok v =>
        rw [hv] at hlink
        obtain ⟨r, plain, -, -, rfl⟩ := linkPrimitive_eq hv
        obtain rfl := Except.ok.inj hlink
        rfl
    | functionPointer proto =>
      obtain ⟨e, he⟩ := hpolicy proto
      exact nomatch he.symm.trans h
    | record name =>
      obtain rfl := Except.ok.inj h
      show (linkStruct op ctx t name).action.capturesResult = false
      unfold linkStruct
      dsimp only [LinkedValue.typed]
      split <;> rfl
    | nativeString | pointer pointee | enumeration name =>
      obtain rfl := Except.ok.inj h
      rfl

/-- A function pointer is never returned. -/
theorem policy_returned (op : Operation) (d : Direction) (t proto : CType) :
    ∃ e, (policy op ctx d t proto .returned).outcome = .error e := by
  cases d with
  | downcall => exact ⟨_, rfl⟩
  | upcall => exact ⟨_, rfl⟩

end Linking

open Linking in
/-- The action of a linked result is the one it is classified with. -/
theorem Operation.returned_of_link {op : Operation} {ctx : Context} {d : Direction}
    {linked : LinkedOperation} (h : (op.link ctx d).outcome = .ok linked) {r : ReturnValue}
    (hr : linked.linkage.returnValue = some r) :
    ∃ c, (op.classify ctx d op.returns .returned).outcome = .ok c ∧ r.action = c.value.action := by
  obtain ⟨returnValue, hreturn, h⟩ := exists_of_bind_eq_ok h
  obtain ⟨params, -, h⟩ := exists_of_bind_eq_ok h
  obtain rfl := Except.ok.inj h
  obtain rfl : returnValue = some r := hr
  unfold linkReturn at hreturn
  split at hreturn
  · exact nomatch hreturn
  · obtain ⟨c, hc, hreturn⟩ := exists_of_bind_eq_ok hreturn
    obtain ⟨r', hr', hreturn⟩ := exists_of_bind_eq_ok hreturn
    obtain rfl := Option.some.inj (Except.ok.inj hreturn)
    refine ⟨c, hc, ?_⟩
    have hplaced : c.value.toReturnValue = .ok r' := hr'
    unfold LinkedValue.toReturnValue at hplaced
    split at hplaced
    · split at hplaced
      · rw [← Except.ok.inj hplaced]
      · exact nomatch hplaced
    · exact nomatch hplaced

open Linking in
/-- So it is in whatever an operation is linked to. -/
theorem Operation.link_captures {op : Operation} {ctx : Context} {d : Direction}
    {linked : LinkedOperation} (h : (op.link ctx d).outcome = .ok linked) {r : ReturnValue}
    (hr : linked.linkage.returnValue = some r) :
    r.action.capturesResult = op.returns.isNativeString := by
  obtain ⟨c, hc, haction⟩ := Operation.returned_of_link h hr
  rw [haction]
  exact classifyWith_captures (policy_returned op d _) hc

/-! ## The names of a unit -/

/-- The variable that captures the raw result, if there is one. -/
def Completion.capture? {ε : Type} : Completion ε → Option (Binding ε)
  | .statement _ => none
  | .answer capture _ => capture

/-- All variables that a body declares, in order. -/
def Steps.bound {ε : Type} (body : Steps ε) : List String :=
  body.bindings.map Binding.name ++ (body.completion.capture?.map Binding.name).toList

/-- What is selected of the generated parameters, if it is what Java sees, goes by the names that Java
sees. -/
theorem map_filterMap_shown {β γ : Type} {f : Parameter → Option β} {g : β → γ} {k : String → γ}
    {names : List (String × Bool)} {ps : List Parameter}
    (hf : ∀ q name seen, q.Shows name seen →
      (f q).map g = if seen = true then some (k name) else none)
    (h : List.Forall₂ (fun (n : String × Bool) q => Parameter.Shows q n.1 n.2) names ps) :
    (ps.filterMap f).map g = ((names.filter Prod.snd).map Prod.fst).map k := by
  induction h with
  | nil => rfl
  | @cons n q names ps hq _ ih =>
    have hhead := hf q n.1 n.2 hq
    cases hseen : n.2 with
    | false =>
      rw [hseen] at hhead
      have hnone : f q = none := Option.map_eq_none_iff.1 hhead
      rw [List.filterMap_cons_none hnone, List.filter_cons_of_neg (by rw [hseen]; decide), ih]
    | true =>
      rw [hseen] at hhead
      obtain ⟨b, hb, hk⟩ := Option.map_eq_some_iff.1 hhead
      rw [List.filterMap_cons_some hb, List.filter_cons_of_pos (by rw [hseen]), List.map_cons,
        List.map_cons, List.map_cons, hk, ih]

/-- What is there or not, under one name. -/
theorem map_map_of_isSome {α β γ : Type} {o : Option α} {f : α → β} {g : β → γ} {k : γ}
    {seen : Bool} (h : o.isSome = seen) (hk : ∀ a, g (f a) = k) :
    (o.map f).map g = if seen = true then some k else none := by
  subst h
  cases o with
  | none => rfl
  | some a => exact congrArg some (hk a)

namespace DowncallUnit

/-- The names in the unit of a function, read off its declaration. -/
structure NamedAs (u : DowncallUnit) (decl : FunctionDecl) : Prop where
  javaParams : u.javaMethod.params.map Param.name = decl.shown.map Naming.escape
  rawParams : u.rawMethod.params.map Param.name = decl.shown.map Naming.escape
  glueParams : u.glueMethod.params.map Param.name = decl.shown
  javaBound : u.javaBody.bound = (decl.shown ++ decl.captured).map Vocabulary.intermediate
  glueBound : u.glueBody.bound =
    (decl.params.map NamedType.name ++ decl.captured).map Vocabulary.intermediate

/-- The variable that captures a result is named like the converted value of a parameter. -/
theorem captured_of_completes {decl : FunctionDecl} {linked : LinkedOperation} {layer : Layer}
    {run : String} {c : Completion Expression}
    (hcaptures : ∀ r, linked.linkage.returnValue = some r →
      r.action.capturesResult = decl.returns.isNativeString)
    (hnone : linked.linkage.returnValue = none → decl.returns.isNativeString = false)
    (h : linked.linkage.Completes layer run c) :
    (c.capture?.map Binding.name).toList = decl.captured.map Vocabulary.intermediate := by
  unfold FunctionDecl.captured
  cases h with
  | nothing hr =>
    rw [hnone hr]
    rfl
  | converted hr hc _ =>
    rw [← hcaptures _ hr, hc]
    rfl
  | captured hr hc _ =>
    rw [← hcaptures _ hr, hc]
    rfl

variable {decl : FunctionDecl} {spec : DowncallSpec} {ctx : Context} {u : DowncallUnit}

/-- What has a unit is linked, and the unit is the code around it. -/
theorem around_of_link (h : (link (.callNative decl) spec ctx).outcome = .ok u) :
    LinkedAs (.callNative decl) ctx .downcall u.linked ∧ u.Around u.linked spec := by
  have hlink := linked_of_link h
  obtain ⟨u', hu', haround⟩ := exists_around (.call decl) hlink spec
  obtain rfl := Except.ok.inj (hu'.symm.trans h)
  exact ⟨((Operation.Offered.call decl).link_ends ctx).of_ok hlink, haround⟩

/-- The names in a unit can be read off the declaration, whatever the context. -/
theorem namedAs_of_link (h : (link (.callNative decl) spec ctx).outcome = .ok u) :
    u.NamedAs decl := by
  obtain ⟨hlinked, haround⟩ := around_of_link h
  have hshows := hlinked.shows
  have hcaptures : ∀ r, u.linked.linkage.returnValue = some r →
      r.action.capturesResult = decl.returns.isNativeString :=
    fun r hr => Operation.link_captures (linked_of_link h) hr
  have hnone : u.linked.linkage.returnValue = none → decl.returns.isNativeString = false := by
    intro hr
    rcases hlinked.returns with ⟨hvoid, -⟩ | ⟨-, r, hr', -⟩
    · exact CType.isNativeString_of_isVoid hvoid
    · exact nomatch hr.symm.trans hr'
  have hjava := haround.java_variables hlinked
  obtain ⟨bs, hbs, -, hnames⟩ := hlinked.native_variables haround.glueBody
  rw [List.nil_append, List.append_nil] at hbs
  refine ⟨?_, ?_, ?_, ?_, ?_⟩
  · rw [haround.javaMethod]
    refine map_filterMap_shown (fun q name seen hq => ?_) hshows
    exact map_map_of_isSome hq.java fun _ => congrArg Naming.escape hq.named
  · rw [haround.rawMethod]
    refine map_filterMap_shown (fun q name seen hq => ?_) hshows
    exact map_map_of_isSome hq.raw fun _ => congrArg Naming.escape hq.named
  · rw [haround.glueMethod, ← List.map_id decl.shown]
    refine map_filterMap_shown (fun q name seen hq => ?_) hshows
    exact map_map_of_isSome hq.jni fun _ => hq.named
  · rw [Steps.bound, captured_of_completes hcaptures hnone haround.javaBody.completion,
      List.map_append]
    congr 1
    rw [← map_eq_map_of_forall₂ hjava fun _ _ hb => hb.name.symm, ← List.filterMap_eq_filter]
    refine map_filterMap_shown (fun q name seen hq => ?_) hshows
    show Option.map _ (if q.behaviors.supports .javaToJni = true then some q else none) = _
    rw [Behaviors.supports, hq.taken, ← hq.intermediate]
    cases seen <;> rfl
  · rw [Steps.bound, captured_of_completes hcaptures hnone haround.glueBody.completion, hbs, hnames,
      List.map_append]
    congr 1
    rw [List.map_map]
    show List.map OperationParameter.converted (decl.params.map Operation.argument) = _
    rw [List.map_map]
    exact List.map_congr_left fun p _ => rfl

end DowncallUnit

end JniBridge
