import JniBridge.Proofs.Linked
/-
What the bodies around a linked operation do.

A body binds, in order, the parameters that take its edge (`Linkage.Conducts`), and it is always
written: every parameter has an expression on every edge, and so has the result.  On the native layer
the parameters that take the edge are exactly those of the operation, one variable for each
(`LinkedAs.native_parameters`): flags end at the glue function.
-/

namespace JniBridge

/-! ## The generated parameters -/

/-- The variable that holds an operation's parameter on the native layer. -/
def OperationParameter.converted (p : OperationParameter) : String :=
  if p.role = .structHandle then Vocabulary.structPointer else Vocabulary.intermediate p.name

namespace Linking

variable {op : Operation} {ctx : Context} {d : Direction} {awaiting : Option CallbackInterface}
  {ps : List OperationParameter} {rs : List (ParameterLinkage × Option CallbackInterface)}

theorem form_of_mem_flags {t : CType} {position : Position} {q : Parameter}
    (h : q ∈ flags op d t position) : Parameter.Form d q := by
  obtain ⟨name, hname, rfl⟩ := mem_flags h
  obtain rfl := direction_of_deletionName hname
  exact .flag name

/-- Flags do not reach native code. -/
theorem flag_not_native {t : CType} {position : Position} {q : Parameter}
    (h : q ∈ flags op d t position) : q.behaviors.supports d.nativeEdge = false := by
  obtain ⟨name, hname, rfl⟩ := mem_flags h
  obtain rfl := direction_of_deletionName hname
  rfl

theorem flag_not_receiver {t : CType} {position : Position} {q : Parameter}
    (h : q ∈ flags op d t position) : q.isReceiver = false := by
  obtain ⟨name, hname, rfl⟩ := mem_flags h
  rfl

/-- Whatever a parameter gives rise to is of one of the five forms. -/
theorem ParametersLinked.form (h : ParametersLinked op ctx d awaiting ps rs) :
    ∀ r ∈ rs, ∀ q ∈ r.1.generated, Parameter.Form d q := by
  induction h with
  | nil => exact List.forall_mem_nil _
  | value role settled _ ih =>
    refine List.forall_mem_cons.2 ⟨List.forall_mem_cons.2 ⟨?_, fun q hq => ?_⟩, ih⟩
    · exact .plain (settled.carried.placed _)
    · exact form_of_mem_flags (settled.companions ▸ hq)
  | handle role down _ _ ih =>
    subst down
    exact List.forall_mem_cons.2 ⟨List.forall_mem_singleton.2 (.handle _ _ _), ih⟩
  | receiver role _ ih =>
    exact List.forall_mem_cons.2 ⟨List.forall_mem_singleton.2 (.receiver _ _ _ _), ih⟩
  | pointer role down _ _ _ _ ih =>
    subst down
    exact List.forall_mem_cons.2 ⟨List.forall_mem_singleton.2 (.closure _ _ _), ih⟩
  | context role down _ _ ih =>
    subst down
    refine List.forall_mem_cons.2 ⟨List.forall_mem_singleton.2 ?_, ih⟩
    exact .plain ((contextValue_carried _).placed _)

/-- The Java call is made on a parameter only if the operation has a callback's receiver. -/
theorem ParametersLinked.not_receiver (h : ParametersLinked op ctx d awaiting ps rs)
    (hps : ∀ p ∈ ps, ∀ callback, p.role ≠ .callbackObject callback) :
    ∀ r ∈ rs, ∀ q ∈ r.1.generated, q.isReceiver = false := by
  induction h with
  | nil => exact List.forall_mem_nil _
  | value role settled _ ih =>
    have hrest := ih fun p hp => hps p (List.mem_cons_of_mem _ hp)
    refine List.forall_mem_cons.2 ⟨List.forall_mem_cons.2 ⟨?_, fun q hq => ?_⟩, hrest⟩
    · exact settled.carried.notReceiver
    · exact flag_not_receiver (settled.companions ▸ hq)
  | receiver role _ _ => exact absurd role (hps _ List.mem_cons_self _)
  | handle _ _ _ _ ih | pointer _ _ _ _ _ _ ih | context _ _ _ _ ih =>
    have hrest := ih fun p hp => hps p (List.mem_cons_of_mem _ hp)
    exact List.forall_mem_cons.2 ⟨List.forall_mem_singleton.2 rfl, hrest⟩

/-- How an operation's parameter gets into native code: as one variable, its companions staying
behind. -/
structure Reaches (d : Direction) (p : OperationParameter) (l : ParameterLinkage) : Prop where
  named : l.parameter.name = p.name
  direction : l.parameter.direction = d
  typed : l.parameter.nativeType.isSome
  intermediate : l.parameter.intermediate = p.converted
  taken : l.parameter.behaviors.supports d.nativeEdge
  companions : ∀ q ∈ l.companions, q.behaviors.supports d.nativeEdge = false

theorem Reaches.of_carried {v : LinkedValue} {t : CType} {p : OperationParameter}
    {companions : List Parameter} (h : v.Carried t d) (role : p.role ≠ .structHandle)
    (hcompanions : ∀ q ∈ companions, q.behaviors.supports d.nativeEdge = false) :
    Reaches d p ⟨v.placed p.name d, companions⟩ where
  named := rfl
  direction := rfl
  typed := by rw [(h.placed p.name).native]; rfl
  intermediate := by
    rw [(h.placed p.name).intermediate, OperationParameter.converted, if_neg role]
  taken := by
    rw [(h.placed p.name).behaviors]
    cases d <;> rfl
  companions := hcompanions

theorem Reaches.of_receiver (d : Direction) {callback : JavaType} {p : OperationParameter}
    (role : p.role = .callbackObject callback) :
    Reaches d p ⟨(linkCallbackObject p.type callback).placed p.name d, []⟩ where
  named := rfl
  direction := rfl
  typed := rfl
  intermediate := by
    have hne : p.role ≠ .structHandle := by rw [role]; exact nofun
    rw [OperationParameter.converted, if_neg hne]
    rfl
  taken := by cases d <;> rfl
  companions := List.forall_mem_nil _

/-- Every parameter of the operation gets into native code. -/
theorem ParametersLinked.reaches (h : ParametersLinked op ctx d awaiting ps rs) :
    List.Forall₂ (fun p r => Reaches d p r.1) ps rs := by
  induction h with
  | nil => exact .nil
  | value role settled _ ih =>
    refine .cons (Reaches.of_carried settled.carried (by rw [role]; exact nofun) ?_) ih
    exact fun q hq => flag_not_native (settled.companions ▸ hq)
  | handle role down _ _ ih =>
    subst down
    refine .cons ⟨rfl, rfl, rfl, ?_, rfl, List.forall_mem_nil _⟩ ih
    rw [OperationParameter.converted, if_pos role]
    rfl
  | receiver role _ ih => exact .cons (Reaches.of_receiver _ role) ih
  | @pointer p _ _ _ _ role down _ _ _ _ ih =>
    subst down
    refine .cons ⟨rfl, rfl, rfl, ?_, rfl, List.forall_mem_nil _⟩ ih
    have hne : p.role ≠ .structHandle := by rw [role]; exact nofun
    rw [OperationParameter.converted, if_neg hne]
    rfl
  | context role down _ _ ih =>
    subst down
    exact .cons (Reaches.of_carried (contextValue_carried _) (by rw [role]; exact nofun)
      (List.forall_mem_nil _)) ih

end Linking

/-! ## Bodies -/

/-- The variable holds the parameter as it is converted on the edge. -/
structure Binding.Holds (b : Binding Expression) (p : Parameter) (e : Edge) : Prop where
  type : b.type = p.bindingType e
  name : b.name = p.intermediate
  value : p.on e = .ok (some b.value)

namespace Linkage

/-- The end of a body returns what `run` gives, converted back, if the operation returns anything;
`run` is written once, behind a variable if the conversion needs it more often. -/
inductive Completes (l : Linkage) (layer : Layer) (run : String) : Completion Expression → Prop
  | nothing (hr : l.returnValue = none) : Completes l layer run (.statement run)
  | converted {r text} (hr : l.returnValue = some r) (hc : r.action.capturesResult = false)
    (ht : r.action.transit? run (layer.returnEdge l.direction) l.direction = some text) :
    Completes l layer run (.answer none (.literal text))
  | captured {r text} (hr : l.returnValue = some r) (hc : r.action.capturesResult)
    (ht : r.action.transit? Vocabulary.returnValue (layer.returnEdge l.direction) l.direction =
      some text) :
    Completes l layer run
      (.answer (some ⟨r.captureType layer l.direction, Vocabulary.returnValue, .literal run⟩)
        (.literal text))

/-- The body binds the parameters that take the layer's edge, in order, and then does what `run`
says. -/
structure Conducts (l : Linkage) (layer : Layer) (before after : List (Binding Expression))
    (run : String) (b : Body) : Prop where
  bindings : ∃ bs, b.bindings = before ++ bs ++ after ∧
    List.Forall₂ (fun p b => b.Holds p (layer.parameterEdge l.direction))
      (l.allParameters.filter fun p => p.behaviors.supports (layer.parameterEdge l.direction)) bs
  completion : l.Completes layer run b.completion

/-- Every parameter is of one of the five forms, and a result can be converted on every edge. -/
structure Sound (l : Linkage) : Prop where
  form : ∀ p ∈ l.allParameters, Parameter.Form l.direction p
  converts : ∀ r, l.returnValue = some r → r.action.Converts

/-- Realised parameters are bound where they take the edge and left out where they do not. -/
theorem mapM_binding_ok (e : Edge) (ps : List Parameter) (h : ∀ p ∈ ps, p.Realised) :
    ∃ xs, (ps.mapM fun p : Parameter => p.binding e) = .ok xs ∧
      List.Forall₂ (fun p b => b.Holds p e) (ps.filter fun p => p.behaviors.supports e)
        (xs.filterMap id) := by
  -- what is absent is left out of both lists, what is there is added to both
  induction ps with
  | nil => exact ⟨[], rfl, .nil⟩
  | cons p ps ih =>
    obtain ⟨x, hx, hsome⟩ := h p List.mem_cons_self e
    obtain ⟨xs, hxs, hbound⟩ := ih fun q hq => h q (List.mem_cons_of_mem _ hq)
    refine ⟨x.map (fun v => ⟨p.bindingType e, p.intermediate, v⟩) :: xs, ?_, ?_⟩
    · rw [List.mapM_cons, hxs, Parameter.binding, hx]
      rfl
    · cases x with
      | none =>
        rw [List.filter_cons_of_neg (by rw [← hsome]; exact Bool.false_ne_true)]
        exact hbound
      | some v =>
        rw [List.filter_cons_of_pos (by rw [← hsome]; rfl)]
        exact .cons ⟨rfl, rfl, hx⟩ hbound

/-- What can be converted on every edge can be returned on either layer. -/
theorem completion_ok (l : Linkage) (layer : Layer) (run : String)
    (h : ∀ r, l.returnValue = some r → r.action.Converts) :
    ∃ c, l.completion layer run = .ok c ∧ l.Completes layer run c := by
  cases hr : l.returnValue with
  | none => exact ⟨.statement run, by rw [completion, hr], .nothing hr⟩
  | some r =>
    have hconverts := h r hr (layer.returnEdge l.direction) l.direction
    -- a captured result is converted under its name, any other one as it is called
    cases hcaptures : r.action.capturesResult with
    | false =>
      have hsome := (r.action.transit?_isSome_iff run _ _).2 hconverts
      obtain ⟨text, htext⟩ := Option.isSome_iff_exists.1 hsome
      refine ⟨_, ?_, .converted hr hcaptures htext⟩
      rw [completion, hr]
      simp only [ReturnValue.completion, hcaptures, Action.transit, htext]
      rfl
    | true =>
      have hsome := (r.action.transit?_isSome_iff Vocabulary.returnValue _ _).2 hconverts
      obtain ⟨text, htext⟩ := Option.isSome_iff_exists.1 hsome
      refine ⟨_, ?_, .captured hr hcaptures htext⟩
      rw [completion, hr]
      simp only [ReturnValue.completion, hcaptures, Action.transit, htext]
      rfl

/-- Around a sound linkage every body can be written. -/
theorem Sound.body_ok {l : Linkage} (h : l.Sound) (layer : Layer)
    (before after : List (Binding Expression)) (run : String) :
    ∃ b, l.body layer before after run = .ok b ∧ l.Conducts layer before after run b := by
  obtain ⟨xs, hxs, hbound⟩ := mapM_binding_ok (layer.parameterEdge l.direction) l.allParameters
    fun p hp => (h.form p hp).realised
  obtain ⟨c, hc, hcompletes⟩ := completion_ok l layer run h.converts
  refine ⟨⟨before ++ xs.filterMap id ++ after, c⟩, ?_, ⟨⟨_, rfl, hbound⟩, hcompletes⟩⟩
  rw [body, bindings, hxs, hc]
  rfl

end Linkage

/-! ## What linking yields -/

namespace Linking

variable {op : Operation} {ctx : Context} {d : Direction} {linked : LinkedOperation}

/-- The companions of a result are its flags. -/
theorem LinkedAs.mem_companions (h : LinkedAs op ctx d linked) {q : Parameter}
    (hq : q ∈ (linked.linkage.returnValue.map ReturnValue.companions).getD []) :
    q ∈ flags op d op.returns .returned := by
  rcases h.returns with ⟨-, hr⟩ | ⟨-, r, hr, hsettled⟩
  · rw [hr] at hq
    exact absurd hq List.not_mem_nil
  · rw [hr] at hq
    have hmem : q ∈ r.companions := hq
    rwa [hsettled.companions] at hmem

/-- What holds of whatever the parameters give rise to, and of flags, holds of all parameters. -/
theorem LinkedAs.forall_parameters (h : LinkedAs op ctx d linked) {P : Parameter → Prop}
    (hparams : ∀ rs, ParametersLinked op ctx d none op.params rs →
      ∀ r ∈ rs, ∀ q ∈ r.1.generated, P q)
    (hflags : ∀ q ∈ flags op d op.returns .returned, P q) :
    ∀ q ∈ linked.linkage.allParameters, P q := by
  intro q hq
  obtain ⟨rs, hrs, hmap, -⟩ := h.params
  rcases List.mem_append.1 hq with hq | hq
  · obtain ⟨l, hl, hgen⟩ := List.mem_flatMap.1 hq
    rw [hmap] at hl
    obtain ⟨r, hr, rfl⟩ := List.mem_map.1 hl
    exact hparams rs hrs r hr q hgen
  · exact hflags q (h.mem_companions hq)

theorem LinkedAs.sound (h : LinkedAs op ctx d linked) : linked.linkage.Sound where
  form := by
    rw [h.direction]
    exact h.forall_parameters (fun _ hrs => hrs.form) fun _ hq => form_of_mem_flags hq
  converts := by
    intro r hr
    rcases h.returns with ⟨-, hnone⟩ | ⟨-, r', hr', hsettled⟩
    · exact nomatch hr.symm.trans hnone
    · obtain rfl := Option.some.inj (hr.symm.trans hr')
      exact hsettled.converts

/-- Without a callback's receiver among the parameters, the Java call is made on none. -/
theorem LinkedAs.not_receiver (h : LinkedAs op ctx d linked)
    (hps : ∀ p ∈ op.params, ∀ callback, p.role ≠ .callbackObject callback) :
    ∀ q ∈ linked.linkage.allParameters, q.isReceiver = false :=
  h.forall_parameters (fun _ hrs => hrs.not_receiver hps) fun _ hq => flag_not_receiver hq

theorem LinkedAs.reaches (h : LinkedAs op ctx d linked) :
    List.Forall₂ (Reaches d) op.params linked.linkage.params := by
  obtain ⟨rs, hrs, hmap, -⟩ := h.params
  rw [hmap]
  exact List.forall₂_map_right_iff.2 hrs.reaches

/-- Of what is generated, the parameters of the operation get into native code and nothing else
does. -/
theorem filter_native {ps : List OperationParameter} {ls : List ParameterLinkage}
    (h : List.Forall₂ (Reaches d) ps ls) :
    (ls.flatMap ParameterLinkage.generated).filter (fun q => q.behaviors.supports d.nativeEdge) =
      ls.map ParameterLinkage.parameter := by
  induction h with
  | nil => rfl
  | @cons p l ps ls hl _ ih =>
    have hcompanions : l.companions.filter (fun q => q.behaviors.supports d.nativeEdge) = [] :=
      List.filter_eq_nil_iff.2 fun q hq => by rw [hl.companions q hq]; exact Bool.false_ne_true
    rw [List.flatMap_cons, List.filter_append, ih]
    show (l.parameter :: l.companions).filter _ ++ _ = _
    rw [List.filter_cons_of_pos (by exact hl.taken), hcompanions]
    rfl

/-- The parameters that are bound on the native layer are those of the operation. -/
theorem LinkedAs.native_parameters (h : LinkedAs op ctx d linked) :
    linked.linkage.allParameters.filter (fun q => q.behaviors.supports d.nativeEdge) =
      linked.linkage.params.map ParameterLinkage.parameter := by
  have hreturn : ((linked.linkage.returnValue.map ReturnValue.companions).getD []).filter
      (fun q => q.behaviors.supports d.nativeEdge) = [] := by
    refine List.filter_eq_nil_iff.2 fun q hq => ?_
    rw [flag_not_native (h.mem_companions hq)]
    exact Bool.false_ne_true
  rw [Linkage.allParameters, List.filter_append, filter_native h.reaches, hreturn, List.append_nil]

/-- Native code refers to its parameters by the variables that hold them. -/
theorem LinkedAs.arguments (h : LinkedAs op ctx d linked) :
    linked.linkage.params.map (fun l => l.parameter.nativeExpression) =
      op.params.map OperationParameter.converted := by
  refine (map_eq_map_of_forall₂ h.reaches fun p l hl => ?_).symm
  rw [Parameter.nativeExpression, Parameter.convertedOn, hl.direction, if_pos hl.taken]
  exact hl.intermediate.symm

/-- A body on the native layer binds one variable for each parameter of the operation. -/
theorem LinkedAs.native_variables (h : LinkedAs op ctx d linked)
    {before after : List (Binding Expression)} {run : String} {b : Body}
    (hb : linked.linkage.Conducts .native before after run b) :
    ∃ bs, b.bindings = before ++ bs ++ after ∧
      List.Forall₂ (fun l b => Binding.Holds b l.parameter d.nativeEdge) linked.linkage.params bs ∧
      bs.map Binding.name = op.params.map OperationParameter.converted := by
  obtain ⟨bs, hbs, hholds⟩ := hb.bindings
  rw [h.direction] at hholds
  have hbound : List.Forall₂ (fun p b => Binding.Holds b p d.nativeEdge)
      (linked.linkage.params.map ParameterLinkage.parameter) bs := by
    rw [← h.native_parameters]
    exact hholds
  have hparams := List.forall₂_map_left_iff.1 hbound
  refine ⟨bs, hbs, hparams, ?_⟩
  -- a variable is named by its parameter, and that is known from the operation
  rw [← map_eq_map_of_forall₂ hparams fun _ _ hl => hl.name.symm]
  exact (map_eq_map_of_forall₂ h.reaches fun _ _ hl => hl.intermediate.symm).symm

end Linking

end JniBridge
