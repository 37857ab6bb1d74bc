import JniBridge.Proofs.Interfaces
import JniBridge.Proofs.Skeleton
import JniBridge.Proofs.Spawning
/-
Operations whose types differ in typedefs that are looked through.

Such operations have the same interface: the same names, the same descriptors, the same symbol, and
callback interfaces of the same names whose dispatchers have the same descriptors.  What does differ is
what generated code spells, since a type is spelled as it was written.

  1. Operations with parameters of synonymous types, in the same roles (`Operation.Parallel`), are both in
     the language of linking or neither is (`Parallel.accepted`).
  2. Their parameters have the same faces (`Parallel.faces_eq`), and so have their methods the same
     signatures.
  3. The operations of their callbacks are parallel, too (`Operation.runCallback_parallel`), so that the
     same holds one level down (`CallbackInterface.dispatcher_eq`).
-/

namespace JniBridge

open Linking

/-! ## Parallel operations -/

/-- The parameters are called alike, play one role and are of synonymous types. -/
structure OperationParameter.Parallel (p p' : OperationParameter) : Prop where
  name : p.name = p'.name
  role : p.role = p'.role
  type : p.type.Synonymous p'.type

/-- The operations differ in their types at most, which are synonymous. -/
structure Operation.Parallel (op op' : Operation) : Prop where
  kind : op.kind = op'.kind
  name : op.name = op'.name
  returns : op.returns.Synonymous op'.returns
  params : List.Forall₂ OperationParameter.Parallel op.params op'.params

theorem OperationParameter.Parallel.symm {p p' : OperationParameter} (h : p.Parallel p') :
    p'.Parallel p := ⟨h.name.symm, h.role.symm, h.type.symm⟩

theorem Operation.Parallel.symm {op op' : Operation} (h : op.Parallel op') : op'.Parallel op :=
  ⟨h.kind.symm, h.name.symm, h.returns.symm, h.params.flip.imp fun _ _ hp => hp.symm⟩

namespace Linking

variable {op op' : Operation} {ctx : Context} {d : Direction}

/-! ## Acceptance -/

theorem Accepts.parallel {awaiting : Bool} {ps ps' : List OperationParameter}
    (h : Accepts d awaiting ps) (hps : List.Forall₂ OperationParameter.Parallel ps ps') :
    Accepts d awaiting ps' := by
  -- on the reading of the one list, in step with the other
  induction h generalizing ps' with
  | nil =>
    cases hps
    exact .nil
  | value role hp _ ih =>
    cases hps with
    | cons hsame hrest => exact .value (hsame.role ▸ role) (hsame.type.isValue_iff.1 hp) (ih hrest)
  | implicit role _ ih =>
    cases hps with
    | cons hsame hrest => exact .implicit (hsame.role ▸ role) (ih hrest)
  | pointer down role hp _ ih =>
    cases hps with
    | cons hsame hrest =>
      exact .pointer down (hsame.role ▸ role) (hsame.type.isCallback_of_isCallback hp) (ih hrest)
  | context role hp _ ih =>
    cases hps with
    | cons hsame hrest =>
      exact .context (hsame.role ▸ role) (hsame.type.isContext_iff.1 hp) (ih hrest)

/-! ## Faces -/

theorem flags_parallel (hkind : op.kind = op'.kind) {t t' : CType} (h : t.Synonymous t')
    (position : Position) : flags op d t position = flags op' d t' position := by
  have hname : deletionName? op d position = deletionName? op' d position := by
    unfold deletionName?
    rw [Operation.isSetter, Operation.isSetter, hkind]
  have hshape := h.shape_together
  unfold flags
  rw [hname]
  generalize t.shape = s, t'.shape = s' at hshape
  cases hshape with
  | error => rfl
  | ok hsame => cases hsame <;> rfl

theorem faces_parallel (hkind : op.kind = op'.kind) {ps ps' : List OperationParameter}
    (h : List.Forall₂ OperationParameter.Parallel ps ps') (awaiting : Bool) :
    faces op ctx d awaiting ps = faces op' ctx d awaiting ps' := by
  induction h generalizing awaiting with
  | nil => cases awaiting <;> rfl
  | @cons p p' ps ps' hp _ ih =>
    cases awaiting with
    | true => rw [faces, faces, hp.name, ih]
    | false =>
      rw [faces, faces, ← hp.role, ← hp.name, ← hp.type.face?_eq ctx,
        ← flags_parallel hkind hp.type]
      cases p.role with
      | structHandle | callbackObject => dsimp only; rw [ih]
      | value =>
        dsimp only
        cases p.type.face? ctx <;> (dsimp only; rw [ih])

end Linking

namespace Operation.Parallel

variable {op op' : Operation} {ctx : Context} {d : Direction}

theorem accepted (h : op.Parallel op') (haccepted : OperationAccepted op d) :
    OperationAccepted op' d :=
  ⟨h.returns.isResult_iff.1 haccepted.1, haccepted.2.parallel h.params⟩

theorem faces_eq (h : op.Parallel op') : op.faces ctx d = op'.faces ctx d := by
  rw [faces, faces, faces_parallel h.kind h.params, h.returns.isVoid_eq,
    flags_parallel h.kind h.returns]

theorem returnFace?_eq (h : op.Parallel op') : op.returnFace? ctx = op'.returnFace? ctx := by
  rw [returnFace?, returnFace?, h.returns.isVoid_eq, h.returns.face?_eq ctx]

/-- Linkages of parallel operations show the same. -/
theorem shown_eq (h : op.Parallel op') {linked linked' : LinkedOperation}
    (hlinked : (op.link ctx d).outcome = .ok linked)
    (hlinked' : (op'.link ctx d).outcome = .ok linked') :
    linked.linkage.shown = linked'.linkage.shown ∧
      linked.linkage.returnFace? = linked'.linkage.returnFace? := by
  obtain ⟨hshown, hreturns⟩ := faces_of_link hlinked
  obtain ⟨hshown', hreturns'⟩ := faces_of_link hlinked'
  rw [hshown, hshown', hreturns, hreturns']
  exact ⟨h.faces_eq, h.returnFace?_eq⟩

end Operation.Parallel

/-! ## Callbacks -/

/-- Callbacks of synonymous prototypes are parallel. -/
theorem Operation.runCallback_parallel {proto proto' : CType} (h : proto.Synonymous proto')
    {name : String} {callback : JavaType} {op op' : Operation}
    (hop : runCallback name proto callback = .ok op)
    (hop' : runCallback name proto' callback = .ok op') : op.Parallel op' := by
  have hrel := h.prototype_rel
  obtain ⟨returns, values, context, hproto, rfl⟩ := (runCallback_ends name proto callback).of_ok hop
  obtain ⟨returns', values', context', hproto', rfl⟩ :=
    (runCallback_ends name proto' callback).of_ok hop'
  rw [hproto, hproto'] at hrel
  cases hrel with
  | some hsame =>
    obtain ⟨hreturns, hparams⟩ := hsame
    have hvalues := forall₂_dropLast hparams
    have hcontext := rel_getLast? hparams
    simp only [List.dropLast_concat] at hvalues
    simp only [List.getLast?_concat] at hcontext
    cases hcontext with
    | some hcontext =>
      refine ⟨rfl, rfl, hreturns, List.rel_append ?_ (.cons ⟨rfl, rfl, hcontext⟩ .nil)⟩
      exact forall₂_mapIdx hvalues fun i t t' ht => ⟨rfl, rfl, ht⟩

/-- The interfaces for synonymous prototypes are called alike, and so are their dispatchers. -/
theorem CallbackInterface.dispatcher_eq {operation parameter : String} {proto proto' : CType}
    {ctx : Context} {cb cb' : CallbackInterface} (h : proto.Synonymous proto')
    (hcb : (create operation parameter proto ctx).outcome = .ok cb)
    (hcb' : (create operation parameter proto' ctx).outcome = .ok cb') :
    cb.name = cb'.name ∧ cb.method.caller.descriptor = cb'.method.caller.descriptor := by
  have hcaller : ∀ {proto cb}, (create operation parameter proto ctx).outcome = .ok cb →
      cb.method.caller = UpcallUnit.callerOf cb.method.linkage ctx.names := by
    intro proto cb hcb
    obtain ⟨_, _, _, linked, -, -, haround⟩ :=
      ((create_ends operation parameter proto ctx).of_ok hcb).method
    rw [haround.caller, haround.linkage]
  have hstands := standsFor_of_create hcb
  have hstands' := standsFor_of_create hcb'
  have hmade := madeFor_of_create hcb
  have hmade' := madeFor_of_create hcb'
  have hname : cb.name = cb'.name := hstands.name.trans hstands'.name.symm
  have htype : cb.type = cb'.type := hstands.type.trans hstands'.type.symm
  have hruns' := hmade'.runs
  rw [← hname, ← htype] at hruns'
  obtain ⟨hshown, hreturns⟩ :=
    (Operation.runCallback_parallel h hmade.runs hruns').shown_eq hmade.linked hmade'.linked
  refine ⟨hname, ?_⟩
  rw [hcaller hcb, hcaller hcb', UpcallUnit.descriptor_callerOf, UpcallUnit.descriptor_callerOf,
    hshown, hreturns]

namespace Linking

/-- An interface is made for the parameter, if it is linked at all. -/
def isSpawning (p : OperationParameter) : Bool := p.role == .value && p.type.isFunctionPointer

/-- The interfaces of linked parameters are those of the function pointers, in order. -/
theorem ParametersLinked.spawned {op : Operation} {ctx : Context} {d : Direction}
    {awaiting : Option CallbackInterface} {ps : List OperationParameter}
    {rs : List (ParameterLinkage × Option CallbackInterface)}
    (h : ParametersLinked op ctx d awaiting ps rs) :
    List.Forall₂ (fun p cb => ∃ proto, p.type.shape = .ok (.functionPointer proto) ∧
        (CallbackInterface.create op.name p.name proto ctx).outcome = .ok cb)
      (ps.filter isSpawning) (rs.filterMap Prod.snd) := by
  have hvalue : ∀ {p : OperationParameter}, p.type.isFunctionPointer = false →
      ¬ isSpawning p = true := by
    intro p hp
    rw [isSpawning, hp, Bool.and_false]
    exact Bool.false_ne_true
  have hrole : ∀ {p : OperationParameter}, p.role ≠ .value → ¬ isSpawning p = true := by
    intro p hp
    rw [isSpawning, beq_eq_false_iff_ne.2 hp, Bool.false_and]
    exact Bool.false_ne_true
  induction h with
  | nil => exact .nil
  | value _ settled _ ih =>
    rw [List.filter_cons_of_neg (hvalue (CType.isFunctionPointer_of_isValue settled.isValue))]
    exact ih
  | handle role _ _ _ ih | receiver role _ ih =>
    rw [List.filter_cons_of_neg (hrole (by rw [role]; exact nofun))]
    exact ih
  | pointer role _ shape _ created _ ih =>
    rw [List.filter_cons_of_pos (by rw [isSpawning, role, CType.isFunctionPointer, shape]; rfl)]
    exact .cons ⟨_, shape, created⟩ ih
  | context _ _ hcontext _ ih =>
    rw [List.filter_cons_of_neg (hvalue (CType.isFunctionPointer_of_isContext hcontext))]
    exact ih

end Linking

theorem OperationParameter.Parallel.isSpawning_eq {p p' : OperationParameter} (h : p.Parallel p') :
    isSpawning p = isSpawning p' := by
  have hshape := h.type.shape_together
  rw [isSpawning, isSpawning, h.role, CType.isFunctionPointer, CType.isFunctionPointer]
  generalize p.type.shape = s, p'.type.shape = s' at hshape
  cases hshape with
  | error => rfl
  | ok hsame => cases hsame <;> rfl

/-- What tells an interface from outside: its name and the descriptor of its dispatcher. -/
def CallbackInterface.dispatcher (cb : CallbackInterface) : String × String :=
  (cb.name, cb.method.caller.descriptor)

/-- Parallel operations have the same interfaces, as far as they can be told from outside. -/
theorem Operation.Parallel.dispatchers_eq {op op' : Operation} (h : op.Parallel op') {ctx : Context}
    {d : Direction} {linked linked' : LinkedOperation} (hlinked : LinkedAs op ctx d linked)
    (hlinked' : LinkedAs op' ctx d linked') :
    linked.callbacks.map CallbackInterface.dispatcher =
      linked'.callbacks.map CallbackInterface.dispatcher := by
  obtain ⟨rs, hrs, -, hcallbacks⟩ := hlinked.params
  obtain ⟨rs', hrs', -, hcallbacks'⟩ := hlinked'.params
  have hspawned := hrs.spawned
  have hspawned' := hrs'.spawned
  have hpointers := forall₂_filter h.params fun _ _ hp => hp.isSpawning_eq
  rw [← hcallbacks] at hspawned
  rw [← hcallbacks'] at hspawned'
  generalize linked.callbacks = cbs, op.params.filter isSpawning = ps at hspawned hpointers
  generalize linked'.callbacks = cbs', op'.params.filter isSpawning = ps' at hspawned' hpointers
  -- the interfaces keep in step with the function pointers
  induction hpointers generalizing cbs cbs' with
  | nil =>
    cases hspawned
    cases hspawned'
    rfl
  | @cons p p' ps ps' hp _ ih =>
    cases hspawned with
    | cons hcb hrest =>
      cases hspawned' with
      | cons hcb' hrest' =>
        obtain ⟨proto, hshape, hcreated⟩ := hcb
        obtain ⟨proto', hshape', hcreated'⟩ := hcb'
        have hsame := hp.type.shape_together
        rw [hshape, hshape'] at hsame
        rw [← h.name, ← hp.name] at hcreated'
        cases hsame with
        | ok hsame =>
          cases hsame with
          | functionPointer hproto =>
            obtain ⟨hname, hdescriptor⟩ := CallbackInterface.dispatcher_eq hproto hcreated hcreated'
            rw [List.map_cons, List.map_cons, ih _ hrest _ hrest', CallbackInterface.dispatcher,
              CallbackInterface.dispatcher, hname, hdescriptor]

/-! ## What Java asks for -/

/-- Two calls, getters or setters that differ in their types at most, which are synonymous. -/
inductive Operation.Synonymous : Operation → Operation → Prop
  | call {decl decl' : FunctionDecl} (name : decl.name = decl'.name)
    (returns : decl.returns.Synonymous decl'.returns)
    (params : List.Forall₂ (fun p p' => p.name = p'.name ∧ p.type.Synonymous p'.type) decl.params
      decl'.params) : Synonymous (.callNative decl) (.callNative decl')
  | get {record record' : CType} {field field' : NamedType} (receiver : record.Synonymous record')
    (name : field.name = field'.name) (type : field.type.Synonymous field'.type) :
    Synonymous (.getField record field) (.getField record' field')
  | set {record record' : CType} {field field' : NamedType} (receiver : record.Synonymous record')
    (name : field.name = field'.name) (type : field.type.Synonymous field'.type) :
    Synonymous (.setField record field) (.setField record' field')

namespace Operation

variable {op op' : Operation}

theorem receiver_parallel {record record' : CType} (h : record.Synonymous record') :
    (receiver record).Parallel (receiver record') := by
  obtain ⟨s, hs⟩ := CType.exists_pointerTo record
  obtain ⟨s', hs'⟩ := CType.exists_pointerTo record'
  refine ⟨rfl, rfl, ?_⟩
  show (CType.pointerTo record).Synonymous (CType.pointerTo record')
  rw [hs, hs']
  exact ⟨.pointer rfl h.built, .pointer rfl h.built', congrArg Skeleton.pointer h.skeleton⟩

theorem Synonymous.parallel (h : op.Synonymous op') : op.Parallel op' := by
  cases h with
  | call name returns params =>
    refine ⟨rfl, name, returns, ?_⟩
    exact List.rel_map (fun _ _ hp => ⟨hp.1, rfl, hp.2⟩) params
  | get hreceiver name type => exact ⟨rfl, name, type, .cons (receiver_parallel hreceiver) .nil⟩
  | set hreceiver name type =>
    have hvoid : CType.void.Synonymous CType.void := ⟨.scalar rfl, .scalar rfl, rfl⟩
    exact ⟨rfl, name, hvoid, .cons (receiver_parallel hreceiver) (.cons ⟨rfl, rfl, type⟩ .nil)⟩

theorem Synonymous.symm (h : op.Synonymous op') : op'.Synonymous op := by
  cases h with
  | call name returns params =>
    exact .call name.symm returns.symm (params.flip.imp fun _ _ hp => ⟨hp.1.symm, hp.2.symm⟩)
  | get hreceiver name type => exact .get hreceiver.symm name.symm type.symm
  | set hreceiver name type => exact .set hreceiver.symm name.symm type.symm

theorem Synonymous.fromJava (h : op.Synonymous op') : op.FromJava := by
  cases h with
  | call => exact .call _
  | get => exact .get _ _
  | set => exact .set _ _

/-- If one of them can be called on its receiver, so can the other. -/
theorem Synonymous.offered (h : op.Synonymous op') (hop : op.Offered) : op'.Offered := by
  have hreceiver : ∀ {record record' : CType}, record.Synonymous record' →
      Placeable .downcall (receiver record) → record'.recordName?.isSome := by
    intro record record' hrecord hplace
    rw [← hrecord.recordName?_eq]
    exact (receiver_placeable_iff.1 hplace).2
  have hplace := hop.placeable
  cases h with
  | call => exact .call _
  | get hrecord => exact .get (hreceiver hrecord (hplace _ (List.mem_cons_self ..))) _
  | set hrecord => exact .set (hreceiver hrecord (hplace _ (List.mem_cons_self ..))) _

/-- If one of them links, so does the other. -/
theorem Synonymous.links (h : op.Synonymous op') {ctx : Context} {linked : LinkedOperation}
    (hlinked : (op.link ctx .downcall).outcome = .ok linked) :
    ∃ linked', (op'.link ctx .downcall).outcome = .ok linked' := by
  have hoffered := h.fromJava.offered_of_link hlinked
  have haccepted := (link_isOk_iff ctx hoffered.placeable).1 ⟨linked, hlinked⟩
  exact (link_isOk_iff ctx (h.offered hoffered).placeable).2 (h.parallel.accepted haccepted)

end Operation

/-! ## Units -/

namespace DowncallUnit

/-- The units are the same to whoever looks them up or calls them. -/
structure SameInterface (u u' : DowncallUnit) : Prop where
  rawName : u.rawMethod.name = u'.rawMethod.name
  rawParams : u.rawMethod.params.map Param.name = u'.rawMethod.params.map Param.name
  rawDescriptor : u.rawMethod.descriptor = u'.rawMethod.descriptor
  glueMethod : u.glueMethod = u'.glueMethod
  javaDescriptor : u.javaMethod.descriptor = u'.javaMethod.descriptor
  parameters : u.linkage.allParameters.map Parameter.name =
    u'.linkage.allParameters.map Parameter.name
  callbacks : u.linked.callbacks.map CallbackInterface.dispatcher =
    u'.linked.callbacks.map CallbackInterface.dispatcher

variable {op op' : Operation} {spec : DowncallSpec} {ctx : Context} {u u' : DowncallUnit}

theorem sameInterface_of_link (h : op.Synonymous op') (hu : (link op spec ctx).outcome = .ok u)
    (hu' : (link op' spec ctx).outcome = .ok u') : u.SameInterface u' := by
  obtain ⟨hlinked, hjava, hraw, hglue⟩ := methods_of_link hu
  obtain ⟨hlinked', hjava', hraw', hglue'⟩ := methods_of_link hu'
  have hshown : u.linkage.shown = u'.linkage.shown := (h.parallel.shown_eq hlinked hlinked').1
  have hreturns : u.linkage.returnFace? = u'.linkage.returnFace? :=
    (h.parallel.shown_eq hlinked hlinked').2
  have hoffered := h.fromJava.offered_of_link hlinked
  have hnames : ∀ l : Linkage, l.allParameters.map Parameter.name = l.shown.map Param.name := by
    intro l
    rw [Linkage.shown, List.map_map]
    rfl
  constructor
  · rw [hraw, hraw']
    rfl
  · rw [hraw, hraw']
    show (u.linkage.allParameters.filterMap _).map _ = (u'.linkage.allParameters.filterMap _).map _
    rw [Linkage.name_rawParams, Linkage.name_rawParams, hshown]
  · rw [hraw, hraw', descriptor_rawMethodOf, descriptor_rawMethodOf, hshown, hreturns]
  · rw [hglue, hglue', glueMethodOf_eq, glueMethodOf_eq, hshown, hreturns]
  · rw [hjava, hjava', descriptor_javaMethodOf, descriptor_javaMethodOf, hshown, hreturns]
  · rw [hnames, hnames, hshown]
  · exact h.parallel.dispatchers_eq ((hoffered.link_ends ctx).of_ok hlinked)
      (((h.offered hoffered).link_ends ctx).of_ok hlinked')

/-- If one of them has a unit, so has the other. -/
theorem exists_link (h : op.Synonymous op') (hu : (link op spec ctx).outcome = .ok u) :
    ∃ u', (link op' spec ctx).outcome = .ok u' := by
  obtain ⟨hlinked, -⟩ := methods_of_link hu
  obtain ⟨linked', hlinked'⟩ := h.links hlinked
  obtain ⟨u', hu', -⟩ :=
    exists_around (h.offered (h.fromJava.offered_of_link hlinked)) hlinked' spec
  exact ⟨u', hu'⟩

/-- Typedefs that are not recognised do not show: operations that differ in them link together, to units of
one interface. -/
theorem link_synonymous (h : op.Synonymous op') (spec : DowncallSpec) (ctx : Context) :
    Together SameInterface (fun _ _ => True) (link op spec ctx).outcome
      (link op' spec ctx).outcome := by
  cases hu : (link op spec ctx).outcome with
  | ok u =>
    obtain ⟨u', hu'⟩ := exists_link h hu
    rw [hu']
    exact .ok (sameInterface_of_link h hu hu')
  | error e =>
    cases hu' : (link op' spec ctx).outcome with
    | error e' => exact .error trivial
    | ok u' =>
      obtain ⟨u, hok⟩ := exists_link h.symm hu'
      exact nomatch hu.symm.trans hok

/-- A visitor with typedefs for the result, for the pointer, for what it points at and for both contexts;
the recognised ones stay. -/
theorem link_synonymous_visit :
    ∃ (decl decl' : FunctionDecl) (u u' : DowncallUnit),
      decl = ⟨"visit", .void,
        [⟨"length", .typedefOf "size_t" (.ofScalar .unsignedLong "unsigned long")⟩,
          ⟨"visitor", .pointerTo (.function .void
            [.typedefOf "uint8_t" (.ofScalar .unsignedChar "unsigned char"), .voidPointer])⟩,
          ⟨"context", .voidPointer⟩]⟩ ∧
      decl' = ⟨"visit", .typedefOf "nothing" .void,
        [⟨"length", .typedefOf "extent" (.typedefOf "size_t" (.ofScalar .unsignedLong "unsigned long"))⟩,
          ⟨"visitor", .typedefOf "visitor" (.pointerTo (.typedefOf "visit" (.function .void
            [.typedefOf "uint8_t" (.typedefOf "octet" (.ofScalar .unsignedChar "unsigned char")),
              .typedefOf "cookie" .voidPointer])))⟩,
          ⟨"context", .typedefOf "cookie" .voidPointer⟩]⟩ ∧
      (Operation.callNative decl).Synonymous (.callNative decl') ∧
      (link (.callNative decl) (.ofName "visit" (.ofClass "geo" "Native"))
        { package := "geo", container := "Native" }).outcome = .ok u ∧
      (link (.callNative decl') (.ofName "visit" (.ofClass "geo" "Native"))
        { package := "geo", container := "Native" }).outcome = .ok u' ∧
      u.SameInterface u' := by
  have hreturns : CType.void.Synonymous (.typedefOf "nothing" .void) :=
    ⟨.scalar rfl, .typedef rfl (.scalar rfl), rfl⟩
  have hlength : CType.Synonymous (.typedefOf "size_t" (.ofScalar .unsignedLong "unsigned long"))
      (.typedefOf "extent" (.typedefOf "size_t" (.ofScalar .unsignedLong "unsigned long"))) :=
    ⟨.typedef rfl (.scalar rfl), .typedef rfl (.typedef rfl (.scalar rfl)), rfl⟩
  have hcontext : CType.voidPointer.Synonymous (.typedefOf "cookie" .voidPointer) :=
    ⟨.pointer rfl (.scalar rfl), .typedef rfl (.pointer rfl (.scalar rfl)), rfl⟩
  have hvisitor : CType.Synonymous (.pointerTo (.function .void
        [.typedefOf "uint8_t" (.ofScalar .unsignedChar "unsigned char"), .voidPointer]))
      (.typedefOf "visitor" (.pointerTo (.typedefOf "visit" (.function .void
        [.typedefOf "uint8_t" (.typedefOf "octet" (.ofScalar .unsignedChar "unsigned char")),
          .typedefOf "cookie" .voidPointer])))) := by
    refine ⟨.pointer rfl (.prototype rfl (.scalar rfl) ?_),
      .typedef rfl (.pointer rfl (.typedef rfl (.prototype rfl (.scalar rfl) ?_))), rfl⟩
    · refine List.forall_mem_cons.2 ⟨.typedef rfl (.scalar rfl), ?_⟩
      exact List.forall_mem_singleton.2 hcontext.built
    · refine List.forall_mem_cons.2 ⟨.typedef rfl (.typedef rfl (.scalar rfl)), ?_⟩
      exact List.forall_mem_singleton.2 hcontext.built'
  have hsynonymous := @Operation.Synonymous.call
    ⟨"visit", _, [⟨"length", _⟩, ⟨"visitor", _⟩, ⟨"context", _⟩]⟩
    ⟨"visit", _, [⟨"length", _⟩, ⟨"visitor", _⟩, ⟨"context", _⟩]⟩ (Eq.refl "visit") hreturns
    (.cons ⟨Eq.refl "length", hlength⟩ (.cons ⟨Eq.refl "visitor", hvisitor⟩
      (.cons ⟨Eq.refl "context", hcontext⟩ .nil)))
  obtain ⟨u', hu', hsame⟩ := (link_synonymous hsynonymous (.ofName "visit" (.ofClass "geo" "Native"))
    { package := "geo", container := "Native" }).exists_ok rfl
  exact ⟨_, _, _, u', rfl, rfl, hsynonymous, rfl, hu', hsame⟩

end DowncallUnit

end JniBridge
