import JniBridge.Proofs.Callback
/-
Which declarations can be linked.

`Operation.link_isOk_iff` decides it for operations; here it is read off for the operations that Java
asks for.  A function links exactly if its result can be returned and its parameter types are in
`CType.Arguments`; a getter, if its field can be returned; a setter, if its field is an ordinary value.
The context of a run plays no part in it.
-/

namespace JniBridge

open Linking

/-! ## What Java asks for -/

/-- The operations that generated Java is made of, on receivers of whatever type. -/
inductive Operation.FromJava : Operation → Prop
  | call (decl : FunctionDecl) : FromJava (.callNative decl)
  | get (record : CType) (field : NamedType) : FromJava (.getField record field)
  | set (record : CType) (field : NamedType) : FromJava (.setField record field)

/-- Those that Java can really call: functions, and accesses to the fields of structs. -/
inductive Operation.Offered : Operation → Prop
  | call (decl : FunctionDecl) : Offered (.callNative decl)
  | get {record : CType} (hrecord : record.recordName?.isSome) (field : NamedType) :
    Offered (.getField record field)
  | set {record : CType} (hrecord : record.recordName?.isSome) (field : NamedType) :
    Offered (.setField record field)

namespace Operation

theorem role_of_mem_callNative (decl : FunctionDecl) :
    ∀ p ∈ (Operation.callNative decl).params, p.role = .value := by
  intro p hp
  obtain ⟨param, -, rfl⟩ := List.mem_map.1 hp
  rfl

/-- The receiver of a field access is a pointer to the struct, however the struct is named. -/
theorem receiver_pointee (record : CType) : (receiver record).type.pointee? = some record := by
  show (CType.pointerTo record).pointee? = some record
  unfold CType.pointerTo
  split <;> rfl

/-- The receiver of a field access is placed in downcalls, if it points at a record. -/
theorem receiver_placeable_iff {record : CType} {d : Direction} :
    Placeable d (receiver record) ↔ d = .downcall ∧ record.recordName?.isSome := by
  unfold Placeable
  rw [receiver_pointee, Option.isSome_iff_exists]
  exact ⟨fun h => h rfl, fun h _ => h⟩

theorem placeable_of_value {p : OperationParameter} {d : Direction} (h : p.role = .value) :
    Placeable d p := fun role => nomatch h.symm.trans role

/-- Whatever Java asks for, no receiver stands in the way of linking it. -/
theorem Offered.placeable {op : Operation} (h : op.Offered) :
    ∀ p ∈ op.params, Placeable .downcall p := by
  cases h with
  | call decl => exact fun p hp => placeable_of_value (role_of_mem_callNative decl p hp)
  | get hrecord field => exact List.forall_mem_singleton.2 (receiver_placeable_iff.2 ⟨rfl, hrecord⟩)
  | set hrecord field =>
    refine List.forall_mem_cons.2 ⟨receiver_placeable_iff.2 ⟨rfl, hrecord⟩, ?_⟩
    exact List.forall_mem_singleton.2 (placeable_of_value rfl)

/-- Java asks for no callbacks. -/
theorem Offered.not_callback {op : Operation} (h : op.Offered) :
    ∀ p ∈ op.params, ∀ callback, p.role ≠ .callbackObject callback := by
  intro p hp callback
  cases h with
  | call decl =>
    rw [role_of_mem_callNative decl p hp]
    exact nofun
  | get _ field =>
    obtain rfl := List.mem_singleton.1 hp
    exact nofun
  | set _ field =>
    rcases List.mem_pair.1 hp with rfl | rfl
    · exact nofun
    · exact nofun

/-- Linking what Java asks for ends in a linkage, or refuses what is outside the language. -/
theorem Offered.link_ends {op : Operation} (h : op.Offered) (ctx : Context) :
    Ends (op.link ctx .downcall).outcome (LinkedAs op ctx .downcall)
      fun e => e.isRefusal ∧ ¬ OperationAccepted op .downcall :=
  Operation.link_ends ctx h.placeable

end Operation

/-! ## Receivers that cannot be placed -/

namespace Linking

/-- An operation on a receiver that cannot be placed cannot be linked. -/
theorem linkWith_ne_ok_of_receiver {policy : PointerPolicy} {op : Operation} {ctx : Context}
    {d : Direction} {p : OperationParameter} {ps : List OperationParameter}
    {linked : LinkedOperation} (hps : op.params = p :: ps) (hplace : ¬ Placeable d p) :
    (linkWith policy op ctx d).outcome ≠ .ok linked := by
  obtain ⟨role, hunplaced⟩ := Classical.not_imp.1 hplace
  intro hok
  obtain ⟨r, -, hok⟩ := exists_of_bind_eq_ok hok
  obtain ⟨rs, hparams, -⟩ := exists_of_bind_eq_ok hok
  rw [hps, linkParameters] at hparams
  obtain ⟨c, hc, hparams⟩ := exists_of_bind_eq_ok hparams
  obtain ⟨-, -, hparams⟩ := exists_of_bind_eq_ok hparams
  obtain ⟨l, hl, -⟩ := exists_of_bind_eq_ok hparams
  rw [classifyParameter, role] at hc
  have hhandle : (linkHandle p.type).map (fun v => ({ value := v } : Classified)) = .ok c := hc
  cases hrecord : p.type.pointee?.bind CType.recordName? with
  | none =>
    rw [linkHandle, hrecord] at hhandle
    cases hhandle
  | some record =>
    rw [linkHandle_eq hrecord] at hhandle
    obtain rfl := Except.ok.inj hhandle
    cases d with
    | downcall => exact hunplaced ⟨rfl, record, hrecord⟩
    | upcall =>
      -- a handle does not get to where an upcall ends
      have hmissing : (handleValue p.type record).toParameterLinkage p.name .upcall =
          .error (.edgeMissing p.name (Action.structHandle record).name .jniToJava) := rfl
      have hplaced : (handleValue p.type record).toParameterLinkage p.name .upcall = .ok l := hl
      rw [hmissing] at hplaced
      cases hplaced

end Linking

/-- Only what Java can really call is ever linked. -/
theorem Operation.FromJava.offered_of_link {op : Operation} (h : op.FromJava) {ctx : Context}
    {linked : LinkedOperation} (hok : (op.link ctx .downcall).outcome = .ok linked) :
    op.Offered := by
  -- what links has a receiver that can be placed
  have hplace : ∀ p ps, op.params = p :: ps → Placeable .downcall p := fun p ps hps =>
    Classical.not_not.1 fun hplace => linkWith_ne_ok_of_receiver hps hplace hok
  cases h with
  | call decl => exact .call decl
  | get record field => exact .get (Operation.receiver_placeable_iff.1 (hplace _ _ rfl)).2 field
  | set record field => exact .set (Operation.receiver_placeable_iff.1 (hplace _ _ rfl)).2 field

/-! ## The language, operation by operation -/

namespace Linking

theorem accepts_singleton_iff {d : Direction} {p : OperationParameter} (role : p.role = .value) :
    Accepts d false [p] ↔ p.type.IsValue := by
  constructor
  · rintro (_ | ⟨_, hp, _⟩ | ⟨himplicit, _⟩ | ⟨_, _, _, rest⟩)
    · exact hp
    · exact absurd role himplicit
    · exact nomatch rest
  · intro hp
    exact .value role hp .nil

theorem callNative_accepted_iff (decl : FunctionDecl) :
    OperationAccepted (.callNative decl) .downcall ↔
      decl.returns.IsResult ∧ CType.Arguments (decl.params.map NamedType.type) := by
  have htypes : (Operation.callNative decl).params.map OperationParameter.type =
      decl.params.map NamedType.type := by
    rw [Operation.callNative, List.map_map]
    rfl
  have harguments := accepts_arguments_iff (Operation.role_of_mem_callNative decl)
  rw [htypes] at harguments
  exact and_congr_right fun _ => harguments

theorem getField_accepted_iff (record : CType) (field : NamedType) :
    OperationAccepted (.getField record field) .downcall ↔ field.type.IsResult :=
  ⟨fun h => h.1, fun h => ⟨h, .implicit nofun .nil⟩⟩

theorem setField_accepted_iff (record : CType) (field : NamedType) :
    OperationAccepted (.setField record field) .downcall ↔ field.type.IsValue := by
  have hreceiver : (Operation.receiver record).role ≠ .value := nofun
  constructor
  · rintro ⟨-, haccepts⟩
    exact (accepts_singleton_iff rfl).1 ((accepts_implicit_iff hreceiver).1 haccepts)
  · intro h
    exact ⟨Or.inl rfl, .implicit hreceiver ((accepts_singleton_iff rfl).2 h)⟩

end Linking

/-! ## Acceptance -/

/-- A refusal costs one declaration, never the run. -/
theorem LinkError.severity_of_isRefusal {e : LinkError} (h : e.isRefusal) :
    e.severity = .unsupportedType ∨ e.severity = .unsupportedScenario := by
  cases e with
  | unsupportedType => exact Or.inl rfl
  | contextNotTaken | contextNotPassed | callbackReturned | callbackInCallback => exact Or.inr rfl
  | _ => exact absurd h Bool.false_ne_true

/-- Linking accepts exactly the grammar, whatever the context, and what it rejects is unsupported. -/
theorem link_isOk_iff_grammar (ctx : Context) :
    (∀ decl : FunctionDecl,
      (∃ linked, ((Operation.callNative decl).link ctx .downcall).outcome = .ok linked) ↔
        decl.returns.IsResult ∧ CType.Arguments (decl.params.map NamedType.type)) ∧
    (∀ (record : CType) (field : NamedType), record.recordName?.isSome →
      ((∃ linked, ((Operation.getField record field).link ctx .downcall).outcome = .ok linked) ↔
        field.type.IsResult) ∧
      ((∃ linked, ((Operation.setField record field).link ctx .downcall).outcome = .ok linked) ↔
        field.type.IsValue)) ∧
    ∀ (op : Operation) (e : LinkError), op.Offered → (op.link ctx .downcall).outcome = .error e →
      e.severity = .unsupportedType ∨ e.severity = .unsupportedScenario := by
  refine ⟨fun decl => ?_, fun record field hrecord => ⟨?_, ?_⟩, fun op e hop he => ?_⟩
  · rw [← callNative_accepted_iff]
    exact Operation.link_isOk_iff ctx (Operation.Offered.call decl).placeable
  · rw [← getField_accepted_iff record]
    exact Operation.link_isOk_iff ctx (Operation.Offered.get hrecord field).placeable
  · rw [← setField_accepted_iff record]
    exact Operation.link_isOk_iff ctx (Operation.Offered.set hrecord field).placeable
  · obtain ⟨hrefusal, -⟩ := (hop.link_ends ctx).of_error he
    exact LinkError.severity_of_isRefusal hrefusal

/-- A field of a struct can be written, and a visitor without its context is refused. -/
theorem link_isOk_iff_grammar_visitor :
    (CType.ofRecord "struct Point").recordName?.isSome ∧
    (∃ linked, ((Operation.setField (.ofRecord "struct Point")
      ⟨"x", .typedefOf "uint16_t" (.ofScalar .unsignedShort "unsigned short")⟩).link
        { package := "com.example.geo", container := "Native" } .downcall).outcome = .ok linked) ∧
    ((Operation.callNative ⟨"visit", .void, [⟨"visitor", .pointerTo
      (.function .void [.ofScalar .int "int", .voidPointer])⟩]⟩).link
        { package := "com.example.geo", container := "Native" } .downcall).outcome =
      .error (.contextNotPassed "visitor") ∧
    ((LinkError.contextNotPassed "visitor").severity = .unsupportedType ∨
      (LinkError.contextNotPassed "visitor").severity = .unsupportedScenario) := by
  have hgrammar := link_isOk_iff_grammar { package := "com.example.geo", container := "Native" }
  have hrejected : ((Operation.callNative ⟨"visit", .void, [⟨"visitor", .pointerTo
      (.function .void [.ofScalar .int "int", .voidPointer])⟩]⟩).link
        { package := "com.example.geo", container := "Native" } .downcall).outcome =
      .error (.contextNotPassed "visitor") := by rfl
  refine ⟨rfl, ((hgrammar.2.1 _ _ rfl).2).2 ?_, hrejected, hgrammar.2.2 _ _ (.call _) hrejected⟩
  exact ⟨.primitive, rfl, nofun, fun _ => ⟨_, rfl⟩⟩

end JniBridge
