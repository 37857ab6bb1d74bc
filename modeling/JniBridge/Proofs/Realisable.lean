import JniBridge.Proofs.Acceptance
/-
Linkages can be carried out, and linking knows when they cannot.

The edges on which an action answers, the edges on which a parameter asks it, and the types that a
value has on either side are settled in three places.  That they match is a matter of the five forms
(`Parameter.Form`): each of them is realisable (`Parameter.Form.realisable`), and whatever an operation
is linked to is of these forms, in the direction it is linked in.  So nothing that is linked can fail
later for want of an expression, whichever way it is called (`Operation.link_realisable`).

The only operations that linking cannot place are field accesses: those that are to be called from
native code, and those whose receiver is no pointer to a record.
-/

namespace JniBridge

open Linking

/-! ## Operations -/

/-- The operations there are to link: what Java asks for, and what function pointers are called
back by. -/
inductive Operation.Built : Operation → Prop
  | fromJava {op : Operation} (h : op.FromJava) : Built op
  | callback {name : String} {proto : CType} {callback : JavaType} {op : Operation}
    (h : Operation.runCallback name proto callback = .ok op) : Built op

namespace Operation

/-- An operation has a receiver to place only as its first parameter, and then it is a field
access. -/
theorem Built.first_placeable {op : Operation} (h : op.Built) (d : Direction) :
    (∀ p ∈ op.params, Placeable d p) ∨
      op.isFieldAccess ∧ ∃ record ps, op.params = receiver record :: ps ∧
        ∀ p ∈ ps, Placeable d p := by
  cases h with
  | fromJava h =>
    cases h with
    | call decl => exact Or.inl fun p hp => placeable_of_value (role_of_mem_callNative decl p hp)
    | get record field => exact Or.inr ⟨rfl, record, [], rfl, List.forall_mem_nil _⟩
    | set record field =>
      refine Or.inr ⟨rfl, record, _, rfl, ?_⟩
      exact List.forall_mem_singleton.2 (placeable_of_value rfl)
  | callback h =>
    obtain ⟨_, _, _, -, rfl⟩ := (runCallback_ends _ _ _).of_ok h
    exact Or.inl dispatch_placeable

/-- What is linked, in whichever direction, has been placed. -/
theorem Built.placeable_of_link {op : Operation} (h : op.Built) {ctx : Context} {d : Direction}
    {linked : LinkedOperation} (hok : (op.link ctx d).outcome = .ok linked) :
    ∀ p ∈ op.params, Placeable d p := by
  rcases h.first_placeable d with hplace | ⟨-, record, ps, hps, hplace⟩
  · exact hplace
  · have hreceiver : Placeable d (receiver record) :=
      Classical.not_not.1 fun hunplaced => linkWith_ne_ok_of_receiver hps hunplaced hok
    rw [hps]
    exact List.forall_mem_cons.2 ⟨hreceiver, hplace⟩

/-- What cannot be placed is a field access in the wrong direction or on no record. -/
theorem Built.fieldAccess_of_not_placeable {op : Operation} (h : op.Built) {d : Direction}
    (hplace : ¬ ∀ p ∈ op.params, Placeable d p) :
    op.isFieldAccess ∧ (d = .upcall ∨ ∃ p ∈ op.params, p.role = .structHandle ∧
      p.type.pointee?.bind CType.recordName? = none) := by
  rcases h.first_placeable d with hall | ⟨haccess, record, ps, hps, hrest⟩
  · exact absurd hall hplace
  · refine ⟨haccess, ?_⟩
    cases d with
    | upcall => exact Or.inl rfl
    | downcall =>
      cases hrecord : record.recordName? with
      | some name =>
        have hreceiver : Placeable .downcall (receiver record) :=
          receiver_placeable_iff.2 ⟨rfl, by rw [hrecord]; rfl⟩
        rw [hps] at hplace
        exact absurd (List.forall_mem_cons.2 ⟨hreceiver, hrest⟩) hplace
      | none =>
        refine Or.inr ⟨receiver record, by rw [hps]; exact List.mem_cons_self, rfl, ?_⟩
        rw [receiver_pointee]
        exact hrecord

end Operation

/-! ## What can be carried out -/

/-- A parameter can be generated for calls in a direction. -/
structure Parameter.Realisable (p : Parameter) (d : Direction) : Prop where
  /-- It has an expression on exactly the edges that it takes, and asking for one is no error. -/
  answers : ∀ e, ∃ x, p.on e = .ok x ∧ (x.isSome ↔ p.behaviors.get e ≠ .none)
  /-- It takes no edge but those of the direction's arguments. -/
  confined : ∀ e, p.behaviors.get e ≠ .none → e = d.javaEdge ∨ e = d.nativeEdge
  /-- Unless it is a companion, it reaches the callee. -/
  arrives : p.isCompanion = false → p.behaviors.get d.finalEdge ≠ .none

/-- All parameters of a linkage can be generated, and its result can be handed back. -/
structure Linkage.Realisable (l : Linkage) : Prop where
  parameters : ∀ p ∈ l.allParameters, p.Realisable l.direction
  result : ∀ r, l.returnValue = some r → ∀ value,
    (∃ x, r.action.transit value l.direction.nativeReturnEdge l.direction = .ok x) ∧
      ∃ x, r.action.transit value l.direction.javaReturnEdge l.direction = .ok x

namespace Parameter.Form

variable {p : Parameter} {d : Direction}

theorem confined (h : Form d p) (e : Edge) (he : p.behaviors.get e ≠ .none) :
    e = d.javaEdge ∨ e = d.nativeEdge := by
  -- both edges are usual for values; the special forms leave one or both of them out
  have husual : ∀ d, (Behaviors.usual d true true).get e ≠ .none →
      e = d.javaEdge ∨ e = d.nativeEdge := by
    intro d he
    rw [Behaviors.usual_get] at he
    by_contra hedge
    exact he (if_neg hedge)
  cases h with
  | plain h =>
    rw [h.behaviors] at he
    exact husual d he
  | receiver t callback name d => exact husual d he
  | closure | handle | flag =>
    cases e with
    | javaToJni => exact Or.inl rfl
    | jniToNative => exact Or.inr rfl
    | nativeToJni | jniToJava => exact absurd rfl he

/-- Flags are the only parameters that stay behind. -/
theorem arrives (h : Form d p) (hp : p.isCompanion = false) :
    p.behaviors.get d.finalEdge ≠ .none := by
  have husual : ∀ d, (Behaviors.usual d true true).get d.finalEdge ≠ .none := by
    intro d
    cases d <;> exact nofun
  cases h with
  | plain h =>
    rw [h.behaviors]
    exact husual d
  | receiver t callback name d => exact husual d
  | closure | handle => exact nofun
  | flag => exact nomatch hp

theorem realisable (h : Form d p) : p.Realisable d where
  answers := by
    intro e
    obtain ⟨x, hx, hsome⟩ := h.realised e
    refine ⟨x, hx, ?_⟩
    rw [hsome, Behaviors.supports, bne_iff_ne]
  confined := h.confined
  arrives := h.arrives

end Parameter.Form

/-- A sound linkage can be carried out. -/
theorem Linkage.Sound.realisable {l : Linkage} (h : l.Sound) : l.Realisable where
  parameters := fun p hp => (h.form p hp).realisable
  result := by
    intro r hr value
    have htransit : ∀ e, ∃ x, r.action.transit value e l.direction = .ok x := fun e =>
      (r.action.transit_isOk_iff value e l.direction).2 (h.converts r hr e l.direction)
    exact ⟨htransit _, htransit _⟩

/-! ## Linking -/

/-- Whatever is linked, in either direction, can be carried out; and linking goes wrong only at field
accesses, if they are to be called from native code or their receiver is no pointer to a record. -/
theorem Operation.link_realisable {op : Operation} (hop : op.Built) (ctx : Context)
    (d : Direction) :
    (∀ linked, (op.link ctx d).outcome = .ok linked →
      linked.linkage.direction = d ∧ linked.linkage.Realisable) ∧
    ∀ e, (op.link ctx d).outcome = .error e → e.severity = .incompleteLinkage →
      op.isFieldAccess ∧ (d = .upcall ∨ ∃ p ∈ op.params, p.role = .structHandle ∧
        p.type.pointee?.bind CType.recordName? = none) := by
  constructor
  · intro linked hok
    have hlinked := (link_ends ctx (hop.placeable_of_link hok)).of_ok hok
    exact ⟨hlinked.direction, hlinked.sound.realisable⟩
  · intro e he hfatal
    refine hop.fieldAccess_of_not_placeable fun hplace => ?_
    -- with everything placed, linking only ever refuses
    have hrefusal := ((link_ends ctx hplace).of_error he).1
    have hcost := LinkError.isFatal_of_isRefusal hrefusal
    rw [LinkError.isFatal, hfatal] at hcost
    exact nomatch hcost

/-- A callback that takes a visitor can be linked as a downcall; a field cannot be read in an
upcall. -/
theorem Operation.link_realisable_visitor :
    (∃ linked, ((Operation.dispatch "Callback_walk_visitor" .void
          [.pointerTo (.function .void [.ofScalar .int "int", .voidPointer]), .voidPointer]
          .voidPointer (.ofScalar .int)).link
        { package := "com.example.geo", container := "Native" } .downcall).outcome = .ok linked ∧
      linked.linkage.direction = .downcall ∧ linked.linkage.Realisable) ∧
    ∃ e, ((Operation.getField (.ofRecord "struct Point") ⟨"x", .ofScalar .int "int"⟩).link
        { package := "com.example.geo", container := "Native" } .upcall).outcome = .error e ∧
      e.severity = .incompleteLinkage ∧
      (Operation.getField (.ofRecord "struct Point") ⟨"x", .ofScalar .int "int"⟩).isFieldAccess := by
  constructor
  · have hbuilt : (Operation.dispatch "Callback_walk_visitor" .void
        [.pointerTo (.function .void [.ofScalar .int "int", .voidPointer]), .voidPointer]
        .voidPointer (.ofScalar .int)).Built :=
      .callback (show Operation.runCallback "Callback_walk_visitor"
        (.function .void [.pointerTo (.function .void [.ofScalar .int "int", .voidPointer]),
          .voidPointer, .voidPointer]) (.ofScalar .int) = _ from rfl)
    have hcontext : CType.voidPointer.IsContext := (CType.isBareVoidPointer_iff _).1 rfl
    have hcallable : (CType.function .void [.ofScalar .int "int", .voidPointer]).IsCallable := by
      refine ⟨_, _, _, rfl, rfl, hcontext, List.forall_mem_singleton.2 ?_, Or.inl rfl⟩
      exact ⟨.primitive, rfl, nofun, fun _ => ⟨_, rfl⟩⟩
    -- the visitor, its context, and the object of the callback
    have haccepted : OperationAccepted (.dispatch "Callback_walk_visitor" .void
        [.pointerTo (.function .void [.ofScalar .int "int", .voidPointer]), .voidPointer]
        .voidPointer (.ofScalar .int)) .downcall :=
      ⟨Or.inl rfl, .pointer rfl rfl ((CType.isCallback_iff _).2 ⟨_, rfl, hcallable⟩)
        (.context rfl hcontext (.implicit nofun .nil))⟩
    obtain ⟨linked, hok⟩ := (link_isOk_iff { package := "com.example.geo", container := "Native" }
      dispatch_placeable).2 haccepted
    exact ⟨linked, hok, (link_realisable hbuilt _ .downcall).1 linked hok⟩
  · exact ⟨_, rfl, rfl, ((link_realisable (.fromJava (.get _ _))
      { package := "com.example.geo", container := "Native" } .upcall).2 _ rfl rfl).1⟩

end JniBridge
