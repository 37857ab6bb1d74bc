import JniBridge.Proofs.Acceptance
import JniBridge.Proofs.Descriptor
import JniBridge.Proofs.Faces
/-
Descriptors of generated methods.

A descriptor tells the types of a method up to erasure (`JavaMethod.erase_eq_of_descriptor`), but a method
can have a descriptor that the virtual machine knows no method by: a parameter of the type of nothing.
Linking makes none (`Operation.solid_of_link`): what crosses on its own is carried by a number, a string or
a class, and the receiver of a callback is of the type that the callback is given.

The one way in is that type.  A callback that is told to call on `void` is linked like any other
(`descriptor_of_void_receiver`); the interfaces of function pointers are always classes.
-/

namespace JniBridge

open Linking

/-! ## Faces -/

theorem JniType.isVoid_of_asJava? {j : JniType} {t : JavaType} (hj : j ≠ .void)
    (h : j.asJava? = some t) : t.isVoid = false := by
  cases j with
  | void => exact absurd rfl hj
  | scalar | string | scalarArray =>
    obtain rfl := Option.some.inj h
    rfl
  | object | classObject | throwable | methodId | objectArray => exact nomatch h

/-- On neither layer of Java the value is of the type of nothing. -/
structure Face.Solid (f : Face) : Prop where
  java : f.java ≠ some "V"
  raw : f.raw ≠ some "V"

namespace Face

theorem solid_carried {java : String} {jni : JniType} (hjava : java ≠ "V") (hjni : jni ≠ .void) :
    (carried java jni).Solid where
  java := fun h => hjava (Option.some.inj h)
  raw := by
    intro h
    obtain ⟨t, ht, hvoid⟩ := Option.map_eq_some_iff.1 h
    exact JavaType.descriptor_ne (JniType.isVoid_of_asJava? hjni ht) hvoid

theorem solid_number (kind : JavaScalar) : (number kind).Solid :=
  solid_carried (JavaType.descriptor_ne (t := .ofScalar kind) rfl) nofun

theorem solid_context : context.Solid := solid_carried (by decide) nofun

theorem solid_handle : handle.Solid := ⟨by decide, by decide⟩

theorem solid_hidden : hidden.Solid := ⟨by decide, by decide⟩

theorem solid_receiver {callback : JavaType} (h : callback.isVoid = false) :
    (receiver callback).Solid where
  java := fun hvoid => JavaType.descriptor_ne h (Option.some.inj hvoid)
  raw := fun hvoid => JavaType.descriptor_ne h (Option.some.inj hvoid)

end Face

/-- The wrappers of structs are classes. -/
def Context.WrapsInClasses (ctx : Context) : Prop :=
  ∀ record w, ctx.wrapper? record = some w →
    ∃ package name arguments notes, w.javaType = .object package name arguments notes

/-- The objects that callbacks are called on are of some type. -/
def Operation.TypedReceivers (op : Operation) : Prop :=
  ∀ p ∈ op.params, ∀ callback, p.role = .callbackObject callback → callback.isVoid = false

section solid

variable {op : Operation} {ctx : Context} {d : Direction}

theorem Context.WrapsInClasses.structDescriptor (h : ctx.WrapsInClasses) (record : String) :
    ctx.structDescriptor record ≠ "V" := by
  unfold Context.structDescriptor
  cases hw : ctx.wrapper? record with
  | none => decide
  | some w =>
    obtain ⟨package, name, arguments, notes, htype⟩ := h record w hw
    exact JavaType.descriptor_ne (by rw [htype]; rfl)

theorem CType.solid_of_face? (h : ctx.WrapsInClasses) {t : CType} {f : Face}
    (hf : t.face? ctx = some f) : f.Solid := by
  unfold face? at hf
  split at hf
  · obtain ⟨r, hr, hf⟩ := Option.bind_eq_some_iff.1 hf
    obtain ⟨plain, hplain, rfl⟩ := Option.map_eq_some_iff.1 hf
    have hshape : t.primitiveShape = .ok r := by
      cases hr' : t.primitiveShape with
      | ok r' =>
        rw [hr'] at hr
        exact congrArg _ (Option.some.inj hr)
      | error e =>
        rw [hr'] at hr
        exact nomatch hr
    obtain ⟨k, hk⟩ := t.primitiveShape_ends.of_ok hshape
    rw [hk] at hplain ⊢
    obtain rfl := Option.some.inj hplain
    exact Face.solid_number k
  · obtain rfl := Option.some.inj hf
    exact Face.solid_carried (by decide) nofun
  · obtain rfl := Option.some.inj hf
    exact Face.solid_number .long
  · obtain rfl := Option.some.inj hf
    exact Face.solid_carried (h.structDescriptor _) nofun
  · obtain rfl := Option.some.inj hf
    exact Face.solid_number .int
  · exact nomatch hf
  · exact nomatch hf

theorem Linking.solid_of_flags {t : CType} {position : Position} {f : Param Face}
    (h : f ∈ (flags op d t position).map Parameter.shown) : f.type.Solid := by
  obtain ⟨q, hq, rfl⟩ := List.mem_map.1 h
  obtain ⟨name, -, rfl⟩ := mem_flags hq
  have hjava : Vocabulary.deletionBehaviour.descriptor ≠ "V" := by decide
  have hraw : JavaScalar.boolean.descriptor ≠ "V" := by decide
  exact ⟨fun h => hjava (Option.some.inj h), fun h => hraw (Option.some.inj h)⟩

/-- No parameter shows the type of nothing, whatever stands before. -/
theorem Linking.solid_of_faces (h : ctx.WrapsInClasses) {awaiting : Bool}
    {ps : List OperationParameter}
    (hps : ∀ p ∈ ps, ∀ callback, p.role = .callbackObject callback → callback.isVoid = false) :
    ∀ f ∈ faces op ctx d awaiting ps, f.type.Solid := by
  induction ps generalizing awaiting with
  | nil => exact List.forall_mem_nil _
  | cons p ps ih =>
    obtain ⟨hp, hps⟩ := List.forall_mem_cons.1 hps
    cases awaiting with
    | true => exact List.forall_mem_cons.2 ⟨Face.solid_context, ih hps⟩
    | false =>
      rw [faces]
      cases hrole : p.role with
      | structHandle => exact List.forall_mem_cons.2 ⟨Face.solid_handle, ih hps⟩
      | callbackObject callback =>
        exact List.forall_mem_cons.2 ⟨Face.solid_receiver (hp callback hrole), ih hps⟩
      | value =>
        dsimp only
        cases hface : p.type.face? ctx with
        | none => exact List.forall_mem_cons.2 ⟨Face.solid_hidden, ih hps⟩
        | some f =>
          refine List.forall_mem_cons.2 ⟨CType.solid_of_face? h hface, ?_⟩
          exact List.forall_mem_append.2 ⟨fun f hf => solid_of_flags hf, ih hps⟩

/-- So nothing of an operation that links does. -/
theorem Operation.solid_of_link (h : ctx.WrapsInClasses) (hop : op.TypedReceivers)
    {linked : LinkedOperation} (hlinked : (op.link ctx d).outcome = .ok linked) :
    ∀ f ∈ linked.linkage.shown, f.type.Solid := by
  rw [(Operation.faces_of_link hlinked).1, Operation.faces]
  refine List.forall_mem_append.2 ⟨solid_of_faces h hop, fun f hf => ?_⟩
  split at hf
  · exact absurd hf List.not_mem_nil
  · exact solid_of_flags hf

end solid

/-- No parameter of the method is of the type of nothing. -/
def JavaMethod.Solid (m : JavaMethod) : Prop := ∀ p ∈ m.params, p.type.descriptor ≠ "V"

namespace Linkage

variable {l : Linkage} (h : ∀ f ∈ l.shown, f.type.Solid)

include h

theorem javaParam_ne {q : Parameter} (hq : q ∈ l.allParameters) {p : Param JavaType}
    (hp : q.javaParam? = some p) : p.type.descriptor ≠ "V" := by
  obtain ⟨t, ht, rfl⟩ := Option.map_eq_some_iff.1 hp
  have hsolid := (h _ (List.mem_map_of_mem hq)).java
  intro hvoid
  refine hsolid ?_
  show q.javaType.map JavaType.descriptor = _
  rw [ht]
  exact congrArg some hvoid

theorem rawParam_ne {q : Parameter} (hq : q ∈ l.allParameters) {p : Param JavaType}
    (hp : q.rawParam? = some p) : p.type.descriptor ≠ "V" := by
  obtain ⟨t, ht, rfl⟩ := Option.map_eq_some_iff.1 hp
  have hsolid := (h _ (List.mem_map_of_mem hq)).raw
  intro hvoid
  refine hsolid ?_
  show q.rawType.map JavaType.descriptor = _
  rw [ht]
  exact congrArg some hvoid

theorem solid_downcall (spec : DowncallSpec) :
    (DowncallUnit.javaMethodOf l spec).Solid ∧ (DowncallUnit.rawMethodOf l spec).Solid := by
  constructor
  · intro p hp
    obtain ⟨q, hq, hsome⟩ := List.mem_filterMap.1 hp
    exact javaParam_ne h hq hsome
  · intro p hp
    obtain ⟨q, hq, hsome⟩ := List.mem_filterMap.1 hp
    exact rawParam_ne h hq hsome

theorem solid_upcall (names : MemberNames) :
    (UpcallUnit.callerOf l names).Solid ∧ (UpcallUnit.callbackOf l names).Solid := by
  constructor
  · intro p hp
    obtain ⟨q, hq, hsome⟩ := List.mem_filterMap.1 hp
    exact rawParam_ne h hq hsome
  · intro p hp
    obtain ⟨q, hq, hsome⟩ := List.mem_filterMap.1 hp
    exact javaParam_ne h (List.mem_of_mem_filter hq) hsome

end Linkage

/-! ## Operations with receivers -/

namespace Operation

/-- What Java asks for calls no callback. -/
theorem FromJava.typedReceivers {op : Operation} (h : op.FromJava) : op.TypedReceivers := by
  intro p hp callback hrole
  cases h with
  | call decl => exact nomatch (role_of_mem_callNative decl p hp).symm.trans hrole
  | get record field =>
    obtain rfl := List.mem_singleton.1 hp
    exact nomatch hrole
  | set record field =>
    rcases List.mem_pair.1 hp with rfl | rfl
    · exact nomatch hrole
    · exact nomatch hrole

theorem typedReceivers_of_runCallback {name : String} {proto : CType} {callback : JavaType}
    {op : Operation} (h : runCallback name proto callback = .ok op)
    (hcallback : callback.isVoid = false) : op.TypedReceivers := by
  obtain ⟨returns, values, context, -, rfl⟩ := (runCallback_ends name proto callback).of_ok h
  intro p hp callback' hrole
  rcases List.mem_append.1 hp with hp | hp
  · exact nomatch (role_of_mem_proxies p hp).symm.trans hrole
  · obtain rfl := List.mem_singleton.1 hp
    obtain rfl := Role.callbackObject.inj hrole
    exact hcallback

end Operation

/-- The interface of a function pointer is a class, so its methods are solid. -/
theorem CallbackInterface.solid_of_create {ctx : Context} (h : ctx.WrapsInClasses)
    {operation parameter : String} {proto : CType} {cb : CallbackInterface}
    (hcb : (create operation parameter proto ctx).outcome = .ok cb) :
    cb.method.caller.Solid ∧ cb.method.callback.Solid := by
  unfold create at hcb
  obtain ⟨op, hop, hcb⟩ := exists_of_bind_eq_ok hcb
  obtain ⟨linked, hlinked, hcb⟩ := exists_of_bind_eq_ok hcb
  obtain ⟨method, hmethod, hcb⟩ := exists_of_bind_eq_ok hcb
  obtain rfl := Except.ok.inj hcb
  obtain ⟨hcaller, hcallback⟩ := UpcallUnit.methods_of_ofLinkage hmethod
  have hlink : (op.link ctx .upcall).outcome = .ok linked := hlinked
  have hsolid := Operation.solid_of_link h (Operation.typedReceivers_of_runCallback hop rfl) hlink
  rw [hcaller, hcallback]
  exact Linkage.solid_upcall hsolid ctx.names

/-! ## All together -/

/-- A descriptor tells the types of a method up to annotations and type arguments, which it does not know.
No parameter of a generated method is of the type of nothing, as long as wrappers are classes and callbacks
are called on objects. -/
theorem descriptor_tells_types :
    (∀ m n : JavaMethod, m.Readable → n.Readable → m.descriptor = n.descriptor →
      List.Forall₂ (fun p q => p.type.erase = q.type.erase) m.params n.params ∧
        m.returns.erase = n.returns.erase) ∧
    (∀ m : JavaMethod, m.erase.descriptor = m.descriptor) ∧
    ∀ ctx : Context, ctx.WrapsInClasses →
      (∀ op spec u, op.TypedReceivers → (DowncallUnit.link op spec ctx).outcome = .ok u →
        u.javaMethod.Solid ∧ u.rawMethod.Solid) ∧
      (∀ (op : Operation) d linked interface names u, op.TypedReceivers →
        (op.link ctx d).outcome = .ok linked →
        UpcallUnit.ofLinkage linked.linkage interface names = .ok u →
        u.caller.Solid ∧ u.callback.Solid) ∧
      ∀ operation parameter proto cb,
        (CallbackInterface.create operation parameter proto ctx).outcome = .ok cb →
        cb.method.caller.Solid ∧ cb.method.callback.Solid := by
  refine ⟨fun m n => JavaMethod.erase_eq_of_descriptor, JavaMethod.descriptor_erase, fun ctx hctx =>
    ⟨?_, ?_, fun operation parameter proto cb => CallbackInterface.solid_of_create hctx⟩⟩
  · intro op spec u hop hu
    obtain ⟨hlinked, hjava, hraw, -⟩ := DowncallUnit.methods_of_link hu
    rw [hjava, hraw]
    exact Linkage.solid_downcall (Operation.solid_of_link hctx hop hlinked) spec
  · intro op d linked interface names u hop hlinked hu
    obtain ⟨hcaller, hcallback⟩ := UpcallUnit.methods_of_ofLinkage hu
    rw [hcaller, hcallback]
    exact Linkage.solid_upcall (Operation.solid_of_link hctx hop hlinked) names

/-- Annotations and arguments do not show, and a wrapped struct and the object of a callback are solid. -/
theorem descriptor_tells_types_point :
    ∃ (m n : JavaMethod) (ctx : Context) (op : Operation) (u : DowncallUnit)
      (linked : LinkedOperation) (v : UpcallUnit),
      m = { name := "add", returns := .nothing, isStatic := true
            params := [⟨.generic "java.util" "List" [.string], "xs"⟩, ⟨.ofScalar .int, "n"⟩] } ∧
      n = { name := "set", returns := .void ["@Checked"], isStatic := false
            params := [⟨.ofClass "java.util" "List", "ys"⟩, ⟨.scalar .int ["@Unsigned"], "i"⟩] } ∧
      m.Readable ∧ n.Readable ∧ m.descriptor = n.descriptor ∧
      List.Forall₂ (fun p q => p.type.erase = q.type.erase) m.params n.params ∧
      ctx.WrapsInClasses ∧
      (DowncallUnit.link (.callNative ⟨"move", .void, [⟨"by", .ofRecord "struct Point"⟩]⟩)
        (.ofName "move" (.ofClass "geo" "Native")) ctx).outcome = .ok u ∧
      u.javaMethod.descriptor = "(Lgeo/Native$Point;)V" ∧ u.javaMethod.Solid ∧
      Operation.runCallback "visit" (.function .void [.ofScalar .int "int", .voidPointer])
        (.ofClass "geo" "Visitor") = .ok op ∧
      (op.link ctx .upcall).outcome = .ok linked ∧
      UpcallUnit.ofLinkage linked.linkage (.ofClass "geo" "Visitor") ctx.names = .ok v ∧
      v.caller.Solid := by
  let ctx : Context := Context.registerStruct { package := "geo", container := "Native" } "Point"
    ⟨.ofClass "geo" "Native.Point", false⟩
  have hctx : ctx.WrapsInClasses := by
    intro record w hw
    have hget : (Registry.empty.insert "Point" ⟨.ofClass "geo" "Native.Point", false⟩).get? record =
        some w := hw
    rw [Registry.get?_insert] at hget
    split at hget
    · obtain rfl := Option.some.inj hget
      exact ⟨_, _, _, _, rfl⟩
    · exact nomatch hget
  have hlist : (JavaType.ofClass "java.util" "List").Readable :=
    ⟨List.all_iff_forall_prop.1 rfl, List.all_iff_forall_prop.1 rfl⟩
  have hm : JavaMethod.Readable { name := "add", returns := .nothing, isStatic := true, params := [
      ⟨.generic "java.util" "List" [.string], "xs"⟩, ⟨.ofScalar .int, "n"⟩] } :=
    ⟨List.forall_mem_cons.2 ⟨hlist, List.forall_mem_singleton.2 trivial⟩, trivial⟩
  have hn : JavaMethod.Readable { name := "set", returns := .void ["@Checked"], isStatic := false
                                  params := [⟨.ofClass "java.util" "List", "ys"⟩,
                                    ⟨.scalar .int ["@Unsigned"], "i"⟩] } :=
    ⟨List.forall_mem_cons.2 ⟨hlist, List.forall_mem_singleton.2 trivial⟩, trivial⟩
  obtain ⟨u, hu, hdescriptor⟩ : ∃ u, (DowncallUnit.link
      (.callNative ⟨"move", .void, [⟨"by", .ofRecord "struct Point"⟩]⟩)
      (.ofName "move" (.ofClass "geo" "Native")) ctx).outcome = .ok u ∧
      u.javaMethod.descriptor = "(Lgeo/Native$Point;)V" := ⟨_, rfl, rfl⟩
  obtain ⟨op, linked, v, hop, hlinked, hv⟩ : ∃ op linked v,
      Operation.runCallback "visit" (.function .void [.ofScalar .int "int", .voidPointer])
        (.ofClass "geo" "Visitor") = .ok op ∧
      (op.link ctx .upcall).outcome = .ok linked ∧
      UpcallUnit.ofLinkage linked.linkage (.ofClass "geo" "Visitor") ctx.names = .ok v :=
    ⟨_, _, _, rfl, rfl, rfl⟩
  obtain ⟨htells, -, hsolid⟩ := descriptor_tells_types
  obtain ⟨hdowncall, hupcall, -⟩ := hsolid ctx hctx
  have hmoved := hdowncall _ _ _ (Operation.FromJava.call _).typedReceivers hu
  have hvisited := hupcall _ _ _ _ _ _ (Operation.typedReceivers_of_runCallback hop rfl) hlinked hv
  exact ⟨_, _, ctx, op, u, linked, v, rfl, rfl, hm, hn, rfl, (htells _ _ hm hn rfl).1, hctx, hu,
    hdescriptor, hmoved.1, hop, hlinked, hv, hvisited.1⟩

/-- A callback that is to be called on nothing is linked all the same, with a parameter of no type. -/
theorem descriptor_of_void_receiver :
    ∃ (ctx : Context) (op : Operation) (u : DowncallUnit) (linked : LinkedOperation) (v : UpcallUnit),
      ctx.WrapsInClasses ∧
      Operation.runCallback "cb" (.function .void [.voidPointer]) .nothing = .ok op ∧
      (DowncallUnit.link op (.ofName "f" (.ofClass "geo" "Native")) ctx).outcome = .ok u ∧
      u.javaMethod.descriptor = "(V)V" ∧ u.rawMethod.descriptor = "(V)V" ∧
      ¬ u.javaMethod.Solid ∧ ¬ u.rawMethod.Solid ∧
      (op.link ctx .upcall).outcome = .ok linked ∧
      UpcallUnit.ofLinkage linked.linkage .nothing ctx.names = .ok v ∧
      v.caller.descriptor = "(V)V" ∧ ¬ v.caller.Solid := by
  have hctx : Context.WrapsInClasses { package := "geo", container := "Native" } := nofun
  have hvoid : ∀ m : JavaMethod, m.params.map (fun p => p.type.descriptor) = ["V"] → ¬ m.Solid := by
    intro m hparams hsolid
    obtain ⟨p, hp, hdescriptor⟩ := List.mem_map.1 (hparams ▸ List.mem_singleton_self "V")
    exact hsolid p hp hdescriptor
  exact ⟨_, _, _, _, _, hctx, rfl, rfl, rfl, rfl, hvoid _ rfl, hvoid _ rfl, rfl, rfl, rfl, hvoid _ rfl⟩

end JniBridge
