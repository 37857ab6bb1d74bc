import JniBridge.Proofs.Value
/-
What a generated parameter can be.

There are five forms (`Parameter.Form`): an argument with a type on every layer, the closure made for a
function pointer, the handle of a field access, the receiver of a callback, and the flag of a string.
Every form is realised on all four edges: a conversion is asked for only where the action has one
(`Form.realised`).  In a downcall the parameter's Java, raw and native-interface sides drop out
together or not at all (`Form.aligned`).
-/

namespace JniBridge

/-! ## Placing -/

namespace LinkedValue

/-- The parameter that a value becomes under a name. -/
def placed (v : LinkedValue) (name : String) (d : Direction) : Parameter where
  name := name
  javaType := v.javaType
  rawType := v.declaredRaw
  jniType := v.jniType
  nativeType := v.nativeType
  action := v.action
  direction := d
  intermediate := v.intermediate.getD (Vocabulary.intermediate name)
  behaviors := v.behaviorsIn d
  isCompanion := v.isCompanion
  isReceiver := v.isReceiver

/-- Placing succeeds once no edge lacks a type and the callee is reached. -/
theorem toParameterLinkage_eq {v : LinkedValue} {d : Direction} (name : String)
    (huntyped : v.untypedEdge? d = none) (hfinal : (v.behaviorsIn d).supports d.finalEdge) :
    v.toParameterLinkage name d = .ok ⟨v.placed name d, v.companions⟩ := by
  have hreaches : (!v.isCompanion && !(v.behaviorsIn d).supports d.finalEdge) = false := by
    rw [hfinal, Bool.not_true, Bool.and_false]
  unfold toParameterLinkage toParameter
  simp only [huntyped, hreaches, Bool.false_eq_true, if_false]
  rfl

/-- Whatever is placed is placed like this. -/
theorem eq_placed_of_toParameterLinkage {v : LinkedValue} {d : Direction} {name : String}
    {l : ParameterLinkage} (h : v.toParameterLinkage name d = .ok l) :
    l = ⟨v.placed name d, v.companions⟩ := by
  unfold toParameterLinkage toParameter at h
  dsimp only at h
  split at h
  · exact nomatch h
  · split at h
    · exact nomatch h
    · exact (Except.ok.inj h).symm

end LinkedValue

/-! ## Arguments with a type on every layer -/

/-- The parameter exists on all three layers and takes the two parameter edges of its direction. -/
structure Parameter.Plain (p : Parameter) (name : String) (t : CType) (d : Direction) : Prop where
  named : p.name = name
  direction : p.direction = d
  java : p.javaType.isSome
  /-- The raw type is the one that belongs to the native-interface type. -/
  jni : ∃ j raw, p.jniType = some j ∧ p.rawType = some raw ∧ j.asJava? = some raw
  native : p.nativeType = some t
  intermediate : p.intermediate = Vocabulary.intermediate name
  behaviors : p.behaviors = .usual d true true
  notCompanion : p.isCompanion = false
  notReceiver : p.isReceiver = false
  javaEdge : d.javaEdge ∈ p.action.transitEdges d
  nativeEdge : d.nativeEdge ∈ p.action.transitEdges d

namespace LinkedValue.Carried

variable {v : LinkedValue} {t : CType} {d : Direction}

theorem behaviorsIn_eq (h : v.Carried t d) : v.behaviorsIn d = .usual d true true := by
  obtain ⟨j, raw, hj, -⟩ := h.jni
  unfold behaviorsIn
  rw [h.behaviors, h.java, hj, h.native]
  rfl

theorem placed (h : v.Carried t d) (name : String) : (v.placed name d).Plain name t d := by
  obtain ⟨j, raw, hj, hraw⟩ := h.jni
  have hdeclared : v.declaredRaw = some raw := by
    unfold declaredRaw
    rw [h.rawType, hj]
    exact hraw
  exact
    { named := rfl, direction := rfl, java := h.java
      jni := ⟨j, raw, hj, hdeclared, hraw⟩
      native := h.native
      intermediate := by rw [LinkedValue.placed, h.intermediate]; rfl
      behaviors := h.behaviorsIn_eq
      notCompanion := h.notCompanion, notReceiver := h.notReceiver
      javaEdge := h.javaEdge, nativeEdge := h.nativeEdge }

theorem toParameterLinkage (h : v.Carried t d) (name : String) :
    v.toParameterLinkage name d = .ok ⟨v.placed name d, v.companions⟩ := by
  refine toParameterLinkage_eq name ?_ ?_
  · unfold untypedEdge?
    rw [h.behaviors, h.notCompanion]
    rfl
  · rw [h.behaviorsIn_eq]
    cases d <;> rfl

end LinkedValue.Carried

/-! ## The special values -/

/-- The object of a callback converts on the two parameter edges, whichever way it travels. -/
theorem Action.callbackObject_edges (d : Direction) :
    d.javaEdge ∈ callbackObject.transitEdges d ∧ d.nativeEdge ∈ callbackObject.transitEdges d := by
  cases d <;> decide

namespace Linking

/-- What the parameter after a function pointer becomes. -/
def contextValue (callback : CallbackInterface) : LinkedValue :=
  .typed .callbackObject (Vocabulary.functionPointer callback.type) (.scalar .long) CType.voidPointer

theorem contextValue_carried (callback : CallbackInterface) :
    (contextValue callback).Carried CType.voidPointer .downcall :=
  LinkedValue.typed_carried [] rfl (Action.callbackObject_edges _).1
    (Action.callbackObject_edges _).2

/-- The closure that stands for a function pointer. -/
theorem spawned_toParameterLinkage (t : CType) (callback : CallbackInterface) (name : String) :
    (spawned t callback).value.toParameterLinkage name .downcall =
      .ok ⟨(spawned t callback).value.placed name .downcall, []⟩ :=
  LinkedValue.toParameterLinkage_eq name rfl rfl

/-- The receiver of a field access to a record. -/
def handleValue (t : CType) (record : String) : LinkedValue where
  action := .structHandle record
  jniType := some (.scalar .long)
  nativeType := some t
  intermediate := some Vocabulary.structPointer
  behaviors := some ((Behaviors.absent.set .javaToJni .generate).set .jniToNative .transit)

theorem linkHandle_eq {t : CType} {record : String}
    (h : t.pointee?.bind CType.recordName? = some record) :
    linkHandle t = .ok (handleValue t record) := by
  unfold linkHandle
  rw [h]
  rfl

theorem handleValue_toParameterLinkage (t : CType) (record name : String) :
    (handleValue t record).toParameterLinkage name .downcall =
      .ok ⟨(handleValue t record).placed name .downcall, []⟩ :=
  LinkedValue.toParameterLinkage_eq name rfl rfl

theorem linkCallbackObject_toParameterLinkage (t : CType) (callback : JavaType) (name : String)
    (d : Direction) :
    (linkCallbackObject t callback).toParameterLinkage name d =
      .ok ⟨(linkCallbackObject t callback).placed name d, []⟩ := by
  cases d <;> exact LinkedValue.toParameterLinkage_eq name rfl rfl

end Linking

/-- The usual behaviour of a value with a type on every layer. -/
theorem Behaviors.usual_get (d : Direction) (e : Edge) :
    (usual d true true).get e =
      if e = d.javaEdge ∨ e = d.nativeEdge then .transit else .none := by
  cases d <;> cases e <;> rfl

/-! ## The forms -/

open Linking

namespace Parameter

/-- The five things that a generated parameter can be, and in which direction. -/
inductive Form : Direction → Parameter → Prop
  | plain {p : Parameter} {name : String} {t : CType} {d : Direction} (h : p.Plain name t d) :
    Form d p
  | closure (t : CType) (callback : CallbackInterface) (name : String) :
    Form .downcall ((spawned t callback).value.placed name .downcall)
  | handle (t : CType) (record name : String) :
    Form .downcall ((handleValue t record).placed name .downcall)
  | flag (name : String) : Form .downcall (deletionFlag name .downcall)
  | receiver (t : CType) (callback : JavaType) (name : String) (d : Direction) :
    Form d ((linkCallbackObject t callback).placed name d)

/-- On every edge the parameter either is absent or has its expression. -/
def Realised (p : Parameter) : Prop :=
  ∀ e, ∃ x, p.on e = .ok x ∧ x.isSome = p.behaviors.supports e

/-- It suffices that the action answers wherever the parameter asks it. -/
theorem realised_of_edges {p : Parameter}
    (htransit : ∀ e, p.behaviors.get e = .transit → e ∈ p.action.transitEdges p.direction)
    (hgenerate : ∀ e, p.behaviors.get e = .generate → e ∈ p.action.generateEdges) :
    p.Realised := by
  intro e
  cases hb : p.behaviors.get e with
  | none => exact ⟨none, by rw [on, hb], by rw [Behaviors.supports, hb]; rfl⟩
  | transit =>
    obtain ⟨x, hx⟩ := (p.action.transit_isOk_iff p.name e p.direction).2 (htransit e hb)
    exact ⟨some x, by rw [on, hb, hx]; rfl, by rw [Behaviors.supports, hb]; rfl⟩
  | generate =>
    obtain ⟨x, hx⟩ := (p.action.generate_isOk_iff e).2 (hgenerate e hb)
    exact ⟨some x, by rw [on, hb, hx]; rfl, by rw [Behaviors.supports, hb]; rfl⟩

/-- A parameter of the usual behaviour is realised if its action converts on the two edges of the
direction. -/
theorem realised_of_usual {p : Parameter} {d : Direction} (hd : p.direction = d)
    (hb : p.behaviors = .usual d true true) (hjava : d.javaEdge ∈ p.action.transitEdges d)
    (hnative : d.nativeEdge ∈ p.action.transitEdges d) : p.Realised := by
  refine realised_of_edges (fun e he => ?_) fun e he => ?_
  · rw [hb, Behaviors.usual_get] at he
    rw [hd]
    by_cases hedge : e = d.javaEdge ∨ e = d.nativeEdge
    · rcases hedge with rfl | rfl
      · exact hjava
      · exact hnative
    · rw [if_neg hedge] at he
      exact nomatch he
  · -- nothing is made up in the usual behaviour
    rw [hb, Behaviors.usual_get] at he
    split at he <;> exact nomatch he

end Parameter

theorem Parameter.Plain.realised {p : Parameter} {name : String} {t : CType} {d : Direction}
    (h : p.Plain name t d) : p.Realised :=
  realised_of_usual h.direction h.behaviors h.javaEdge h.nativeEdge

/-- The Java, raw and native-interface sides of the parameter are there or missing together, and
their types belong together. -/
structure Parameter.Aligned (p : Parameter) : Prop where
  raw : p.jniType.bind JniType.asJava? = p.rawType
  jni : p.jniType.isSome = p.rawType.isSome
  taken : p.behaviors.supports .javaToJni = p.rawType.isSome

namespace Parameter.Form

variable {p : Parameter} {d : Direction}

theorem direction (h : Form d p) : p.direction = d := by
  cases h with
  | plain h => exact h.direction
  | closure | handle | flag | receiver => rfl

/-- Whatever a generated parameter is, it is realised on every edge. -/
theorem realised (h : Form d p) : p.Realised := by
  cases h with
  | plain h => exact h.realised
  | closure t callback name =>
    refine realised_of_edges (fun e he => ?_) fun e he => ?_
    · cases e <;> exact nomatch he
    · cases e with
      | jniToNative => exact List.mem_singleton.2 rfl
      | javaToJni | nativeToJni | jniToJava => exact nomatch he
  | handle t record name =>
    refine realised_of_edges (fun e he => ?_) fun e he => ?_
    · cases e with
      | jniToNative => exact List.mem_singleton.2 rfl
      | javaToJni | nativeToJni | jniToJava => exact nomatch he
    · cases e with
      | javaToJni => exact List.mem_singleton.2 rfl
      | jniToNative | nativeToJni | jniToJava => exact nomatch he
  | flag name =>
    refine realised_of_edges (fun e he => ?_) fun e he => ?_
    · cases e with
      | javaToJni => exact List.mem_singleton.2 rfl
      | jniToNative | nativeToJni | jniToJava => exact nomatch he
    · cases e <;> exact nomatch he
  | receiver t callback name d =>
    exact realised_of_usual rfl rfl (Action.callbackObject_edges d).1
      (Action.callbackObject_edges d).2

/-- In a downcall, whatever is not the receiver of a callback is aligned. -/
theorem aligned (h : Form .downcall p) (hreceiver : p.isReceiver = false) : p.Aligned := by
  cases h with
  | plain h =>
    obtain ⟨j, raw, hj, hraw, hjava⟩ := h.jni
    exact
      { raw := by rw [hj, hraw]; exact hjava
        jni := by rw [hj, hraw]; rfl
        taken := by rw [h.behaviors, hraw]; rfl }
  | closure | handle | flag => exact ⟨rfl, rfl, rfl⟩
  | receiver => exact nomatch hreceiver

end Parameter.Form

end JniBridge
