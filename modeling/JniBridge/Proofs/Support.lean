import JniBridge.Proofs.Canonical
import JniBridge.Proofs.Crossing
import JniBridge.Proofs.Interfaces
/-
Layouts and accessors support the same fields.

Whether a field can be placed is decided by one table of types (`Layout.call`), whether it can be read and
written by another (`CType.shape` and `CType.primitiveShape`), and the two look at a type in different
order.  They can be compared where names do not mislead: a recognised typedef has to stand for a number
(`CType.Numeric`).

  1. A recognised typedef settles both tables; without one, both go by the node that typedefs come to
     (`Layout.arrangement_isOk_iff`, `CType.primitiveShape_isOk_iff`), and support the same scalars
     (`Layout.scalarCall?_isSome`).
  2. So a field can be placed exactly if it is an ordinary value (`Layout.isOk_iff_isValue`), with two
     exceptions.  A function pointer is placed like any pointer, but is no value; a record is a value, but
     is placed only if its own layout is declared.
  3. A struct that is generated with its layout has had every field placed.  Hence it lacks accessors for
     its function pointers, and for nothing else (`StructUnit.accessible_of_layout`).
-/

namespace JniBridge

open Linking

/-! ## Recognised typedefs -/

namespace CType

/-- One of the names of the type is recognised. -/
def isRecognised (t : CType) : Bool := t.sugarNames.any recognised

/-- A recognised typedef among the names of the type, if there is one, stands for a number. -/
def Numeric (t : CType) : Prop :=
  t.isRecognised → ∃ k s p, t.desugared = .scalar k s p ∧ k ≠ .void

theorem isRecognised_eq (t : CType) :
    t.isRecognised = (t.pointerSized?.isSome || t.fixedWidth?.isSome) := by
  rw [Bool.eq_iff_iff, isRecognised, pointerSized?, fixedWidth?, Bool.or_eq_true,
    List.find?_isSome, List.findSome?_isSome_iff, List.any_eq_true]
  constructor
  · rintro ⟨name, hname, hrecognised⟩
    rcases Bool.or_eq_true_iff.1 hrecognised with hsized | hfixed
    · exact .inl ⟨name, hname, hsized⟩
    · exact .inr ⟨name, hname, hfixed⟩
  · rintro (⟨name, hname, hsized⟩ | ⟨name, hname, hfixed⟩)
    · exact ⟨name, hname, Bool.or_eq_true_iff.2 (.inl hsized)⟩
    · exact ⟨name, hname, Bool.or_eq_true_iff.2 (.inr hfixed)⟩

/-- A scalar is carried for the name of its typedef or for its kind. -/
theorem primitiveShape_isOk_iff {t : CType} {k : Scalar} {s : String} {p : Pairing CType}
    (hd : t.desugared = .scalar k s p) :
    (∃ r, t.primitiveShape = .ok r) ↔ t.isRecognised ∨ k.carrier?.isSome := by
  unfold primitiveShape
  rw [isRecognised_eq, hd]
  cases t.pointerSized? with
  | some name => exact iff_of_true ⟨_, rfl⟩ (.inl rfl)
  | none =>
    cases t.fixedWidth? with
    | some w => exact iff_of_true ⟨_, rfl⟩ (.inl rfl)
    | none =>
      simp only [kind]
      cases k.carrier? with
      | some carrier => exact iff_of_true ⟨_, rfl⟩ (.inr rfl)
      | none => simp

/-- No pointer is carried as a scalar. -/
theorem pointerShape_ne_primitive (pointee : CType) : pointerShape pointee ≠ .primitive := by
  unfold pointerShape
  split <;> exact nofun

theorem isValue_iff_of_shape {t : CType} {s : Shape} (hs : t.shape = .ok s) :
    t.IsValue ↔ t.isFunctionPointer = false ∧ (s = .primitive → ∃ r, t.primitiveShape = .ok r) := by
  constructor
  · intro h
    refine ⟨isFunctionPointer_of_isValue h, ?_⟩
    obtain ⟨s', hs', -, hprim⟩ := h
    obtain rfl := Except.ok.inj (hs'.symm.trans hs)
    exact hprim
  · rintro ⟨hfun, hprim⟩
    refine ⟨s, hs, ?_, hprim⟩
    rintro proto rfl
    rw [isFunctionPointer, hs] at hfun
    exact absurd hfun.symm Bool.false_ne_true

/-- Function pointers are pointers. -/
theorem pointer_of_isFunctionPointer {t : CType} (hfun : t.isFunctionPointer) :
    ∃ pointee s p, t.desugared = .pointer pointee s p := by
  unfold isFunctionPointer shape at hfun
  cases hd : t.desugared with
  | pointer pointee s p => exact ⟨pointee, s, p, rfl⟩
  | scalar k s p =>
    rw [hd] at hfun
    cases k <;> exact nomatch hfun
  | record | enumeration | prototype | typedef | array =>
    rw [hd] at hfun
    exact nomatch hfun

/-- What has the name of a record is one. -/
theorem record_of_recordName? {t : CType} {name : String} (hrecord : t.recordName? = some name) :
    ∃ s p, t.desugared = .record s p ∧ tagName s = name := by
  unfold recordName? at hrecord
  cases hd : t.desugared with
  | record s p =>
    rw [hd] at hrecord
    exact ⟨s, p, rfl, Option.some.inj hrecord⟩
  | scalar | pointer | enumeration | prototype | typedef | array =>
    rw [hd] at hrecord
    exact nomatch hrecord

/-- Which types are ordinary values, by the node that their typedefs come to. -/
theorem isValue_iff_node (t : CType) :
    t.IsValue ↔ match t.desugared with
      | .scalar k _ _ => k ≠ .void ∧ (t.isRecognised ∨ k.carrier?.isSome)
      | .pointer .. => t.isFunctionPointer = false
      | .record .. | .enumeration .. => True
      | _ => False := by
  have hunshaped : ∀ e, t.shape = .error e → ¬ t.IsValue := by
    rintro e he ⟨s, hs, -⟩
    exact nomatch he.symm.trans hs
  cases hd : t.desugared with
  | scalar k s p =>
    by_cases hvoid : k = .void
    · subst hvoid
      exact iff_of_false (hunshaped _ (by rw [shape, hd])) fun h => h.1 rfl
    · have hs : t.shape = .ok .primitive := by
        rw [shape, hd]
        cases k with
        | void => exact absurd rfl hvoid
        | _ => rfl
      have hfun : t.isFunctionPointer = false := by rw [isFunctionPointer, hs]
      rw [isValue_iff_of_shape hs, primitiveShape_isOk_iff hd]
      exact ⟨fun h => ⟨hvoid, h.2 rfl⟩, fun h => ⟨hfun, fun _ => h.2⟩⟩
  | pointer pointee s p =>
    have hs : t.shape = .ok (pointerShape pointee) := by rw [shape, hd]
    rw [isValue_iff_of_shape hs]
    exact and_iff_left fun h => absurd h (pointerShape_ne_primitive pointee)
  | record s p =>
    have hs : t.shape = .ok (.record (tagName s)) := by rw [shape, hd]
    exact iff_of_true (isValue_of_shape hs (by simp) (by simp)) trivial
  | enumeration s p =>
    have hs : t.shape = .ok (.enumeration (tagName s)) := by rw [shape, hd]
    exact iff_of_true (isValue_of_shape hs (by simp) (by simp)) trivial
  | prototype | typedef | array => exact iff_of_false (hunshaped _ (by rw [shape, hd])) id

end CType

/-! ## Fields that can be placed -/

namespace Layout

variable {ctx : Context} {t : CType}

/-- The scalars that can be placed are those that can be carried. -/
theorem scalarCall?_isSome (k : Scalar) : (scalarCall? k).isSome = k.carrier?.isSome := by
  cases k <;> rfl

/-- Which types can be placed for what they are, by the node that their typedefs come to. -/
theorem resolvedCall_isOk_iff (ctx : Context) (t : CType) :
    (∃ c, resolvedCall ctx t = .ok c) ↔ match t.desugared with
      | .scalar k _ _ => k.carrier?.isSome
      | .record s _ => (layoutClass? ctx (tagName s)).isSome
      | .enumeration .. => True
      | _ => False := by
  unfold resolvedCall
  cases t.desugared with
  | scalar k s p =>
    dsimp only
    rw [← scalarCall?_isSome]
    cases scalarCall? k with
    | some c => exact iff_of_true ⟨_, rfl⟩ rfl
    | none => exact iff_of_false nofun nofun
  | record s p =>
    dsimp only
    cases layoutClass? ctx (tagName s) with
    | some c => exact iff_of_true ⟨_, rfl⟩ rfl
    | none => exact iff_of_false nofun nofun
  | enumeration s p => exact iff_of_true ⟨_, rfl⟩ trivial
  | pointer | prototype | typedef | array => exact iff_of_false nofun id

/-- A type can be placed as a pointer, for its name, or for what it is. -/
theorem arrangement_isOk_iff (ctx : Context) (t : CType) :
    (∃ a, arrangement ctx t = .ok a) ↔
      t.isPointer ∨ t.isRecognised ∨ ∃ c, resolvedCall ctx t = .ok c := by
  unfold arrangement call CType.isPointerLike
  rw [CType.isRecognised_eq]
  cases t.isPointer with
  | true => exact iff_of_true ⟨_, rfl⟩ (.inl rfl)
  | false =>
    cases t.pointerSized? with
    | some name => exact iff_of_true ⟨_, rfl⟩ (.inr (.inl rfl))
    | none =>
      cases t.fixedWidth? with
      | some w => exact iff_of_true ⟨_, rfl⟩ (.inr (.inl rfl))
      | none =>
        cases resolvedCall ctx t with
        | ok c => exact iff_of_true ⟨_, rfl⟩ (.inr (.inr ⟨_, rfl⟩))
        | error e => simp [Except.map]

/-- Other than records and function pointers, fields can be placed exactly if they are values. -/
theorem isOk_iff_isValue (ctx : Context) (h : t.Numeric) (hrecord : t.recordName? = none)
    (hfun : t.isFunctionPointer = false) :
    (∃ a, arrangement ctx t = .ok a) ↔ t.IsValue := by
  rw [arrangement_isOk_iff, resolvedCall_isOk_iff, CType.isValue_iff_node, hfun]
  by_cases hrecognised : t.isRecognised
  · -- the name settles it on both sides, since it is known to stand for a number
    obtain ⟨k, s, p, hd, hvoid⟩ := h hrecognised
    rw [hd]
    exact iff_of_true (.inr (.inl hrecognised)) ⟨hvoid, .inl hrecognised⟩
  · rw [or_iff_right hrecognised]
    unfold CType.isPointer CType.pointee?
    unfold CType.recordName? at hrecord
    cases hd : t.desugared with
    | scalar k s p =>
      -- `void` is no scalar that can be carried, so it need not be excluded on the left
      dsimp only
      rw [or_iff_right hrecognised, or_iff_right (by decide)]
      refine ⟨fun hcarried => ⟨?_, hcarried⟩, fun hv => hv.2⟩
      rintro rfl
      exact nomatch hcarried
    | pointer pointee s p => exact iff_of_true (.inl rfl) rfl
    | record s p =>
      rw [hd] at hrecord
      exact nomatch hrecord
    | enumeration s p => exact iff_of_true (.inr trivial) trivial
    | prototype | typedef | array => exact iff_of_false (by simp) id

/-- A function pointer is placed like any pointer. -/
theorem isOk_of_isFunctionPointer (ctx : Context) (hfun : t.isFunctionPointer) :
    ∃ a, arrangement ctx t = .ok a := by
  obtain ⟨pointee, s, p, hd⟩ := CType.pointer_of_isFunctionPointer hfun
  refine (arrangement_isOk_iff ctx t).2 (.inl ?_)
  rw [CType.isPointer, CType.pointee?, hd]
  rfl

/-- The layout of a struct can be repeated if the struct is registered with one, under a class. -/
theorem layoutClass?_isSome_iff (ctx : Context) (name : String) :
    (layoutClass? ctx name).isSome ↔ ∃ w, ctx.wrapper? name = some w ∧ w.layout = true ∧
      ∃ package javaName arguments notes, w.javaType = .object package javaName arguments notes := by
  have hname : ∀ j : JavaType, j.name?.isSome ↔
      ∃ package javaName arguments notes, j = .object package javaName arguments notes := by
    intro j
    cases j with
    | object p n a s => exact iff_of_true rfl ⟨p, n, a, s, rfl⟩
    | void | scalar | array => exact iff_of_false nofun nofun
  unfold layoutClass?
  cases ctx.wrapper? name with
  | none => exact iff_of_false nofun nofun
  | some w =>
    simp only [Option.bind_some, Option.some.injEq, exists_eq_left', ← hname]
    cases w.layout <;> simp

/-- A record can be placed exactly if its own layout can be repeated. -/
theorem isOk_iff_layoutClass (ctx : Context) (h : t.Numeric) {name : String}
    (hrecord : t.recordName? = some name) :
    (∃ a, arrangement ctx t = .ok a) ↔ (layoutClass? ctx name).isSome := by
  obtain ⟨s, p, hd, rfl⟩ := CType.record_of_recordName? hrecord
  have hplain : ¬ t.isRecognised := by
    intro hrecognised
    obtain ⟨k, s', p', hscalar, -⟩ := h hrecognised
    exact nomatch hd.symm.trans hscalar
  have hpointer : ¬ t.isPointer := by
    rw [CType.isPointer, CType.pointee?, hd]
    exact Bool.false_ne_true
  rw [arrangement_isOk_iff, or_iff_right hpointer, or_iff_right hplain, resolvedCall_isOk_iff, hd]

end Layout

/-! ## Fields that have accessors -/

namespace CType

variable {t : CType}

theorem isValue_of_recordName? {name : String} (hrecord : t.recordName? = some name) : t.IsValue := by
  obtain ⟨s, p, hd, -⟩ := record_of_recordName? hrecord
  rw [isValue_iff_node, hd]
  trivial

/-- A function pointer cannot be returned. -/
theorem not_isResult_of_isFunctionPointer (hfun : t.isFunctionPointer) : ¬ t.IsResult := by
  rintro (hvoid | hvalue)
  · obtain ⟨pointee, s, p, hd⟩ := pointer_of_isFunctionPointer hfun
    rw [isVoid, hd] at hvoid
    exact absurd hvoid Bool.false_ne_true
  · exact absurd ((isFunctionPointer_of_isValue hvalue).symm.trans hfun) Bool.false_ne_true

end CType

namespace DowncallUnit

/-- A unit can be had. -/
def Links (op : Operation) (spec : DowncallSpec) (ctx : Context) : Prop :=
  ∃ u, (link op spec ctx).outcome = .ok u

/-- The operation is unsupported, which costs its declaration alone. -/
def Refused (op : Operation) (spec : DowncallSpec) (ctx : Context) : Prop :=
  ∃ e, (link op spec ctx).outcome = .error e ∧ e.isRefusal

theorem links_iff {op : Operation} (hop : op.Offered) (spec : DowncallSpec) (ctx : Context) :
    Links op spec ctx ↔ OperationAccepted op .downcall := by
  rw [← Operation.link_isOk_iff ctx hop.placeable]
  constructor
  · rintro ⟨u, hu⟩
    exact ⟨u.linked, linked_of_link hu⟩
  · rintro ⟨linked, hlinked⟩
    obtain ⟨u, hu, -⟩ := exists_around hop hlinked spec
    exact ⟨u, hu⟩

theorem refused_of_not_accepted {op : Operation} (hop : op.Offered)
    (h : ¬ OperationAccepted op .downcall) (spec : DowncallSpec) (ctx : Context) :
    Refused op spec ctx := by
  have hends := link_ends hop spec ctx
  cases hu : (link op spec ctx).outcome with
  | ok u => exact absurd ((links_iff hop spec ctx).1 ⟨u, hu⟩) h
  | error e => exact ⟨e, hu, (hends.of_error hu).1⟩

end DowncallUnit

namespace NamedType

/-- The field can be read and written, by accessors of whatever names. -/
def HasAccessors (record : CType) (ctx : Context) (getter setter : DowncallSpec) (f : NamedType) :
    Prop :=
  DowncallUnit.Links (.getField record f) getter ctx ∧
    DowncallUnit.Links (.setField record f) setter ctx

/-- The field can neither be read nor written. -/
def LacksAccessors (record : CType) (ctx : Context) (getter setter : DowncallSpec) (f : NamedType) :
    Prop :=
  DowncallUnit.Refused (.getField record f) getter ctx ∧
    DowncallUnit.Refused (.setField record f) setter ctx

variable {record : CType} {f : NamedType}

theorem hasAccessors_iff (hrecord : record.recordName?.isSome) (ctx : Context)
    (getter setter : DowncallSpec) : f.HasAccessors record ctx getter setter ↔ f.type.IsValue := by
  rw [HasAccessors, DowncallUnit.links_iff (.get hrecord f), DowncallUnit.links_iff (.set hrecord f),
    getField_accepted_iff, setField_accepted_iff]
  exact and_iff_right_of_imp .inr

theorem lacksAccessors_of_isFunctionPointer (hrecord : record.recordName?.isSome)
    (hfun : f.type.isFunctionPointer) (ctx : Context) (getter setter : DowncallSpec) :
    f.LacksAccessors record ctx getter setter := by
  have hresult := CType.not_isResult_of_isFunctionPointer hfun
  constructor
  · refine DowncallUnit.refused_of_not_accepted (.get hrecord f) ?_ getter ctx
    rwa [getField_accepted_iff]
  · refine DowncallUnit.refused_of_not_accepted (.set hrecord f) ?_ setter ctx
    rw [setField_accepted_iff]
    exact fun hvalue => hresult (.inr hvalue)

theorem accessible_iff (hrecord : record.recordName?.isSome) (ctx : Context) :
    f.accessible record ctx = true ↔ f.type.IsValue := by
  rw [accessible, Bool.and_eq_true, Operation.links, Operation.links, isOk_iff, isOk_iff,
    Operation.link_isOk_iff ctx (Operation.Offered.get hrecord f).placeable,
    Operation.link_isOk_iff ctx (Operation.Offered.set hrecord f).placeable,
    getField_accepted_iff, setField_accepted_iff]
  exact and_iff_right_of_imp .inr

/-- Both accessors can be had if linking both has an answer. -/
theorem accessible_eq (record : CType) (ctx : Context) (f : NamedType) :
    f.accessible record ctx = (f.linkBoth record ctx).isOk := by
  rw [accessible, Operation.links, Operation.links, linkBoth]
  cases ((Operation.getField record f).link ctx .downcall).outcome with
  | error e => rfl
  | ok getter =>
    cases ((Operation.setField record f).link ctx .downcall).outcome with
    | error e => rfl
    | ok setter => rfl

end NamedType

/-! ## The fields of one struct -/

/-- A field of a placed struct is placed. -/
theorem Layout.exists_arrangement {c : Context} {d : StructDecl} {layout : StructLayout}
    (h : ofDecl c d = .ok layout) : ∀ f ∈ d.fields, ∃ a, arrangement c f.type = .ok a := by
  intro f hf
  rw [ofDecl] at h
  cases hplaced : d.fields.mapM (fieldLayout c) with
  | error e => simp only [hplaced, Except.map, reduceCtorEq] at h
  | ok placed =>
    obtain ⟨fieldPlaced, hfield⟩ := exists_of_mapM_eq_ok hplaced f hf
    cases hok : arrangement c f.type with
    | ok a => exact ⟨a, rfl⟩
    | error e => simp only [fieldLayout, hok, Except.map, reduceCtorEq] at hfield

namespace StructUnit

variable {c : Context} {d : StructDecl} {result : StructUnit × List Skipped}

/-- A unit with a layout has placed the struct. -/
theorem exists_ofDecl_of_layout (h : (link d c).outcome = .ok result)
    (hlayout : result.1.layout.isSome) : ∃ layout, Layout.ofDecl c d = .ok layout := by
  obtain ⟨w, hw⟩ := exists_wrapper_of_link h
  refine exists_layout_of_link hw ?_ h
  -- a unit whose wrapper asks for no layout has none
  by_contra hnone
  rw [link_outcome hw, layoutFor, if_neg hnone] at h
  obtain rfl := Except.ok.inj h
  exact absurd hlayout Bool.false_ne_true

/-- Where a struct is generated with its layout, the fields with accessors are those that are no function
pointers. -/
theorem accessible_of_layout (hnumeric : ∀ f ∈ d.fields, f.type.Numeric)
    (h : (link d c).outcome = .ok result) (hlayout : result.1.layout.isSome) :
    ∀ f ∈ d.fields, f.accessible d.recordType c = !f.type.isFunctionPointer := by
  obtain ⟨layout, hof⟩ := exists_ofDecl_of_layout h hlayout
  intro f hf
  have hplaced := Layout.exists_arrangement hof f hf
  rw [Bool.eq_iff_iff, NamedType.accessible_iff rfl, Bool.not_eq_true']
  refine ⟨CType.isFunctionPointer_of_isValue, fun hfun => ?_⟩
  cases hrecord : f.type.recordName? with
  | some name => exact CType.isValue_of_recordName? hrecord
  | none => exact (Layout.isOk_iff_isValue c (hnumeric f hf) hrecord hfun).1 hplaced

end StructUnit

/-- The unit is the one of the struct, and if it has a layout, then all fields but the function pointers
have accessors in it, in their order. -/
structure StructDecl.Served (c : Context) (d : StructDecl) (u : StructUnit) : Prop where
  name : u.nativeName = d.name
  accessors : u.layout.isSome → List.Forall₂ (NamedType.Kept d.recordType c)
    (d.fields.filter fun f => !f.type.isFunctionPointer) u.accessors

theorem StructDecl.served_of_link {c : Context} {d : StructDecl}
    (hnumeric : ∀ f ∈ d.fields, f.type.Numeric) {result : StructUnit × List Skipped}
    (h : (StructUnit.link d c).outcome = .ok result) : d.Served c result.1 := by
  have hkept := StructUnit.kept_of_link h
  refine ⟨hkept.name, fun hlayout => ?_⟩
  -- the fields are sifted by whether they are accessible, which here says what they are
  rw [← List.filter_congr (StructUnit.accessible_of_layout hnumeric h hlayout)]
  refine hkept.fields.forall₂_filter (fun f a ha => ?_) fun f s hs => ?_
  · rw [NamedType.accessible_eq, ha.made]
    rfl
  · rw [NamedType.accessible_eq, hs.reason]
    rfl

/-! ## Agreement -/

namespace Layout

/-- What layouts and accessors make of a field. -/
structure Agrees (ctx : Context) (record : CType) (getter setter : DowncallSpec) (f : NamedType) :
    Prop where
  /-- Apart from the two exceptions, a field is placed exactly if it has its accessors. -/
  ordinary : f.type.recordName? = none → f.type.isFunctionPointer = false →
    ((∃ a, arrangement ctx f.type = .ok a) ↔ f.HasAccessors record ctx getter setter)
  functionPointer : f.type.isFunctionPointer →
    (∃ a, arrangement ctx f.type = .ok a) ∧ f.LacksAccessors record ctx getter setter
  /-- A field that is a struct itself always has accessors, but is placed only by that struct's layout. -/
  nested : ∀ name, f.type.recordName? = some name → f.HasAccessors record ctx getter setter ∧
    ((∃ a, arrangement ctx f.type = .ok a) ↔ ∃ w, ctx.wrapper? name = some w ∧ w.layout = true ∧
      ∃ package javaName arguments notes, w.javaType = .object package javaName arguments notes)

theorem agrees {record : CType} {f : NamedType} (hrecord : record.recordName?.isSome)
    (h : f.type.Numeric) (ctx : Context) (getter setter : DowncallSpec) :
    Agrees ctx record getter setter f := by
  have haccessors := NamedType.hasAccessors_iff (f := f) hrecord ctx getter setter
  refine ⟨fun hname hfun => ?_, fun hfun => ⟨?_, ?_⟩, fun name hname => ⟨?_, ?_⟩⟩
  · rw [haccessors]
    exact isOk_iff_isValue ctx h hname hfun
  · exact isOk_of_isFunctionPointer ctx hfun
  · exact NamedType.lacksAccessors_of_isFunctionPointer hrecord hfun ctx getter setter
  · exact haccessors.2 (CType.isValue_of_recordName? hname)
  · rw [← layoutClass?_isSome_iff]
    exact isOk_iff_layoutClass ctx h hname

end Layout

namespace Generation

/-- Where recognised typedefs stand for numbers, layouts and accessors agree on every field; so of the
structs that a run generates with their layouts, nothing but function pointers is without accessors. -/
theorem layouts_agree :
    (∀ (record : CType) (f : NamedType) (ctx : Context) (getter setter : DowncallSpec),
      record.recordName?.isSome → f.type.Numeric → Layout.Agrees ctx record getter setter f) ∧
    ∀ (decls : Declarations) (ctx : Context),
      (∀ d ∈ decls.structs, ∀ f ∈ d.fields, f.type.Numeric) →
      ∃ g final, (run decls ctx).outcome = .ok (g, final) ∧
        List.Forall₂ (StructDecl.Served final)
          (decls.structs.filter fun d => d.name ∈ g.generatedStructs) g.structs := by
  refine ⟨fun record f ctx getter setter hrecord h => Layout.agrees hrecord h ctx getter setter,
    fun decls ctx hnumeric => ?_⟩
  obtain ⟨g, final, hrun⟩ := exists_run decls ctx
  obtain ⟨linked, settled, called, hstages⟩ := stages_of_run hrun
  obtain ⟨results, hlinked, hunits, -⟩ := hstages.structs_results
  refine ⟨g, final, hrun, ?_⟩
  rw [hunits, List.forall₂_map_right_iff]
  have hmembers : ∀ d ∈ decls.structs.filter fun d => d.name ∈ g.generatedStructs,
      ∀ f ∈ d.fields, f.type.Numeric := fun d hd => hnumeric d (List.mem_of_mem_filter hd)
  refine ((List.forall₂_and_left _ _).2 ⟨hmembers, hlinked⟩).imp fun d result hresult => ?_
  have hlink := hresult.2
  rw [← StructUnit.link_congr hstages.final_agrees] at hlink
  exact StructDecl.served_of_link hresult.1 hlink

/-- A struct that holds a length. -/
def inner : StructDecl :=
  ⟨"inner", [⟨"count", .typedefOf "size_t" (.ofScalar .unsignedLong "unsigned long")⟩]⟩

/-- A struct that holds the other one, a visitor and a code. -/
def outer : StructDecl :=
  ⟨"outer", [⟨"nested", .ofRecord "struct inner"⟩,
    ⟨"visit", .pointerTo (.function .void [.voidPointer])⟩,
    ⟨"code", .typedefOf "uint16_t" (.ofScalar .unsignedShort "unsigned short")⟩]⟩

/-- Both structs are generated with their layouts, and only the visitor is without accessors. -/
theorem layouts_agree_visitor :
    outer.recordType.recordName?.isSome ∧
      (∀ d ∈ [inner, outer], ∀ f ∈ d.fields, f.type.Numeric) ∧
      (∀ f ∈ outer.fields, Layout.Agrees { package := "geo", container := "Native" }
        outer.recordType (.ofName "get" (.ofClass "geo" "Outer"))
        (.ofName "set" (.ofClass "geo" "Outer")) f) ∧
      ∃ g final, (run { structs := [inner, outer] }
          { package := "geo", container := "Native",
            rules := { structs := [⟨fun _ => true, { option := some true }⟩] } }).outcome =
          .ok (g, final) ∧
        g.structs.map (fun u => (u.nativeName, u.layout.isSome)) =
          [("inner", true), ("outer", true)] ∧
        List.Forall₂ (StructDecl.Served final) [inner, outer] g.structs ∧
        g.structs.map (fun u => u.accessors.map FieldAccessors.field) =
          [["count"], ["nested", "code"]] := by
  have hrecord : outer.recordType.recordName?.isSome := rfl
  have hinner : ∀ f ∈ inner.fields, f.type.Numeric :=
    List.forall_mem_singleton.2 fun _ => ⟨_, _, _, rfl, nofun⟩
  have houter : ∀ f ∈ outer.fields, f.type.Numeric := by
    refine List.forall_mem_cons.2 ⟨fun h => absurd h (by decide), List.forall_mem_cons.2 ⟨?_, ?_⟩⟩
    · exact fun h => absurd h (by decide)
    · exact List.forall_mem_singleton.2 fun _ => ⟨_, _, _, rfl, nofun⟩
  have hnumeric : ∀ d ∈ [inner, outer], ∀ f ∈ d.fields, f.type.Numeric :=
    List.forall_mem_cons.2 ⟨hinner, List.forall_mem_singleton.2 houter⟩
  obtain ⟨hfields, hruns⟩ := layouts_agree
  obtain ⟨g, final, hrun, hserved⟩ := hruns { structs := [inner, outer] }
    { package := "geo", container := "Native",
      rules := { structs := [⟨fun _ => true, { option := some true }⟩] } } hnumeric
  have hgenerated : ∃ g final, (run { structs := [inner, outer] }
      { package := "geo", container := "Native",
        rules := { structs := [⟨fun _ => true, { option := some true }⟩] } }).outcome =
      .ok (g, final) ∧
      g.structs.map (fun u => (u.nativeName, u.layout.isSome)) =
        [("inner", true), ("outer", true)] ∧
      g.structs.map (fun u => u.accessors.map FieldAccessors.field) =
        [["count"], ["nested", "code"]] :=
    ⟨_, _, run_of_stages ⟨rfl, settle_of_none_failed rfl rfl, rfl, rfl⟩, rfl, rfl⟩
  obtain ⟨g', final', hrun', hstructs, haccessors⟩ := hgenerated
  obtain ⟨rfl, rfl⟩ := Prod.mk.inj (Except.ok.inj (hrun.symm.trans hrun'))
  have hnames : g.generatedStructs = ["inner", "outer"] := by
    have hfirst := congrArg (List.map Prod.fst) hstructs
    rwa [List.map_map] at hfirst
  rw [hnames] at hserved
  exact ⟨hrecord, hnumeric, fun f hf => hfields _ f _ _ _ hrecord (houter f hf), g, final, hrun,
    hstructs, hserved, haccessors⟩

end Generation

end JniBridge
