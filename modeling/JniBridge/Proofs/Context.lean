import JniBridge.Unit.Struct
/-
What linking looks at in a context.

Linking reads the package, the container, the names of members, which enums are registered and which
wrapper a struct has.  It sees neither the rules nor the method names asked for so far, and of the
registry it sees the answers only, not how they are kept.  Contexts that agree on what is read
(`Context.Agrees`) cannot be told apart: linking gives the same under both, events included, and so do
layouts and the units of structs.

Wrappers are registered and withdrawn in long rows, of which only the names matter
(`wrapper?_registerEach`, `wrapper?_unregisterEach`).
-/

namespace JniBridge

/-- The contexts agree on all that linking looks at. -/
structure Context.Agrees (c c' : Context) : Prop where
  package : c.package = c'.package
  container : c.container = c'.container
  names : c.names = c'.names
  enums : ∀ enumeration, c.hasEnum enumeration = c'.hasEnum enumeration
  wrapper : ∀ record, c.wrapper? record = c'.wrapper? record

/-- Nothing looks at the method names that were asked for. -/
theorem Context.agrees_requested (ctx : Context) (requested : List (String × String)) :
    Context.Agrees { ctx with requested } ctx where
  package := rfl
  container := rfl
  names := rfl
  enums := fun _ => rfl
  wrapper := fun _ => rfl

namespace Context.Agrees

variable {c c' c'' : Context}

theorem refl (c : Context) : c.Agrees c :=
  ⟨rfl, rfl, rfl, fun _ => rfl, fun _ => rfl⟩

theorem symm (h : c.Agrees c') : c'.Agrees c where
  package := h.package.symm
  container := h.container.symm
  names := h.names.symm
  enums := fun enumeration => (h.enums enumeration).symm
  wrapper := fun record => (h.wrapper record).symm

theorem trans (h : c.Agrees c') (h' : c'.Agrees c'') : c.Agrees c'' where
  package := h.package.trans h'.package
  container := h.container.trans h'.container
  names := h.names.trans h'.names
  enums := fun enumeration => (h.enums enumeration).trans (h'.enums enumeration)
  wrapper := fun record => (h.wrapper record).trans (h'.wrapper record)

/-- What is registered may be kept in different ways. -/
theorem withStructs (h : c.Agrees c') {structs structs' : Registry Wrapper}
    (hstructs : ∀ record, structs.get? record = structs'.get? record) :
    Context.Agrees { c with structs } { c' with structs := structs' } where
  package := h.package
  container := h.container
  names := h.names
  enums := h.enums
  wrapper := hstructs

end Context.Agrees

/-! ## Rows of registrations -/

section rows

variable {α : Type} (name : α → String) (ctx : Context) (xs : List α) (record : String)

/-- Whoever is registered in the row has the wrapper of its name, whatever was there before. -/
theorem Context.wrapper?_registerEach (wrapper : String → Wrapper) :
    (xs.foldl (fun c x => c.registerStruct (name x) (wrapper (name x))) ctx).wrapper? record =
      if record ∈ xs.map name then some (wrapper record) else ctx.wrapper? record := by
  induction xs generalizing ctx with
  | nil => rfl
  | cons x xs ih =>
    have hfirst : (ctx.registerStruct (name x) (wrapper (name x))).wrapper? record =
        if record = name x then some (wrapper (name x)) else ctx.wrapper? record :=
      Registry.get?_insert ctx.structs (name x) record (wrapper (name x))
    rw [List.foldl_cons, ih, hfirst, List.map_cons]
    by_cases hrest : record ∈ xs.map name
    · rw [if_pos hrest, if_pos (List.mem_cons_of_mem _ hrest)]
    · by_cases hname : record = name x
      · simp [hname]
      · simp [hrest, hname]

/-- Whoever is in the row has no wrapper left. -/
theorem Context.wrapper?_unregisterEach :
    (xs.foldl (fun c x => c.unregisterStruct (name x)) ctx).wrapper? record =
      if record ∈ xs.map name then none else ctx.wrapper? record := by
  induction xs generalizing ctx with
  | nil => rfl
  | cons x xs ih =>
    have hfirst : (ctx.unregisterStruct (name x)).wrapper? record =
        if record = name x then none else ctx.wrapper? record :=
      Registry.get?_erase ctx.structs (name x) record
    rw [List.foldl_cons, ih, hfirst, List.map_cons]
    by_cases hrest : record ∈ xs.map name
    · rw [if_pos hrest, if_pos (List.mem_cons_of_mem _ hrest)]
    · by_cases hname : record = name x
      · simp [hname]
      · simp [hrest, hname]

/-- A row of changes to the registry changes nothing else. -/
theorem Context.foldl_structs {change : Context → α → Context}
    (h : ∀ c x, ∃ structs, change c x = { c with structs }) :
    ∃ structs, xs.foldl change ctx = { ctx with structs } := by
  induction xs generalizing ctx with
  | nil => exact ⟨ctx.structs, rfl⟩
  | cons x xs ih =>
    obtain ⟨structs, hx⟩ := h ctx x
    obtain ⟨structs', hxs⟩ := ih (change ctx x)
    exact ⟨structs', by rw [List.foldl_cons, hxs, hx]⟩

end rows

/-- Nested classes are told apart by their names. -/
theorem Context.nestedType_injective (ctx : Context) : Function.Injective ctx.nestedType := by
  intro name name' h
  have hname : ctx.container ++ "." ++ name = ctx.container ++ "." ++ name' :=
    (JavaType.object.inj h).2.1
  exact (String.append_right_inj _).1 hname

/-! ## Linking under contexts that agree -/

variable {c c' : Context}

namespace Linking

variable (op : Operation) (d : Direction)

theorem nestedType_congr (h : c.Agrees c') (name : String) :
    c.nestedType name = c'.nestedType name := by
  rw [Context.nestedType, Context.nestedType, h.package, h.container]

theorem linkStruct_congr (h : c.Agrees c') (t : CType) (record : String) :
    linkStruct op c t record = linkStruct op c' t record := by
  rw [linkStruct, linkStruct, h.wrapper]

theorem linkEnum_congr (h : c.Agrees c') (t : CType) (enumeration : String) :
    linkEnum c t enumeration = linkEnum c' t enumeration := by
  rw [linkEnum, linkEnum, h.enums, magicConstant, magicConstant, h.package]

theorem classifyWith_congr (h : c.Agrees c') (rule : PointerPolicy) (t : CType)
    (position : Position) :
    classifyWith rule op c d t position = classifyWith rule op c' d t position := by
  unfold classifyWith
  split <;> simp only [linkStruct_congr op h, linkEnum_congr h]

theorem linkParameters_congr (h : c.Agrees c') (rule : PointerPolicy) (pending : Option Pending)
    (i : Nat) (ps : List OperationParameter) :
    linkParameters rule op c d pending i ps = linkParameters rule op c' d pending i ps := by
  induction ps generalizing pending i with
  | nil => cases pending <;> rfl
  | cons p ps ih =>
    cases pending with
    | none => simp only [linkParameters, classifyParameter, classifyWith_congr op d h, ih]
    | some waiting => simp only [linkParameters, ih]

theorem linkWith_congr (h : c.Agrees c') (rule : PointerPolicy) :
    linkWith rule op c d = linkWith rule op c' d := by
  simp only [linkWith, linkReturn, classifyWith_congr op d h, linkParameters_congr op d h]

theorem create_congr (h : c.Agrees c') (operation parameter : String) (proto : CType) :
    CallbackInterface.create operation parameter proto c =
      CallbackInterface.create operation parameter proto c' := by
  simp only [CallbackInterface.create, nestedType_congr h, linkWith_congr _ _ h, h.names]

theorem policy_congr (h : c.Agrees c') : policy op c d = policy op c' d := by
  cases d with
  | upcall => rfl
  | downcall =>
    funext t proto position
    cases position with
    | returned => rfl
    | parameter index => simp only [policy, spawnCallback, create_congr h]

end Linking

/-- Contexts that agree link an operation in the same way. -/
theorem Operation.link_congr (h : c.Agrees c') (op : Operation) (d : Direction) :
    op.link c d = op.link c' d := by
  rw [Operation.link, Operation.link, Linking.policy_congr op d h, Linking.linkWith_congr op d h]

theorem DowncallUnit.link_congr (h : c.Agrees c') (op : Operation) (spec : DowncallSpec) :
    DowncallUnit.link op spec c = DowncallUnit.link op spec c' := by
  rw [DowncallUnit.link, DowncallUnit.link, Operation.link_congr h]

theorem FunctionUnit.link_congr (h : c.Agrees c') (decl : FunctionDecl) (javaName : String)
    (exposeRaw : Bool) :
    FunctionUnit.link decl javaName exposeRaw c = FunctionUnit.link decl javaName exposeRaw c' := by
  simp only [FunctionUnit.link, Context.containerType, h.package, h.container,
    DowncallUnit.link_congr h]

theorem StructUnit.linkField_congr (h : c.Agrees c') (decl : StructDecl) (javaType : JavaType) :
    StructUnit.linkField c decl javaType = StructUnit.linkField c' decl javaType := by
  funext f
  simp only [StructUnit.linkField, StructUnit.linkAccessors, DowncallUnit.link_congr h]

theorem Layout.ofDecl_congr (h : c.Agrees c') (decl : StructDecl) :
    Layout.ofDecl c decl = Layout.ofDecl c' decl := by
  have hfield : Layout.fieldLayout c = Layout.fieldLayout c' := by
    funext f
    simp only [Layout.fieldLayout, Layout.arrangement, Layout.call, Layout.resolvedCall,
      Layout.layoutClass?, h.wrapper, h.names]
  rw [Layout.ofDecl, Layout.ofDecl, hfield, h.names]

/-- So the unit of a struct is the same under both. -/
theorem StructUnit.link_congr (h : c.Agrees c') (decl : StructDecl) :
    StructUnit.link decl c = StructUnit.link decl c' := by
  simp only [StructUnit.link, StructUnit.layoutFor, Layout.ofDecl_congr h, h.wrapper,
    StructUnit.linkField_congr h]

end JniBridge
