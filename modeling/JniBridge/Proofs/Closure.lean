import JniBridge.Proofs.Cascade
import JniBridge.Proofs.Reference
/-
The output of a run is closed.

The registry shrinks while structs are linked, and what is linked in an early round may refer to a
wrapper that is withdrawn later.  Nothing of that is left in the output: all units come from the last
round or after it, under the wrappers of the structs that are kept, and each of these has its unit
(`Stages.knows`).  So every class that a linkage refers to is generated, down to the linkages of
callbacks (`run_closed`).

It is assumed that nothing is registered before the run: what was registered then is not generated.
-/

namespace JniBridge

open Linking

/-- The annotation by which an integer is tied to the constants of an enum class. -/
def EnumUnit.magicConstant (unit : EnumUnit) (package : String) : String :=
  Vocabulary.magicConstant ++ "(flagsFromClass = " ++ package ++ "." ++ unit.javaName ++ ".class)"

/-- What is referred to is generated. -/
def Reference.Resolved (g : Generation) (package : String) : Reference → Prop
  | .wrapper record javaClass =>
    ∃ u ∈ g.structs, u.nativeName = record ∧ u.javaType.name? = some javaClass
  | .constants note => ∃ unit ∈ g.enums, note = unit.magicConstant package
  | .interface type => ∃ cb ∈ g.callbacks, cb.type = type

/-- All that the linkage refers to is generated. -/
def Linkage.Resolved (l : Linkage) (g : Generation) (package : String) : Prop :=
  ∀ r ∈ l.references, r.Resolved g package

/-- No linkage of what is generated refers to a class that is not. -/
structure Generation.Closed (g : Generation) (final : Context) : Prop where
  functions : ∀ f ∈ g.functions, f.method.linkage.Resolved g final.package
  accessors : ∀ s ∈ g.structs, ∀ a ∈ s.accessors,
    a.getter.linkage.Resolved g final.package ∧ a.setter.linkage.Resolved g final.package
  callbacks : ∀ cb ∈ g.callbacks, cb.method.linkage.Resolved g final.package
  /-- A callback is linked without making callbacks of its own, which would be missing here. -/
  nested : ∀ cb ∈ g.callbacks, (cb.method.linkage.operation.link final .upcall).outcome =
    .ok ⟨cb.method.linkage, []⟩

/-! ## One unit -/

theorem Linking.Knows.congr {c c' : Context} {P : Reference → Prop} (h : Knows c' P)
    (hagrees : c.Agrees c') : Knows c P where
  wrapper := fun record w hw => h.wrapper record w (hagrees.wrapper record ▸ hw)
  constants := by
    intro enumeration henum
    have hmagic : magicConstant c enumeration = magicConstant c' enumeration := by
      rw [magicConstant, magicConstant, hagrees.package]
    rw [hmagic]
    exact h.constants enumeration (hagrees.enums enumeration ▸ henum)

namespace DowncallUnit

variable {op : Operation} {spec : DowncallSpec} {c : Context} {u : DowncallUnit}

/-- The callbacks of a unit are made for it, under its context. -/
theorem nested_of_link (hop : op.Offered) (h : (link op spec c).outcome = .ok u) :
    ∀ cb ∈ u.linked.callbacks, cb.Nested c := by
  have hlinked := (hop.link_ends c).of_ok (linked_of_link h)
  obtain ⟨rs, hrs, -, hcallbacks⟩ := hlinked.params
  intro cb hcb
  rw [hcallbacks] at hcb
  obtain ⟨parameter, proto, hcreate⟩ := hrs.created cb hcb
  exact CallbackInterface.nested_of_create hcreate

/-- If the callbacks of a unit are generated, all is that it refers to. -/
theorem resolved_of_link {P : Reference → Prop} (hknows : Knows c P) (hop : op.Offered)
    (h : (link op spec c).outcome = .ok u)
    (hcallbacks : ∀ cb ∈ u.linked.callbacks, P (.interface cb.type)) :
    ∀ r ∈ u.linkage.references, P r := by
  have hreceivers : ∀ p ∈ op.params, PlainReceiver p := fun p hp callback hrole =>
    absurd hrole (hop.not_callback p hp callback)
  refine references_of_linkWith hknows (spawning_policy op c .downcall) hreceivers
    (linked_of_link h) fun cb hcb => ⟨?_, hcallbacks cb hcb⟩
  exact (nested_of_link hop h cb hcb).type

end DowncallUnit

/-- All that a callback refers to is known, too. -/
theorem CallbackInterface.Nested.references {cb : CallbackInterface} {c : Context}
    {P : Reference → Prop} (h : cb.Nested c) (hknows : Knows c P) :
    ∀ r ∈ cb.method.linkage.references, P r :=
  references_of_linkWith hknows (spawning_policy _ c .upcall) h.receivers h.linked
    (List.forall_mem_nil _)

/-! ## The units of a run -/

namespace Generation

variable {decls : Declarations} {ctx : Context} {linked : List (Except Skipped EnumUnit)}
  {settled : Settled} {called : List (Except Skipped FunctionUnit)} {g : Generation}
  {final : Context}

/-- The unit of a struct is named after it and has the type of its wrapper. -/
theorem named_of_link {c : Context} {d : StructDecl} {w : Wrapper} {u : StructUnit}
    {fields : List Skipped} (hw : c.wrapper? d.name = some w)
    (h : (StructUnit.link d c).outcome = .ok (u, fields)) :
    u.nativeName = d.name ∧ u.javaType = w.javaType := by
  unfold StructUnit.link at h
  rw [hw] at h
  obtain ⟨layout, -, h⟩ := exists_of_bind_eq_ok h
  obtain ⟨results, -, h⟩ := exists_of_bind_eq_ok h
  obtain ⟨rfl, -⟩ := Prod.mk.inj (Except.ok.inj h)
  exact ⟨rfl, rfl⟩

/-- The accessors of a struct are linked under the context of its unit. -/
theorem accessors_of_link {c : Context} {d : StructDecl} {u : StructUnit} {fields : List Skipped}
    (h : (StructUnit.link d c).outcome = .ok (u, fields)) :
    ∀ a ∈ u.accessors, ∃ field getter setter,
      (DowncallUnit.link (.getField d.recordType field) getter c).outcome = .ok a.getter ∧
        (DowncallUnit.link (.setField d.recordType field) setter c).outcome = .ok a.setter := by
  unfold StructUnit.link at h
  split at h
  · exact nomatch h
  · obtain ⟨layout, -, h⟩ := exists_of_bind_eq_ok h
    obtain ⟨results, hresults, h⟩ := exists_of_bind_eq_ok h
    obtain ⟨rfl, -⟩ := Prod.mk.inj (Except.ok.inj h)
    intro a ha
    obtain ⟨r, hr, hsome⟩ := List.mem_filterMap.1 ha
    obtain ⟨f, -, hlinked⟩ := exists_mem_of_forall₂ (forall₂_of_mapM_eq_ok hresults) r hr
    rcases linked_of_linkField hlinked with ⟨a', rfl, hlink⟩ | ⟨e, rfl⟩
    · obtain rfl := Option.some.inj hsome
      obtain ⟨getter, hgetter, hlink⟩ := exists_of_bind_eq_ok hlink
      obtain ⟨setter, hsetter, hlink⟩ := exists_of_bind_eq_ok hlink
      obtain rfl := Except.ok.inj hlink
      exact ⟨f.field, _, _, hgetter, hsetter⟩
    · exact nomatch hsome

/-- A function is linked under the settled context, whatever method names were asked for before. -/
theorem Stages.function_linked (h : Stages decls ctx linked settled called g final) :
    ∀ f ∈ g.functions, ∃ d spec,
      (DowncallUnit.link (.callNative d) spec settled.ctx).outcome = .ok f.method := by
  intro f hf
  rw [h.generated] at hf
  obtain ⟨r, hr, hsome⟩ := List.mem_filterMap.1 hf
  obtain ⟨d, -, requested, javaName, exposeRaw, hlinked⟩ := linked_of_linkFunctions h.functions r hr
  rcases linked_of_linkFunction hlinked with ⟨f', rfl, hlink⟩ | ⟨e, rfl⟩
  · obtain rfl := Option.some.inj hsome
    obtain ⟨method, hmethod, hlink⟩ := exists_of_bind_eq_ok hlink
    obtain rfl := Except.ok.inj hlink
    refine ⟨d, { DowncallSpec.ofName javaName settled.ctx.containerType with exposeRaw }, ?_⟩
    rw [← DowncallUnit.link_congr (settled.ctx.agrees_requested requested)]
    exact hmethod
  · exact nomatch hsome

/-- What the functions do to the context is not looked at. -/
theorem Stages.final_agrees (h : Stages decls ctx linked settled called g final) :
    final.Agrees settled.ctx := by
  have hall : ∀ d ∈ decls.functions, d ∈ decls.functions := fun _ hd => hd
  obtain ⟨⟨requested, hfinal⟩, -⟩ := (linkFunctions_ends settled.ctx hall).of_ok h.functions
  have hlast : final = { settled.ctx with requested } := hfinal
  rw [hlast]
  exact settled.ctx.agrees_requested requested

/-- Nothing was registered before the run. -/
structure Fresh (ctx : Context) : Prop where
  structs : ∀ name, ctx.wrapper? name = none
  enums : ctx.enums = []

/-- A wrapper in the end is that of a struct which is kept, and so has its unit. -/
theorem Stages.exists_unit_of_wrapper (h : Stages decls ctx linked settled called g final)
    (hfresh : Fresh ctx) {record : String} {w : Wrapper}
    (hw : settled.ctx.wrapper? record = some w) :
    w.javaType.references = [] ∧
      ∃ u ∈ g.structs, u.nativeName = record ∧ u.javaType = w.javaType := by
  obtain ⟨kept, hsettles⟩ := h.exists_settles
  have hstructs : g.structs = settled.units := by rw [h.generated]
  rw [hsettles.context.wrapper] at hw
  have hregistered := hw
  rw [wrapper?_keeping] at hw
  by_cases hchosen : record ∈ structNames (candidates ctx decls.structs)
  · rw [if_pos hchosen] at hw
    by_cases hkept : record ∈ kept
    · rw [if_pos hkept] at hw
      obtain rfl := Option.some.inj hw
      obtain ⟨d, hd, rfl⟩ := mem_structNames.1 hchosen
      have hmem : d ∈ (candidates ctx decls.structs).filter fun d => d.name ∈ kept :=
        List.mem_filter.2 ⟨hd, decide_eq_true hkept⟩
      obtain ⟨u, hu, fields, hlink⟩ := exists_mem_of_forall₂ hsettles.units.flip d hmem
      refine ⟨?_, u, hstructs ▸ hu, named_of_link hregistered hlink⟩
      rw [wrapperFor, Context.nestedType, JavaType.references_ofClass]
    · rw [if_neg hkept] at hw
      cases hw
  · rw [if_neg hchosen, registerEnums_eq] at hw
    cases (hfresh.structs record).symm.trans hw

/-- An enum that is known in the end has its unit. -/
theorem Stages.exists_unit_of_enum (h : Stages decls ctx linked settled called g final)
    (hfresh : Fresh ctx) {enumeration : String} (henum : settled.ctx.hasEnum enumeration = true) :
    ∃ unit ∈ g.enums, unit.nativeName = enumeration := by
  obtain ⟨kept, hsettles⟩ := h.exists_settles
  obtain ⟨structs, hkeeping⟩ := keeping_eq (registerEnums ctx g.enums)
    (candidates ctx decls.structs) kept
  rw [hsettles.context.enums, hkeeping, registerEnums_eq, hfresh.enums, List.append_nil] at henum
  refine List.mem_map.1 ?_
  rw [← List.mem_reverse]
  exact List.contains_iff_mem.1 henum

/-- The unit of an enum is named after it, and so is its class. -/
theorem named_of_ofDecl {d : EnumDecl} {unit : EnumUnit} (h : EnumUnit.ofDecl d = .ok unit) :
    unit.nativeName = d.name ∧ unit.javaName = Naming.escape d.name := by
  rw [EnumUnit.ofDecl] at h
  cases hfields : d.constants.mapM (EnumUnit.field d.name) with
  | error e => simp only [hfields, Except.map, reduceCtorEq] at h
  | ok fields =>
    rw [hfields] at h
    obtain rfl := Except.ok.inj h
    exact ⟨rfl, rfl⟩

/-- The class of an enum is named after it. -/
theorem Stages.javaName_of_enum (h : Stages decls ctx linked settled called g final)
    {unit : EnumUnit} (hunit : unit ∈ g.enums) :
    unit.javaName = Naming.escape unit.nativeName := by
  rw [h.generated] at hunit
  obtain ⟨r, hr, hsome⟩ := List.mem_filterMap.1 hunit
  obtain ⟨d, -, hlinked⟩ := exists_mem_of_forall₂ (forall₂_of_mapM_eq_ok h.enums) r hr
  rcases linked_of_linkEnum hlinked with ⟨unit', rfl, hof⟩ | ⟨e, rfl⟩
  · obtain rfl := Option.some.inj hsome
    obtain ⟨hname, hjava⟩ := named_of_ofDecl hof
    rw [hjava, hname]
  · cases hsome

/-- Under the settled context all that can be referred to is generated. -/
theorem Stages.knows (h : Stages decls ctx linked settled called g final) (hfresh : Fresh ctx) :
    Knows settled.ctx (Reference.Resolved g final.package) where
  wrapper := by
    intro record w hw
    obtain ⟨hplain, u, hu, hname, htype⟩ := h.exists_unit_of_wrapper hfresh hw
    constructor
    · intro javaClass hclass
      exact ⟨u, hu, hname, htype ▸ hclass⟩
    · rw [hplain]
      exact List.forall_mem_nil _
  constants := by
    intro enumeration henum
    obtain ⟨unit, hunit, rfl⟩ := h.exists_unit_of_enum hfresh henum
    refine ⟨unit, hunit, ?_⟩
    rw [magicConstant, EnumUnit.magicConstant, h.javaName_of_enum hunit, h.final_agrees.package]

/-- Whoever is called back is called back by a function or by an accessor. -/
theorem mem_callbacks_of_function {f : FunctionUnit} (hf : f ∈ g.functions)
    {cb : CallbackInterface} (hcb : cb ∈ f.method.linked.callbacks) : cb ∈ g.callbacks := by
  refine List.mem_flatMap.2 ⟨f.method, List.mem_append_left _ ?_, hcb⟩
  exact List.mem_map_of_mem hf

theorem mem_callbacks_of_accessor {s : StructUnit} (hs : s ∈ g.structs) {a : FieldAccessors}
    (ha : a ∈ s.accessors) {u : DowncallUnit} (hu : u ∈ [a.getter, a.setter])
    {cb : CallbackInterface} (hcb : cb ∈ u.linked.callbacks) : cb ∈ g.callbacks := by
  refine List.mem_flatMap.2 ⟨u, List.mem_append_right _ ?_, hcb⟩
  exact List.mem_flatMap.2 ⟨s, hs, List.mem_flatMap.2 ⟨a, ha, hu⟩⟩

/-- Every unit that has a method in native code is linked under the settled context. -/
theorem Stages.method_linked (h : Stages decls ctx linked settled called g final) :
    (∀ f ∈ g.functions, ∃ op spec, op.Offered ∧
        (DowncallUnit.link op spec settled.ctx).outcome = .ok f.method) ∧
      ∀ s ∈ g.structs, ∀ a ∈ s.accessors, ∀ u ∈ [a.getter, a.setter], ∃ op spec, op.Offered ∧
        (DowncallUnit.link op spec settled.ctx).outcome = .ok u := by
  constructor
  · intro f hf
    obtain ⟨d, spec, hlink⟩ := h.function_linked f hf
    exact ⟨_, spec, .call d, hlink⟩
  · intro s hs a ha u hu
    obtain ⟨kept, hsettles⟩ := h.exists_settles
    rw [h.generated] at hs
    obtain ⟨d, -, fields, hlink⟩ := exists_mem_of_forall₂ hsettles.units s hs
    rw [← StructUnit.link_congr hsettles.context] at hlink
    obtain ⟨field, getter, setter, hgetter, hsetter⟩ := accessors_of_link hlink a ha
    rcases List.mem_pair.1 hu with rfl | rfl
    · exact ⟨_, getter, .get rfl field, hgetter⟩
    · exact ⟨_, setter, .set rfl field, hsetter⟩

/-- Every callback that is generated is made under the settled context. -/
theorem Stages.callbacks_nested (h : Stages decls ctx linked settled called g final) :
    ∀ cb ∈ g.callbacks, cb.Nested settled.ctx := by
  obtain ⟨hfunctions, haccessors⟩ := h.method_linked
  intro cb hcb
  obtain ⟨u, hu, hcb⟩ := List.mem_flatMap.1 hcb
  rcases List.mem_append.1 hu with hu | hu
  · obtain ⟨f, hf, rfl⟩ := List.mem_map.1 hu
    obtain ⟨op, spec, hop, hlink⟩ := hfunctions f hf
    exact DowncallUnit.nested_of_link hop hlink cb hcb
  · obtain ⟨s, hs, hu⟩ := List.mem_flatMap.1 hu
    obtain ⟨a, ha, hu⟩ := List.mem_flatMap.1 hu
    obtain ⟨op, spec, hop, hlink⟩ := haccessors s hs a ha u hu
    exact DowncallUnit.nested_of_link hop hlink cb hcb

/-- A run generates into the package that it is given. -/
theorem Stages.final_package (h : Stages decls ctx linked settled called g final) :
    final.package = ctx.package := by
  obtain ⟨kept, hsettles⟩ := h.exists_settles
  obtain ⟨structs, hkeeping⟩ := keeping_eq (registerEnums ctx g.enums)
    (candidates ctx decls.structs) kept
  rw [h.final_agrees.package, hsettles.context.package, hkeeping, registerEnums_eq]

/-- A run under a fresh context ends, and its output is closed. -/
theorem run_closed (decls : Declarations) (ctx : Context) (hfresh : Fresh ctx) :
    ∃ g final, (run decls ctx).outcome = .ok (g, final) ∧ final.package = ctx.package ∧
      g.Closed final := by
  obtain ⟨g, final, hrun⟩ := exists_run decls ctx
  obtain ⟨linked, settled, called, hstages⟩ := stages_of_run hrun
  have hknows := hstages.knows hfresh
  have hnested := hstages.callbacks_nested
  obtain ⟨hfunctions, haccessors⟩ := hstages.method_linked
  have hresolved : ∀ {op : Operation} {spec : DowncallSpec} {u : DowncallUnit}, op.Offered →
      (DowncallUnit.link op spec settled.ctx).outcome = .ok u →
      (∀ cb ∈ u.linked.callbacks, cb ∈ g.callbacks) → u.linkage.Resolved g final.package :=
    fun hop hlink hcallbacks => DowncallUnit.resolved_of_link hknows hop hlink fun cb hcb =>
      ⟨cb, hcallbacks cb hcb, rfl⟩
  refine ⟨g, final, hrun, hstages.final_package, ⟨fun f hf => ?_, fun s hs a ha => ⟨?_, ?_⟩,
    fun cb hcb => ?_, fun cb hcb => ?_⟩⟩
  · obtain ⟨op, spec, hop, hlink⟩ := hfunctions f hf
    exact hresolved hop hlink fun cb hcb => mem_callbacks_of_function hf hcb
  · obtain ⟨op, spec, hop, hlink⟩ := haccessors s hs a ha a.getter (by simp)
    exact hresolved hop hlink fun cb hcb => mem_callbacks_of_accessor hs ha (by simp) hcb
  · obtain ⟨op, spec, hop, hlink⟩ := haccessors s hs a ha a.setter (by simp)
    exact hresolved hop hlink fun cb hcb => mem_callbacks_of_accessor hs ha (by simp) hcb
  · exact (hnested cb hcb).references hknows
  · rw [Operation.link_congr hstages.final_agrees]
    exact (hnested cb hcb).linked

/-- A picture with a point, a colour and a visitor: the function that draws it refers to one class of
each kind. -/
theorem run_closed_picture :
    Fresh { package := "geo", container := "Native" } ∧
      ∃ g final, (run
          { functions := [⟨"draw", .ofRecord "struct Point",
              [⟨"color", .ofEnumeration "enum Color"⟩,
                ⟨"visitor", .pointerTo (.function .void [.ofScalar .int "int", .voidPointer])⟩,
                ⟨"context", .voidPointer⟩]⟩]
            structs := [⟨"Point", [⟨"x", .ofScalar .int "int"⟩]⟩]
            enums := [⟨"Color", [⟨"RED", some (.unsigned 0)⟩]⟩] }
          { package := "geo", container := "Native" }).outcome = .ok (g, final) ∧
        g.functions.flatMap (fun f => f.method.linkage.references) =
          [.constants
              "@org.intellij.lang.annotations.MagicConstant(flagsFromClass = geo.Color.class)",
            .interface (.ofClass "geo" "Native.Callback_draw_visitor"),
            .wrapper "Point" "Native.Point"] ∧
        g.Closed final := by
  have hfresh : Fresh { package := "geo", container := "Native" } := ⟨fun _ => rfl, rfl⟩
  obtain ⟨g, final, hrun, -, hclosed⟩ := run_closed
    { functions := [⟨"draw", .ofRecord "struct Point",
        [⟨"color", .ofEnumeration "enum Color"⟩,
          ⟨"visitor", .pointerTo (.function .void [.ofScalar .int "int", .voidPointer])⟩,
          ⟨"context", .voidPointer⟩]⟩]
      structs := [⟨"Point", [⟨"x", .ofScalar .int "int"⟩]⟩]
      enums := [⟨"Color", [⟨"RED", some (.unsigned 0)⟩]⟩] }
    { package := "geo", container := "Native" } hfresh
  refine ⟨hfresh, g, final, hrun, ?_, hclosed⟩
  obtain ⟨linked, settled, called, hstages⟩ := stages_of_run hrun
  obtain rfl := Except.ok.inj hstages.enums
  have hsettled := hstages.structs
  rw [settle] at hsettled
  obtain rfl := Except.ok.inj hsettled
  obtain ⟨rfl, rfl⟩ := Prod.mk.inj (Except.ok.inj hstages.functions)
  rw [hstages.generated]
  rfl

end Generation

end JniBridge
