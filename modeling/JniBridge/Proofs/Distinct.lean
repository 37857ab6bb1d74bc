import Mathlib.Data.List.Flatten
import JniBridge.Proofs.Mangling
import JniBridge.Proofs.MethodNames
/-
When the methods of a class have different names.

The raw method and the symbol of a downcall are called after its Java method, so it is enough to look at
Java names (`DowncallUnit.distinct_iff`).  Numbering makes these different as long as no name is given out
for two bases, for the functions of a run as for the accessors of a struct (`Generation.names_distinct`).
It does not see to that itself: a name that is numbered may well be asked for later
(`Generation.names_repeated`).
-/

namespace JniBridge

open Naming

/-! ## Methods of one class -/

namespace DowncallUnit

/-- The Java methods have different names, their raw methods too, and if the names hold no separators,
their symbols. -/
structure Distinct (us : List DowncallUnit) : Prop where
  java : (us.map fun u => u.javaMethod.name).Nodup
  raw : (us.map fun u => u.rawMethod.name).Nodup
  symbols : (∀ u ∈ us, Symbol.Unseparated u.javaMethod.name) →
    (us.map fun u => u.glueMethod.name).Nodup

variable {owner : JavaType} {names : List String} {us : List DowncallUnit}

/-- The name of a raw method holds a separator only if that of the Java method does. -/
theorem unseparated_raw {name : String} (h : Symbol.Unseparated name) :
    Symbol.Unseparated (name ++ "Raw") := by
  intro c hc
  rw [String.toList_append] at hc
  rcases List.mem_append.1 hc with hc | hc
  · exact h c hc
  · have hraw : ∀ c ∈ "Raw".toList, c ≠ '/' ∧ c ≠ '.' := by simp
    exact hraw c hc

/-- Methods that are called by names have these names. -/
theorem map_name_of_called (h : List.Forall₂ (fun name u => Called u owner name) names us) :
    (us.map fun u => u.javaMethod.name) = names := by
  rw [← map_eq_map_of_forall₂ h fun _ _ hu => hu.java.symm]
  exact List.map_id names

/-- In one class everything depends on the Java names. -/
theorem distinct_iff (h : List.Forall₂ (fun name u => Called u owner name) names us) :
    Distinct us ↔ names.Nodup := by
  have hjava := map_name_of_called h
  have hraw : (us.map fun u => u.rawMethod.name) = names.map (· ++ "Raw") :=
    (map_eq_map_of_forall₂ h fun _ _ hu => hu.raw.symm).symm
  have hsymbols : (us.map fun u => u.glueMethod.name) =
      names.map fun name => Symbol.glueName owner (name ++ "Raw") :=
    (map_eq_map_of_forall₂ h fun _ _ hu => hu.symbol.symm).symm
  refine ⟨fun hdistinct => hjava ▸ hdistinct.java, fun hnames => ⟨hjava ▸ hnames, ?_, ?_⟩⟩
  · rw [hraw]
    exact hnames.map fun _ _ heq => (String.append_left_inj _).1 heq
  · intro hunseparated
    have hplain : ∀ name ∈ names, Symbol.Unseparated name := by
      intro name hname
      rw [← hjava] at hname
      obtain ⟨u, hu, rfl⟩ := List.mem_map.1 hname
      exact hunseparated u hu
    rw [hsymbols]
    refine hnames.map_on fun a ha b hb heq => ?_
    have hraws := Symbol.glueName_injective (unseparated_raw (hplain a ha))
      (unseparated_raw (hplain b hb)) heq
    exact (String.append_left_inj _).1 hraws

end DowncallUnit

/-! ## The functions of a run -/

namespace Generation

variable {decls : Declarations} {ctx : Context} {linked : List (Except Skipped EnumUnit)}
  {settled : Settled} {called : List (Except Skipped FunctionUnit)} {g : Generation}
  {final : Context}

/-- Each of them is called by its name, in the container. -/
theorem Stages.functions_called (h : Stages decls ctx linked settled called g final) :
    List.Forall₂ (fun named f => f.nativeName = named.1.name ∧
        f.method.Called ctx.containerType named.2)
      (linkedNames ctx decls.functions) g.functions := by
  obtain ⟨enums, structs, hctx⟩ := h.ctx_eq
  have hcontainer : settled.ctx.containerType = ctx.containerType := by rw [hctx]; rfl
  refine h.functions_named.imp fun named f hf => ?_
  rw [← hcontainer]
  exact called_of_linkNamed hf

/-- So their methods are distinct exactly if no name is given out for two bases. -/
theorem Stages.functions_distinct_iff (h : Stages decls ctx linked settled called g final) :
    DowncallUnit.Distinct (g.functions.map FunctionUnit.method) ↔
      KeptApart (methodBase ctx) (linkedNames ctx decls.functions) := by
  have hcalled : List.Forall₂ (fun name u => DowncallUnit.Called u ctx.containerType name)
      ((linkedNames ctx decls.functions).map Prod.snd) (g.functions.map FunctionUnit.method) :=
    List.forall₂_map_left_iff.2 (List.forall₂_map_right_iff.2
      (h.functions_called.imp fun _ _ hf => hf.2))
  rw [DowncallUnit.distinct_iff hcalled]
  exact map_snd_nodup_iff List.filter_sublist

/-- It is enough that nothing that is asked for is another name followed by digits. -/
theorem Stages.functions_distinct (h : Stages decls ctx linked settled called g final)
    (hbases : Unextended (methodBase ctx) (wanted ctx decls.functions)) :
    DowncallUnit.Distinct (g.functions.map FunctionUnit.method) :=
  h.functions_distinct_iff.2 (keptApart_of_unextended List.filter_sublist hbases)

end Generation

/-! ## The accessors of a struct -/

namespace StructUnit

variable {ctx : Context} {decl : StructDecl} {w : Wrapper} {u : StructUnit} {fields : List Skipped}

/-- Only a registered struct links. -/
theorem exists_wrapper_of_link {linked : StructUnit × List Skipped}
    (h : (link decl ctx).outcome = .ok linked) : ∃ w, ctx.wrapper? decl.name = some w := by
  unfold link at h
  cases hw : ctx.wrapper? decl.name with
  | none =>
    rw [hw] at h
    exact nomatch h
  | some w => exact ⟨w, rfl⟩

/-- The accessors that can be had, with the names they are given. -/
def linkedNames (ctx : Context) (decl : StructDecl) : List ((NamedType × String) × String) :=
  (linkedFields ctx decl).flatMap NamedField.entries

/-- They are among the names of the row. -/
theorem linkedNames_sublist (ctx : Context) (decl : StructDecl) :
    (linkedNames ctx decl).Sublist (accessorRow [] decl.fields) := by
  rw [← flatMap_entries]
  exact List.filter_sublist.flatMap _

/-- Each of them is called by its name, in the class of the struct. -/
theorem accessors_called (hw : ctx.wrapper? decl.name = some w)
    (h : (link decl ctx).outcome = .ok (u, fields)) :
    List.Forall₂ (fun name unit => DowncallUnit.Called unit w.javaType name)
      ((linkedNames ctx decl).map Prod.snd) (u.accessors.flatMap fun a => [a.getter, a.setter]) := by
  rw [linkedNames, List.map_flatMap]
  refine List.rel_flatMap (accessors_named hw h) fun n a ha => ?_
  have hcarried := carried_of_linkNamed ha
  exact .cons hcarried.getter (.cons hcarried.setter .nil)

/-- So they are distinct exactly if no name is given out for two bases. -/
theorem accessors_distinct_iff (hw : ctx.wrapper? decl.name = some w)
    (h : (link decl ctx).outcome = .ok (u, fields)) :
    DowncallUnit.Distinct (u.accessors.flatMap fun a => [a.getter, a.setter]) ↔
      KeptApart Prod.snd (linkedNames ctx decl) := by
  rw [DowncallUnit.distinct_iff (accessors_called hw h)]
  exact map_snd_nodup_iff (linkedNames_sublist ctx decl)

/-- Here, too, it is enough that nothing that is asked for is another name followed by digits. -/
theorem accessors_distinct (hw : ctx.wrapper? decl.name = some w)
    (h : (link decl ctx).outcome = .ok (u, fields))
    (hbases : Unextended Prod.snd (decl.fields.flatMap accessorBases)) :
    DowncallUnit.Distinct (u.accessors.flatMap fun a => [a.getter, a.setter]) :=
  (accessors_distinct_iff hw h).2
    (keptApart_of_unextended (linkedNames_sublist ctx decl) hbases)

end StructUnit

/-! ## All names of a run -/

namespace Generation

/-- The structs that a run keeps link under the context that it ends with. -/
theorem Stages.structs_linked {decls : Declarations} {ctx : Context}
    {linked : List (Except Skipped EnumUnit)} {settled : Settled}
    {called : List (Except Skipped FunctionUnit)} {g : Generation} {final : Context}
    (h : Stages decls ctx linked settled called g final) :
    ∀ u ∈ g.structs, ∃ d ∈ decls.structs, ∃ fields,
      (StructUnit.link d final).outcome = .ok (u, fields) := by
  obtain ⟨kept, hsettles⟩ := h.exists_settles
  intro u hu
  rw [h.generated] at hu
  obtain ⟨d, hd, fields, hlink⟩ := exists_mem_of_forall₂ hsettles.units u hu
  rw [← StructUnit.link_congr hsettles.context, ← StructUnit.link_congr h.final_agrees] at hlink
  have hchosen := (List.mem_filter.1 hd).1
  exact ⟨d, (List.mem_filter.1 hchosen).1, fields, hlink⟩

/-- Names are different exactly if none is given out for two bases: in a session of requests for one
class, among the functions of a run, and among the accessors of each struct.  They are if nothing that is
asked for there is another name followed by digits. -/
theorem names_distinct (decls : Declarations) (ctx : Context) :
    (∀ rs scope,
        ((((ctx.requestAll rs).filter fun r => r.1 = scope).map Prod.snd).Nodup ↔
          KeptApart Prod.snd
            (numberRow Prod.snd (ctx.asked scope) (rs.filter fun r => r.1 = scope))) ∧
        (Unextended Prod.snd (rs.filter fun r => r.1 = scope) →
          (((ctx.requestAll rs).filter fun r => r.1 = scope).map Prod.snd).Nodup)) ∧
      ∃ g final, (run decls ctx).outcome = .ok (g, final) ∧
        (DowncallUnit.Distinct (g.functions.map FunctionUnit.method) ↔
          KeptApart (methodBase ctx) (linkedNames ctx decls.functions)) ∧
        (Unextended (methodBase ctx) (wanted ctx decls.functions) →
          DowncallUnit.Distinct (g.functions.map FunctionUnit.method)) ∧
        ∀ u ∈ g.structs, ∃ d ∈ decls.structs, ∃ fields,
          (StructUnit.link d final).outcome = .ok (u, fields) ∧
            (DowncallUnit.Distinct (u.accessors.flatMap fun a => [a.getter, a.setter]) ↔
              KeptApart Prod.snd (StructUnit.linkedNames final d)) ∧
            (Unextended Prod.snd (d.fields.flatMap StructUnit.accessorBases) →
              DowncallUnit.Distinct (u.accessors.flatMap fun a => [a.getter, a.setter])) := by
  constructor
  · intro rs scope
    have hrow := List.Sublist.refl
      (numberRow Prod.snd (ctx.asked scope) (rs.filter fun r => r.1 = scope))
    rw [Context.requestAll_of_scope, map_snd_nodup_iff hrow]
    exact ⟨Iff.rfl, keptApart_of_unextended hrow⟩
  · obtain ⟨g, final, hrun⟩ := exists_run decls ctx
    obtain ⟨linked, settled, called, hstages⟩ := stages_of_run hrun
    refine ⟨g, final, hrun, hstages.functions_distinct_iff, hstages.functions_distinct,
      fun u hu => ?_⟩
    obtain ⟨d, hd, fields, hlink⟩ := hstages.structs_linked u hu
    obtain ⟨w, hw⟩ := StructUnit.exists_wrapper_of_link hlink
    exact ⟨d, hd, fields, hlink, StructUnit.accessors_distinct_iff hw hlink,
      StructUnit.accessors_distinct hw hlink⟩

/-- Numbering a base can give the name of another one that is asked for later. -/
theorem names_repeated :
    (({ package := "geo", container := "Native" } : Context).requestAll
        [("geo.Native", "a"), ("geo.Native", "a"), ("geo.Native", "a2")]).map Prod.snd =
      ["a", "a2", "a2"] ∧
      ∃ u fields, (StructUnit.link
          ⟨"S", [⟨"x", .ofScalar .int "int"⟩, ⟨"X", .ofScalar .int "int"⟩,
            ⟨"x2", .ofScalar .int "int"⟩]⟩
          (({ package := "geo", container := "Native" } : Context).registerStruct "S"
            ⟨.ofClass "geo" "Native.S", false⟩)).outcome = .ok (u, fields) ∧
        u.accessors.map (fun a => a.getter.javaMethod.name) = ["getX", "getX2", "getX2"] :=
  ⟨rfl, _, _, rfl, rfl⟩

end Generation

end JniBridge
