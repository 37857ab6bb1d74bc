import Mathlib.Data.List.Nodup
import JniBridge.Proofs.Declared
/-
When the names in the unit of a function do not clash.

Names come from the header, from escaping them, from the variables for converted values, from the flag and
the variable of a returned native string, and from the environment that every glue function is given.
Nothing looks for clashes between them.  Since all of them can be read off the declaration
(`DowncallUnit.NamedAs`), so can whether there are any: `FunctionDecl.Clear` lists what has to be kept
apart, and it is exact (`DowncallUnit.hygienic_iff_clear`).  Names that need no escaping, end in no `$int`
and are none of the fixed ones are always clear (`FunctionDecl.clear_of_plain`).
-/

namespace JniBridge

/-! ## Fixed names -/

namespace Vocabulary

theorem intermediate_injective : Function.Injective intermediate :=
  fun _ _ h => (String.append_left_inj _).1 h

/-- The environment is no variable for a converted value. -/
theorem env_ne_intermediate (name : String) : env ≠ intermediate name := by
  intro h
  have hlength := congrArg (fun s => s.toList.length) h
  have henv : env.toList.length = 3 := rfl
  have hsuffix : "$int".toList.length = 4 := rfl
  simp only [intermediate, String.toList_append, List.length_append, henv, hsuffix] at hlength
  omega

end Vocabulary

/-! ## Units without clashes -/

/-- No name in the unit is declared twice where it can be seen: not among the parameters of a method,
not among the variables of a body, and not by both. -/
structure DowncallUnit.Hygienic (u : DowncallUnit) : Prop where
  javaParams : (u.javaMethod.params.map Param.name).Nodup
  rawParams : (u.rawMethod.params.map Param.name).Nodup
  /-- The environment comes before the parameters of the glue function. -/
  glueParams : (Vocabulary.env :: u.glueMethod.params.map Param.name).Nodup
  javaBound : u.javaBody.bound.Nodup
  javaFresh : u.javaBody.bound.Disjoint (u.javaMethod.params.map Param.name)
  glueBound : u.glueBody.bound.Nodup
  glueFresh : u.glueBody.bound.Disjoint (Vocabulary.env :: u.glueMethod.params.map Param.name)

namespace FunctionDecl

/-! ## Declarations without clashes -/

/-- The names of the declaration stay clear of each other and of what is generated beside them. -/
structure Clear (decl : FunctionDecl) : Prop where
  /-- Escaping makes no two of them equal, the flag of a returned string being one of them. -/
  escaped : (decl.shown.map Naming.escape).Nodup
  environment : Vocabulary.env ∉ decl.shown
  /-- A returned string is captured in a variable named like that of a parameter. -/
  result : decl.returns.isNativeString → "returnValue" ∉ decl.params.map NamedType.name
  /-- No parameter of the public method is called like a variable of its body. -/
  java : ∀ n ∈ decl.shown, ∀ m ∈ decl.shown ++ decl.captured,
    Naming.escape n ≠ Vocabulary.intermediate m
  /-- No parameter of the glue function is called like a variable of its body. -/
  native : ∀ n ∈ decl.shown, ∀ m ∈ decl.params.map NamedType.name ++ decl.captured,
    n ≠ Vocabulary.intermediate m

variable {decl : FunctionDecl}

/-- What Java sees is a parameter or the flag of a returned string. -/
theorem mem_shown {name : String} (h : name ∈ decl.shown) :
    name ∈ decl.params.map NamedType.name ∨
      decl.returns.isNativeString ∧ name = Vocabulary.returnDeletion := by
  obtain ⟨⟨n, seen⟩, hn, rfl⟩ := List.mem_map.1 h
  obtain ⟨hn, -⟩ := List.mem_filter.1 hn
  rcases List.mem_append.1 hn with hn | hn
  · obtain ⟨p, hp, hpair⟩ := List.mem_map.1 hn
    obtain ⟨rfl, -⟩ := Prod.mk.inj hpair
    exact Or.inl (List.mem_map_of_mem hp)
  · split at hn
    · next hstring =>
      obtain ⟨rfl, -⟩ := Prod.mk.inj (List.mem_singleton.1 hn)
      exact Or.inr ⟨hstring, rfl⟩
    · exact absurd hn List.not_mem_nil

theorem mem_captured {name : String} :
    name ∈ decl.captured ↔ decl.returns.isNativeString ∧ name = "returnValue" := by
  unfold captured
  split
  · next hstring => rw [List.mem_singleton, hstring, eq_self, true_and]
  · next hstring => exact ⟨fun h => absurd h List.not_mem_nil, fun h => absurd h.1 hstring⟩

theorem captured_nodup : decl.captured.Nodup := by
  unfold captured
  split
  · exact List.nodup_singleton _
  · exact List.nodup_nil

namespace Clear

/-- Names that escaping keeps apart are different. -/
theorem shown_nodup (h : decl.Clear) : decl.shown.Nodup := h.escaped.of_map _

/-- Nothing that Java sees has the captured result's variable for its own. -/
theorem shown_captured (h : decl.Clear) : decl.shown.Disjoint decl.captured := by
  intro name hshown hcaptured
  obtain ⟨hstring, rfl⟩ := mem_captured.1 hcaptured
  rcases mem_shown hshown with hparam | ⟨-, hflag⟩
  · exact h.result hstring hparam
  · exact absurd hflag (by decide)

end Clear

/-! ## Names that are always clear -/

/-- A name like those that headers declare: Java has no objection to it, it does not end like a
variable's, and it is none of the fixed names. -/
def Plain (name : String) : Prop :=
  Naming.Unescaped name ∧ ¬ "$int".toList <:+ name.toList ∧
    name ∉ [Vocabulary.env, "returnValue", Vocabulary.returnDeletion]

instance (name : String) : Decidable (Plain name) :=
  inferInstanceAs (Decidable (_ ∧ _ ∧ _))

/-- Every variable's name ends in the same way. -/
theorem ne_intermediate_of_not_suffix {name : String} (h : ¬ "$int".toList <:+ name.toList)
    (m : String) : name ≠ Vocabulary.intermediate m := by
  rintro rfl
  refine h ⟨m.toList, ?_⟩
  rw [Vocabulary.intermediate, String.toList_append]

/-- The flag of a returned string only repeats the name of a parameter if that is fixed. -/
theorem shown_nodup_of_plain (hnames : (decl.params.map NamedType.name).Nodup)
    (hplain : ∀ p ∈ decl.params, Plain p.name) : decl.shown.Nodup := by
  have hsublist : decl.shown.Sublist (decl.generated.map Prod.fst) := List.filter_sublist.map _
  refine List.Nodup.sublist hsublist ?_
  rw [generated, List.map_append, List.map_map]
  refine List.Nodup.append hnames ?_ fun name hparam hflag => ?_
  · split
    · exact List.nodup_singleton _
    · exact List.nodup_nil
  · obtain ⟨p, hp, rfl⟩ := List.mem_map.1 hparam
    split at hflag
    · have hname : p.name = Vocabulary.returnDeletion := List.mem_singleton.1 hflag
      exact (hplain p hp).2.2 (by simp [hname])
    · exact absurd hflag List.not_mem_nil

/-- Different names of this kind are clear. -/
theorem clear_of_plain (hnames : (decl.params.map NamedType.name).Nodup)
    (hplain : ∀ p ∈ decl.params, Plain p.name) : decl.Clear := by
  have hparams : ∀ name ∈ decl.params.map NamedType.name, Plain name :=
    List.forall_mem_map.2 hplain
  have hshown : ∀ n ∈ decl.shown, Naming.escape n = n ∧ (∀ m, n ≠ Vocabulary.intermediate m) ∧
      n ≠ Vocabulary.env := by
    intro n hn
    rcases mem_shown hn with hparam | ⟨-, rfl⟩
    · obtain ⟨hunescaped, hsuffix, hfixed⟩ := hparams n hparam
      refine ⟨(Naming.escape_eq_self_iff n).2 hunescaped, ne_intermediate_of_not_suffix hsuffix, ?_⟩
      rintro rfl
      exact hfixed List.mem_cons_self
    · exact ⟨rfl, ne_intermediate_of_not_suffix (by decide), by decide⟩
  have hescape : decl.shown.map Naming.escape = decl.shown :=
    (List.map_congr_left fun n hn => (hshown n hn).1).trans (List.map_id _)
  exact
    { escaped := by
        rw [hescape]
        exact shown_nodup_of_plain hnames hplain
      environment := fun henv => (hshown _ henv).2.2 rfl
      result := fun _ hparam => (hparams _ hparam).2.2 (by simp)
      java := by
        intro n hn m _
        rw [(hshown n hn).1]
        exact (hshown n hn).2.1 m
      native := fun n hn m _ => (hshown n hn).2.1 m }

end FunctionDecl

/-! ## One is the other -/

namespace DowncallUnit

variable {decl : FunctionDecl} {u : DowncallUnit}

/-- What is not clear clashes somewhere in the unit. -/
theorem NamedAs.clear (hu : u.NamedAs decl) (h : u.Hygienic) : decl.Clear where
  escaped := by
    rw [← hu.javaParams]
    exact h.javaParams
  environment := by
    rw [← hu.glueParams]
    exact (List.nodup_cons.1 h.glueParams).1
  result := by
    intro hstring hparam
    have hbound := h.glueBound
    rw [hu.glueBound] at hbound
    have hdisjoint := (List.nodup_append'.1 (hbound.of_map _)).2.2
    exact hdisjoint hparam (FunctionDecl.mem_captured.2 ⟨hstring, rfl⟩)
  java := by
    intro n hn m hm heq
    refine h.javaFresh (a := Vocabulary.intermediate m) ?_ ?_
    · rw [hu.javaBound]
      exact List.mem_map_of_mem hm
    · rw [hu.javaParams, ← heq]
      exact List.mem_map_of_mem hn
  native := by
    intro n hn m hm heq
    refine h.glueFresh (a := Vocabulary.intermediate m) ?_ ?_
    · rw [hu.glueBound]
      exact List.mem_map_of_mem hm
    · rw [hu.glueParams, ← heq]
      exact List.mem_cons_of_mem _ hn

/-- What is clear clashes nowhere in the unit. -/
theorem NamedAs.hygienic (hu : u.NamedAs decl) (hnames : (decl.params.map NamedType.name).Nodup)
    (h : decl.Clear) : u.Hygienic where
  javaParams := by
    rw [hu.javaParams]
    exact h.escaped
  rawParams := by
    rw [hu.rawParams]
    exact h.escaped
  glueParams := by
    rw [hu.glueParams]
    exact List.nodup_cons.2 ⟨h.environment, h.shown_nodup⟩
  javaBound := by
    rw [hu.javaBound]
    refine List.Nodup.map Vocabulary.intermediate_injective ?_
    exact h.shown_nodup.append FunctionDecl.captured_nodup h.shown_captured
  javaFresh := by
    rw [hu.javaBound, hu.javaParams]
    intro name hbound hparam
    obtain ⟨m, hm, rfl⟩ := List.mem_map.1 hbound
    obtain ⟨n, hn, heq⟩ := List.mem_map.1 hparam
    exact h.java n hn m hm heq
  glueBound := by
    rw [hu.glueBound]
    refine List.Nodup.map Vocabulary.intermediate_injective ?_
    refine hnames.append FunctionDecl.captured_nodup fun name hparam hcaptured => ?_
    obtain ⟨hstring, rfl⟩ := FunctionDecl.mem_captured.1 hcaptured
    exact h.result hstring hparam
  glueFresh := by
    rw [hu.glueBound, hu.glueParams]
    intro name hbound hparam
    obtain ⟨m, hm, rfl⟩ := List.mem_map.1 hbound
    rcases List.mem_cons.1 hparam with henv | hshown
    · exact Vocabulary.env_ne_intermediate m henv.symm
    · exact h.native _ hshown m hm rfl

/-- For different parameter names, the unit of a function is hygienic exactly if the names of its
declaration are clear. -/
theorem hygienic_iff_clear (decl : FunctionDecl) (spec : DowncallSpec) (ctx : Context)
    {u : DowncallUnit} (hnames : (decl.params.map NamedType.name).Nodup)
    (h : (link (.callNative decl) spec ctx).outcome = .ok u) : u.Hygienic ↔ decl.Clear := by
  have hu := namedAs_of_link h
  exact ⟨hu.clear, hu.hygienic hnames⟩

/-- A visitor's description: a flag and a variable are made up for it, and are in nobody's way. -/
theorem hygienic_iff_clear_describe :
    (["visitor", "context"] : List String).Nodup ∧
      ∃ u, (link (.callNative ⟨"describe", .pointerTo (.ofScalar .charSigned "char"),
          [⟨"visitor", .pointerTo (.function .void [.ofScalar .int "int", .voidPointer])⟩,
            ⟨"context", .voidPointer⟩]⟩) (.ofName "describe" (.ofClass "geo" "Native"))
          { package := "geo", container := "Native" }).outcome = .ok u ∧
        u.javaBody.bound =
          ["context$int", "returnValueDeletionBehaviour$int", "returnValue$int"] ∧
        u.glueBody.bound = ["visitor$int", "context$int", "returnValue$int"] ∧ u.Hygienic := by
  have hclear : FunctionDecl.Clear ⟨"describe", .pointerTo (.ofScalar .charSigned "char"),
      [⟨"visitor", .pointerTo (.function .void [.ofScalar .int "int", .voidPointer])⟩,
        ⟨"context", .voidPointer⟩]⟩ :=
    FunctionDecl.clear_of_plain (by decide) (by decide)
  exact ⟨by decide, _, rfl, rfl, rfl, (hygienic_iff_clear _ (.ofName "describe"
    (.ofClass "geo" "Native")) { package := "geo", container := "Native" } (by decide) rfl).2 hclear⟩

/-- Escaping can make two names equal. -/
theorem unhygienic_escaped :
    (["class", "class_"] : List String).Nodup ∧
      ∃ u, (link (.callNative ⟨"f", .void,
          [⟨"class", .ofScalar .int "int"⟩, ⟨"class_", .ofScalar .int "int"⟩]⟩)
          (.ofName "f" (.ofClass "geo" "Native"))
          { package := "geo", container := "Native" }).outcome = .ok u ∧
        u.javaMethod.params.map Param.name = ["class_", "class_"] ∧ ¬ u.Hygienic :=
  ⟨by decide, _, rfl, rfl, fun h => absurd h.javaParams (by decide)⟩

end DowncallUnit

end JniBridge
