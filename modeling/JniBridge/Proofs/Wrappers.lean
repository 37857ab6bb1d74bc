import JniBridge.Proofs.Declared
import JniBridge.Proofs.Distinct
import JniBridge.Proofs.Traceless
/-
The names of wrapper classes.

A struct has its wrapper class named by the rules, or after itself with reserved words escaped.  Neither way
are different structs sure to get different classes: a rule names all structs that its pattern matches
alike, and the escaped form of `native` may be the name of another struct.  Unlike the names of methods,
those of classes are not numbered when they are asked for again.

1. The classes of a run are those of its structs by name (`Stages.javaType_eq`), so they are distinct
   exactly if the rules and escaping keep its structs apart.
2. Without rules, this fails exactly if a reserved word and its escaped form are both generated
   (`Naming.escape_eq_escape_iff`).
3. The symbol of an accessor tells the class (`glueName_nested_inj`), so accessors of two structs share a
   symbol only if the structs share a class, and then they do if they share a name
   (`wrappers_distinct_iff`).
-/

namespace JniBridge

/-! ## Identifiers and reserved words -/

namespace Naming

/-- The name is made of what C makes identifiers of: letters and digits, underscores, and characters beyond
ASCII. -/
def Identifier (name : String) : Prop :=
  ∀ c ∈ name.toList, c.isAlphanum = true ∨ c = '_' ∨ 128 ≤ c.toNat

instance (name : String) : Decidable (Identifier name) :=
  List.decidableBAll _ name.toList

theorem Identifier.ne_of_mem {name : String} (h : Identifier name) {c : Char} (hc : c ∈ name.toList) :
    c ≠ '/' ∧ c ≠ '.' ∧ c ≠ '@' := by
  refine ⟨?_, ?_, ?_⟩
  all_goals
    rintro rfl
    exact absurd (h _ hc) (by decide)

/-- An identifier has no sign in front that would be dropped. -/
theorem Identifier.dropAt_eq {name : String} (h : Identifier name) : dropAt name = name := by
  refine dropAt_of_head fun hat => ?_
  exact (h.ne_of_mem (List.mem_of_head? hat)).2.2 rfl

/-- Escaping an identifier appends an underscore to reserved words. -/
theorem Identifier.escape_eq {name : String} (h : Identifier name) :
    escape name = if name ∈ reserved then name ++ "_" else name := by
  unfold escape
  rw [h.dropAt_eq]
  simp only [List.contains_iff_mem]

/-- No reserved word ends in an underscore, so what has been escaped is not escaped again. -/
theorem append_underscore_not_reserved (word : String) : word ++ "_" ∉ reserved := by
  have hall : ∀ word ∈ reserved, '_' ∉ word.toList := by decide
  intro h
  refine hall _ h ?_
  rw [String.toList_append]
  exact List.mem_append_right _ (List.mem_singleton_self _)

/-- Escaping makes two identifiers one exactly if one of them is the escaped form of the other. -/
theorem escape_eq_escape_iff {a b : String} (ha : Identifier a) (hb : Identifier b) (hne : a ≠ b) :
    escape a = escape b ↔ a ∈ reserved ∧ b = a ++ "_" ∨ b ∈ reserved ∧ a = b ++ "_" := by
  rw [ha.escape_eq, hb.escape_eq]
  by_cases hra : a ∈ reserved
  · by_cases hrb : b ∈ reserved
    · rw [if_pos hra, if_pos hrb]
      constructor
      · exact fun h => absurd ((String.append_left_inj _).1 h) hne
      · rintro (⟨-, rfl⟩ | ⟨-, rfl⟩)
        · exact absurd hrb (append_underscore_not_reserved a)
        · exact absurd hra (append_underscore_not_reserved b)
    · rw [if_pos hra, if_neg hrb]
      constructor
      · exact fun h => Or.inl ⟨hra, h.symm⟩
      · rintro (⟨-, rfl⟩ | ⟨h, -⟩)
        · rfl
        · exact absurd h hrb
  · by_cases hrb : b ∈ reserved
    · rw [if_neg hra, if_pos hrb]
      constructor
      · exact fun h => Or.inr ⟨hrb, h⟩
      · rintro (⟨h, -⟩ | ⟨-, rfl⟩)
        · exact absurd h hra
        · rfl
    · rw [if_neg hra, if_neg hrb]
      constructor
      · exact fun h => absurd h hne
      · rintro (⟨h, -⟩ | ⟨h, -⟩)
        · exact absurd h hra
        · exact absurd h hrb

theorem Identifier.unseparated_escape {name : String} (h : Identifier name) :
    Symbol.Unseparated (escape name) := by
  have hname : Symbol.Unseparated name := fun c hc =>
    ⟨(h.ne_of_mem hc).1, (h.ne_of_mem hc).2.1⟩
  rw [h.escape_eq]
  split
  · intro c hc
    rw [String.toList_append] at hc
    rcases List.mem_append.1 hc with hc | hc
    · exact hname c hc
    · obtain rfl := List.mem_singleton.1 hc
      decide
  · exact hname

/-! ## Names of accessors -/

/-- The name starts as those of accessors do: with `get`, `is` or `set`. -/
def StartsAccess (name : String) : Prop := ∃ c rest, name.toList = c :: rest ∧ c ∈ ['g', 'i', 's']

theorem StartsAccess.append {name : String} (h : StartsAccess name) (s : String) :
    StartsAccess (name ++ s) := by
  obtain ⟨c, rest, hname, hc⟩ := h
  exact ⟨c, rest ++ s.toList, by rw [String.toList_append, hname]; rfl, hc⟩

theorem startsAccess_getter (field type : String) : StartsAccess (getter field type) := by
  have hlead : StartsAccess ((if truthTypes.contains type then "is" else "get") ++
      capitalized field) := by
    refine StartsAccess.append ?_ _
    split
    · exact ⟨'i', ['s'], rfl, by decide⟩
    · exact ⟨'g', ['e', 't'], rfl, by decide⟩
  unfold getter
  by_cases hhandle : (if truthTypes.contains type then "is" else "get") ++ capitalized field =
      "getHandle"
  · rw [if_pos hhandle]
    exact ⟨'g', "etHandleField".toList, rfl, by decide⟩
  · rw [if_neg hhandle]
    exact hlead

theorem startsAccess_setter (field : String) : StartsAccess (setter field) := by
  have hset : StartsAccess "set" := ⟨'s', ['e', 't'], rfl, by decide⟩
  exact hset.append _

end Naming

open Naming

/-- All names in the row of accessors start as those of accessors do. -/
theorem StructUnit.startsAccess_of_mem {asked : List String} {fields : List NamedType}
    {entry : (NamedType × String) × String} (h : entry ∈ accessorRow asked fields) :
    StartsAccess entry.2 := by
  obtain ⟨n, -, hname⟩ := exists_number_of_mem h
  have hbase : entry.1 ∈ fields.flatMap accessorBases := by
    rw [← map_fst_numberRow Prod.snd asked (fields.flatMap accessorBases)]
    exact List.mem_map_of_mem h
  obtain ⟨f, -, hf⟩ := List.mem_flatMap.1 hbase
  rw [hname, numbered_eq]
  refine StartsAccess.append ?_ _
  rcases List.mem_pair.1 hf with hf | hf
  · rw [hf]
    exact startsAccess_getter _ _
  · rw [hf]
    exact startsAccess_setter _

/-! ## The symbols of nested classes -/

namespace Symbol

/-- The name of such a method does not start with a mark. -/
theorem unmarked_of_startsAccess {name : String} (h : StartsAccess name) :
    Unmarked (name.toList.flatMap mangleChar) := by
  obtain ⟨c, rest, hname, hc⟩ := h
  have hletters : ∀ c ∈ ['g', 'i', 's'], mangleChar c = [c] ∧ c ∉ ['0', '1', '2', '3'] := by
    simp [mangleChar, isPlain]
  obtain ⟨hplain, hmark⟩ := hletters c hc
  intro d hd
  rw [hname, List.flatMap_cons, hplain] at hd
  obtain rfl := Option.some.inj hd
  exact hmark

/-- Nested names are written behind that of the container. -/
theorem exists_binaryName (package container : String) : ∃ front : String, ∀ name, Unseparated name →
    JavaType.binaryName package (container ++ "." ++ name) = front ++ name := by
  have hnested : ∀ name, Unseparated name → Text.replaceChar '.' '$' (container ++ "." ++ name) =
      Text.replaceChar '.' '$' (container ++ ".") ++ name := by
    intro name hname
    have hkept : (name.toList.map fun c => if c = '.' then '$' else c) = name.toList := by
      refine (List.map_congr_left (g := id) fun c hc => ?_).trans (List.map_id _)
      exact if_neg (hname c hc).2
    refine String.toList_inj.1 ?_
    rw [String.toList_append, Text.replaceChar, Text.replaceChar, String.toList_ofList,
      String.toList_ofList, String.toList_append, List.map_append, hkept]
  unfold JavaType.binaryName
  by_cases hpackage : package.isEmpty
  · refine ⟨Text.replaceChar '.' '$' (container ++ "."), fun name hname => ?_⟩
    rw [if_pos hpackage]
    exact hnested name hname
  · refine ⟨Text.replaceChar '.' '/' package ++ "/" ++ Text.replaceChar '.' '$' (container ++ "."),
      fun name hname => ?_⟩
    rw [if_neg hpackage, hnested name hname]
    simp only [String.append_assoc]

/-- The symbol of an accessor tells the class that it is nested in. -/
theorem glueName_nested_inj {ctx : Context} {a b m n : String} (ha : Unseparated a)
    (hb : Unseparated b) (hm : StartsAccess m) (hn : StartsAccess n)
    (h : glueName (ctx.nestedType a) m = glueName (ctx.nestedType b) n) : a = b := by
  obtain ⟨front, hfront⟩ := exists_binaryName ctx.package ctx.container
  have hsymbol : ∀ {name method : String}, Unseparated name →
      (glueName (ctx.nestedType name) method).toList = "Java_".toList ++
        (front.toList.flatMap mangleChar ++
          (name.toList.flatMap mangleChar ++ '_' :: method.toList.flatMap mangleChar)) := by
    intro name method hname
    have hclass : (ctx.nestedType name).className?.getD "" = front ++ name := hfront name hname
    simp only [glueName, hclass, mangle, String.toList_append, String.toList_ofList,
      List.flatMap_append, List.append_assoc]
    rfl
  have hlists := congrArg String.toList h
  rw [hsymbol ha, hsymbol hb] at hlists
  have hcomponents := List.append_cancel_left (List.append_cancel_left hlists)
  obtain ⟨hnames, -⟩ := components_inj ha hb (unmarked_of_startsAccess hm)
    (unmarked_of_startsAccess hn) hcomponents
  exact String.toList_inj.1 hnames

end Symbol

/-- The methods of a wrapper class. -/
def StructUnit.methods (u : StructUnit) : List DowncallUnit :=
  u.accessors.flatMap fun a => [a.getter, a.setter]

namespace Generation

/-! ## The wrapper classes of a run -/

variable {decls : Declarations} {ctx : Context} {linked : List (Except Skipped EnumUnit)}
  {settled : Settled} {called : List (Except Skipped FunctionUnit)} {g : Generation}
  {final : Context}

/-- What the wrapper class of a struct is called within the container. -/
def className (ctx : Context) (name : String) : String :=
  (ctx.rules.structRule name).nameOverride.getD (escape name)

/-- A rule that names the struct names it without separators. -/
def NamedPlainly (ctx : Context) (name : String) : Prop :=
  ∀ override, (ctx.rules.structRule name).nameOverride = some override → Symbol.Unseparated override

theorem NamedPlainly.unseparated {name : String} (h : NamedPlainly ctx name)
    (hname : Identifier name) : Symbol.Unseparated (className ctx name) := by
  unfold className
  cases hrule : (ctx.rules.structRule name).nameOverride with
  | none => exact hname.unseparated_escape
  | some override => exact h override hrule

/-- The structs of a run have the classes that the rules give them. -/
theorem Stages.javaType_eq (h : Stages decls ctx linked settled called g final) :
    ∀ u ∈ g.structs, u.javaType = ctx.nestedType (className ctx u.nativeName) := by
  obtain ⟨kept, hsettles⟩ := h.exists_settles
  intro u hu
  rw [h.generated] at hu
  obtain ⟨d, hd, fields, hlink⟩ := exists_mem_of_forall₂ hsettles.units u hu
  obtain ⟨hchosen, hkept⟩ := List.mem_filter.1 hd
  have hw := wrapper?_keeping (registerEnums ctx g.enums) (candidates ctx decls.structs) kept d.name
  rw [if_pos (mem_structNames.2 ⟨d, hchosen, rfl⟩), if_pos (of_decide_eq_true hkept)] at hw
  obtain ⟨hname, htype⟩ := named_of_link hw hlink
  rw [htype, hname, registerEnums_eq]
  rfl

/-- They are named after declarations, in order. -/
theorem Stages.generatedStructs_sublist (h : Stages decls ctx linked settled called g final) :
    g.generatedStructs.Sublist (decls.structs.map StructDecl.name) := by
  obtain ⟨kept, hsettles⟩ := h.exists_settles
  rw [h.generatedStructs_eq hsettles]
  exact (List.filter_sublist.trans List.filter_sublist).map _

/-- Their methods are called as those of accessors, in the class. -/
theorem Stages.methods_called (h : Stages decls ctx linked settled called g final) :
    ∀ u ∈ g.structs, ∀ m ∈ u.methods, ∃ name, StartsAccess name ∧ m.Called u.javaType name := by
  intro u hu m hm
  obtain ⟨d, -, fields, hlink⟩ := h.structs_linked u hu
  obtain ⟨w, hw⟩ := StructUnit.exists_wrapper_of_link hlink
  obtain ⟨name, hname, hcalled⟩ :=
    exists_mem_of_forall₂ (StructUnit.accessors_called hw hlink) m hm
  obtain ⟨entry, hentry, rfl⟩ := List.mem_map.1 hname
  refine ⟨entry.2, ?_, (named_of_link hw hlink).2 ▸ hcalled⟩
  exact StructUnit.startsAccess_of_mem ((StructUnit.linkedNames_sublist final d).subset hentry)

/-- So the classes are distinct exactly if the structs are named apart. -/
theorem Stages.javaTypes_nodup_iff (h : Stages decls ctx linked settled called g final)
    (hnames : (decls.structs.map StructDecl.name).Nodup) :
    (g.structs.map StructUnit.javaType).Nodup ↔
      ∀ a ∈ g.generatedStructs, ∀ b ∈ g.generatedStructs,
        className ctx a = className ctx b → a = b := by
  have htypes : g.structs.map StructUnit.javaType =
      (g.generatedStructs.map (className ctx)).map ctx.nestedType := by
    rw [generatedStructs, List.map_map, List.map_map]
    exact List.map_congr_left fun u hu => h.javaType_eq u hu
  rw [htypes, List.nodup_map_iff ctx.nestedType_injective,
    List.nodup_map_iff_inj_on (hnames.sublist h.generatedStructs_sublist)]

/-- Structs that no rule names are named apart unless a reserved word meets its escaped form. -/
theorem className_injective_iff {names : List String} (hidentifiers : ∀ a ∈ names, Identifier a)
    (hrules : ∀ a ∈ names, (ctx.rules.structRule a).nameOverride = none) :
    (∀ a ∈ names, ∀ b ∈ names, className ctx a = className ctx b → a = b) ↔
      ∀ word ∈ reserved, word ∈ names → word ++ "_" ∉ names := by
  have hescape : ∀ a ∈ names, className ctx a = escape a := by
    intro a ha
    rw [className, hrules a ha]
    rfl
  constructor
  · intro hinjective word hword hmem hescaped
    have hne : word ≠ word ++ "_" := by
      intro h
      have hlength := congrArg String.length h
      have hone : "_".length = 1 := rfl
      rw [String.length_append] at hlength
      omega
    have hsame : className ctx word = className ctx (word ++ "_") := by
      rw [hescape _ hmem, hescape _ hescaped, escape_eq_escape_iff (hidentifiers _ hmem)
        (hidentifiers _ hescaped) hne]
      exact Or.inl ⟨hword, rfl⟩
    exact hne (hinjective _ hmem _ hescaped hsame)
  · intro hclear a ha b hb hsame
    rw [hescape a ha, hescape b hb] at hsame
    by_contra hne
    rcases (escape_eq_escape_iff (hidentifiers a ha) (hidentifiers b hb) hne).1 hsame with
      ⟨hword, rfl⟩ | ⟨hword, rfl⟩
    · exact hclear a hword ha hb
    · exact hclear b hword hb ha

/-! ## Symbols of accessors -/

/-- Two methods of one name have one symbol if their classes are one. -/
theorem Stages.symbol_eq (h : Stages decls ctx linked settled called g final) {u v : StructUnit}
    (hu : u ∈ g.structs) (hv : v ∈ g.structs) (htype : u.javaType = v.javaType)
    {m n : DowncallUnit} (hm : m ∈ u.methods) (hn : n ∈ v.methods)
    (hname : m.javaMethod.name = n.javaMethod.name) : m.glueMethod.name = n.glueMethod.name := by
  obtain ⟨name, -, hcalled⟩ := h.methods_called u hu m hm
  obtain ⟨name', -, hcalled'⟩ := h.methods_called v hv n hn
  rw [hcalled.java, hcalled'.java] at hname
  rw [hcalled.symbol, hcalled'.symbol, htype, hname]

/-- Two methods have one symbol only if their classes are one. -/
theorem Stages.javaType_eq_of_symbol (h : Stages decls ctx linked settled called g final)
    {u v : StructUnit} (hu : u ∈ g.structs) (hv : v ∈ g.structs)
    (hplain : Symbol.Unseparated (className ctx u.nativeName))
    (hplain' : Symbol.Unseparated (className ctx v.nativeName)) {m n : DowncallUnit}
    (hm : m ∈ u.methods) (hn : n ∈ v.methods) (hsymbol : m.glueMethod.name = n.glueMethod.name) :
    u.javaType = v.javaType := by
  obtain ⟨name, haccess, hcalled⟩ := h.methods_called u hu m hm
  obtain ⟨name', haccess', hcalled'⟩ := h.methods_called v hv n hn
  have htype := h.javaType_eq u hu
  have htype' := h.javaType_eq v hv
  rw [hcalled.symbol, hcalled'.symbol, htype, htype'] at hsymbol
  rw [htype, htype', Symbol.glueName_nested_inj hplain hplain' (haccess.append "Raw")
    (haccess'.append "Raw") hsymbol]

/-- The wrapper classes of structs of distinct names are distinct exactly if the rules, and escaping where
no rule names a struct, keep the structs apart.  If no rule names any, they are unless a reserved word and
its escaped form are both generated.  Accessors have one symbol only within one class, and within one class
they have if they have one name. -/
theorem wrappers_distinct_iff (decls : Declarations) (ctx : Context)
    (hnames : (decls.structs.map StructDecl.name).Nodup)
    (hidentifiers : ∀ d ∈ decls.structs, Identifier d.name) :
    ∃ g final, (run decls ctx).outcome = .ok (g, final) ∧
      g.generatedStructs.Sublist (decls.structs.map StructDecl.name) ∧
      (∀ u ∈ g.structs, u.javaType = ctx.nestedType (className ctx u.nativeName)) ∧
      ((g.structs.map StructUnit.javaType).Nodup ↔
        ∀ a ∈ g.generatedStructs, ∀ b ∈ g.generatedStructs,
          className ctx a = className ctx b → a = b) ∧
      ((∀ a ∈ g.generatedStructs, (ctx.rules.structRule a).nameOverride = none) →
        ((g.structs.map StructUnit.javaType).Nodup ↔
          ∀ word ∈ reserved, word ∈ g.generatedStructs → word ++ "_" ∉ g.generatedStructs)) ∧
      ∀ u ∈ g.structs, ∀ v ∈ g.structs, ∀ m ∈ u.methods, ∀ n ∈ v.methods,
        (NamedPlainly ctx u.nativeName → NamedPlainly ctx v.nativeName →
          m.glueMethod.name = n.glueMethod.name → u.javaType = v.javaType) ∧
        (u.javaType = v.javaType → m.javaMethod.name = n.javaMethod.name →
          m.glueMethod.name = n.glueMethod.name) := by
  obtain ⟨g, final, hrun⟩ := exists_run decls ctx
  obtain ⟨linked, settled, called, hstages⟩ := stages_of_run hrun
  have hdistinct := hstages.javaTypes_nodup_iff hnames
  have hsublist := hstages.generatedStructs_sublist
  have hgenerated : ∀ a ∈ g.generatedStructs, Identifier a := by
    intro a ha
    obtain ⟨d, hd, rfl⟩ := List.mem_map.1 (hsublist.subset ha)
    exact hidentifiers d hd
  refine ⟨g, final, hrun, hsublist, hstages.javaType_eq, hdistinct, fun hrules => ?_, ?_⟩
  · rw [hdistinct]
    exact className_injective_iff hgenerated hrules
  · intro u hu v hv m hm n hn
    have hu' : Identifier u.nativeName := hgenerated _ (List.mem_map_of_mem hu)
    have hv' : Identifier v.nativeName := hgenerated _ (List.mem_map_of_mem hv)
    constructor
    · intro hplain hplain' hsymbol
      exact hstages.javaType_eq_of_symbol hu hv (hplain.unseparated hu') (hplain'.unseparated hv')
        hm hn hsymbol
    · exact fun htype hname => hstages.symbol_eq hu hv htype hm hn hname

/-- A struct that holds one number. -/
def boxed (name : String) : StructDecl := ⟨name, [⟨"x", .ofScalar .int "int"⟩]⟩

/-- Two structs of two names have two classes. -/
theorem wrappers_distinct_iff_point :
    ([boxed "Point", boxed "Size"].map StructDecl.name).Nodup ∧
      (∀ d ∈ [boxed "Point", boxed "Size"], Identifier d.name) ∧
      ∃ g final, (run
          { structs := [boxed "Point", boxed "Size"] }
          { package := "geo", container := "Native" }).outcome = .ok (g, final) ∧
        g.generatedStructs = ["Point", "Size"] ∧ (g.structs.map StructUnit.javaType).Nodup := by
  have hnames : ([boxed "Point", boxed "Size"].map StructDecl.name).Nodup := by decide
  have hidentifiers : ∀ d ∈ [boxed "Point", boxed "Size"], Identifier d.name := by decide
  have hgenerated : ∃ g final, (run
      { structs := [boxed "Point", boxed "Size"] }
      { package := "geo", container := "Native" }).outcome = .ok (g, final) ∧
        g.generatedStructs = ["Point", "Size"] :=
    ⟨_, _, run_of_stages ⟨rfl, settle_of_none_failed rfl rfl, rfl, rfl⟩, rfl⟩
  obtain ⟨g, final, hrun, -, -, -, hunruled, -⟩ := wrappers_distinct_iff
    { structs := [boxed "Point", boxed "Size"] }
    { package := "geo", container := "Native" } hnames hidentifiers
  obtain ⟨g', final', hrun', hstructs⟩ := hgenerated
  obtain ⟨rfl, -⟩ := Prod.mk.inj (Except.ok.inj (hrun.symm.trans hrun'))
  have hclear : ∀ word ∈ reserved, word ∉ ["Point", "Size"] := by decide
  have hdistinct := (hunruled fun _ _ => rfl).2 fun word hword hmem =>
    absurd (hstructs ▸ hmem) (hclear word hword)
  exact ⟨hnames, hidentifiers, g, final, hrun, hstructs, hdistinct⟩

/-- A struct is called as another one is escaped, and a rule names two structs alike: both have one class,
and their accessors one symbol. -/
theorem wrappers_coincide :
    (["native", "native_", "z_in", "z_out"] : List String).Nodup ∧
      (∀ a ∈ ["native", "native_", "z_in", "z_out"], Identifier a) ∧
      (∃ g final, (run
          { structs := [boxed "native", boxed "native_"] }
          { package := "geo", container := "Native" }).outcome = .ok (g, final) ∧
        g.generatedStructs = ["native", "native_"] ∧
        g.structs.map StructUnit.javaType =
          [.ofClass "geo" "Native.native_", .ofClass "geo" "Native.native_"] ∧
        g.structs.map (fun u => u.methods.map fun m => m.glueMethod.name) =
          [["Java_geo_Native_00024native_1_getXRaw", "Java_geo_Native_00024native_1_setXRaw"],
            ["Java_geo_Native_00024native_1_getXRaw", "Java_geo_Native_00024native_1_setXRaw"]]) ∧
      ∃ g final, (run
          { structs := [boxed "z_in", boxed "z_out"] }
          { package := "geo", container := "Native",
            rules := { structs := [⟨fun name => name.toList.head? == some 'z',
              { nameOverride := some "Z" }⟩] } }).outcome = .ok (g, final) ∧
        g.generatedStructs = ["z_in", "z_out"] ∧
        g.structs.map StructUnit.javaType =
          [.ofClass "geo" "Native.Z", .ofClass "geo" "Native.Z"] ∧
        g.structs.map (fun u => u.methods.map fun m => m.glueMethod.name) =
          [["Java_geo_Native_00024Z_getXRaw", "Java_geo_Native_00024Z_setXRaw"],
            ["Java_geo_Native_00024Z_getXRaw", "Java_geo_Native_00024Z_setXRaw"]] := by
  refine ⟨by decide, by decide, ?_, ?_⟩
  · exact ⟨_, _, run_of_stages ⟨rfl, settle_of_none_failed rfl rfl, rfl, rfl⟩, rfl, rfl, rfl⟩
  · exact ⟨_, _, run_of_stages ⟨rfl, settle_of_none_failed rfl rfl, rfl, rfl⟩, rfl, rfl, rfl⟩

end Generation

end JniBridge
