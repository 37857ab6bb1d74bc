import JniBridge.Proofs.Offsets
import JniBridge.Proofs.Wrappers
/-
Every spelling of a struct leads to its wrapper.

A wrapper is registered under the name that the struct is declared with, and looked up under what is left
of a spelling when the words in front are dropped (`tagName`).  The two names have to agree for all
spellings of the struct (`Naming.Spells`), or the struct is taken for one that has no wrapper, without an
error.

1. A spelling is cut into its words, however they are spaced (`Naming.words_of_spells`).
2. What is left of them is the name, unless the name is itself dropped (`Naming.tagName_of_spells`): C has
   no keyword `class`, but it is read as one.
3. So values of a type so spelled are linked to the wrapper, wherever they stand in an operation, and the
   receivers of the struct's own accessors are cast to it.

`Generation.spellings_find_iff` says this of all structs that a run generates.
-/

namespace JniBridge

/-! ## Words -/

namespace Text

theorem words_cons_blank {c : Char} (h : isBlank c = true) (cs : List Char) :
    words (c :: cs) = words cs := by
  unfold words
  rw [pieces, if_pos h]
  rfl

theorem words_blanks_append {blanks : List Char} (h : blanks.all isBlank = true) (rest : List Char) :
    words (blanks ++ rest) = words rest := by
  induction blanks with
  | nil => rfl
  | cons c cs ih =>
    obtain ⟨hc, hcs⟩ := Bool.and_eq_true_iff.1 h
    rw [List.cons_append, words_cons_blank hc, ih hcs]

theorem forall_not_isBlank {w : List Char} (h : w.any isBlank = false) : ∀ c ∈ w, isBlank c = false := by
  intro c hc
  rw [List.any_eq_false] at h
  exact Bool.eq_false_iff.2 (h c hc)

/-- A text without blanks is one word. -/
theorem words_of_word {w : List Char} (hne : w ≠ []) (h : w.any isBlank = false) : words w = [w] := by
  unfold words
  rw [pieces_of_forall_not (forall_not_isBlank h)]
  cases w with
  | nil => exact absurd rfl hne
  | cons c cs => rfl

/-- A word ends at the next blank. -/
theorem words_append_blank {w : List Char} {gap : Char} (hne : w ≠ []) (h : w.any isBlank = false)
    (hgap : isBlank gap = true) (rest : List Char) :
    words (w ++ gap :: rest) = w :: words rest := by
  unfold words
  rw [pieces_append_cut rest (forall_not_isBlank h) hgap]
  cases w with
  | nil => exact absurd rfl hne
  | cons c cs => rfl

end Text

/-! ## Spellings -/

namespace Naming

/-- What may stand before the name of a struct. -/
def leading : List String := ["const", "volatile", "restrict", "struct", "union"]

/-- The text is the name, with such words before it in any order, and blanks around all of them. -/
inductive Spells (name : String) : List Char → Prop
  | bare {before after : List Char} (hbefore : before.all Text.isBlank = true)
    (hafter : after.all Text.isBlank = true) : Spells name (before ++ (name.toList ++ after))
  | behind {before rest : List Char} {word : String} {gap : Char}
    (hbefore : before.all Text.isBlank = true) (hword : word ∈ leading)
    (hgap : Text.isBlank gap = true) (hrest : Spells name rest) :
    Spells name (before ++ (word.toList ++ gap :: rest))

/-- The name is one word and none of the keywords that are dropped before a name; so is every identifier
that C lets a struct have. -/
structure TagName (name : String) : Prop where
  nonempty : name ≠ ""
  word : name.toList.any Text.isBlank = false
  notKeyword : name ∉ ["const", "volatile", "restrict", "struct", "union", "enum"]

instance (name : String) : Decidable (TagName name) :=
  decidable_of_iff (name ≠ "" ∧ name.toList.any Text.isBlank = false ∧
      name ∉ ["const", "volatile", "restrict", "struct", "union", "enum"])
    ⟨fun h => ⟨h.1, h.2.1, h.2.2⟩, fun h => ⟨h.nonempty, h.word, h.notKeyword⟩⟩

theorem TagName.toList_ne_nil {name : String} (h : TagName name) : name.toList ≠ [] := by
  intro hnil
  exact h.nonempty (String.toList_inj.1 hnil)

/-- Of the words that are dropped, the name can only be the one that is no keyword of C. -/
theorem TagName.mem_qualifiers_iff {name : String} (h : TagName name) :
    name ∈ qualifiers ↔ name = "class" := by
  constructor
  · intro hmem
    by_contra hne
    refine h.notKeyword ?_
    simp only [qualifiers, List.mem_cons, List.not_mem_nil, or_false] at hmem ⊢
    tauto
  · rintro rfl
    decide

theorem spells_self (name : String) : Spells name name.toList := by
  have hbare : Spells name ([] ++ (name.toList ++ [])) := .bare rfl rfl
  rwa [List.nil_append, List.append_nil] at hbare

/-- The words of a spelling are the name and what stands before it. -/
theorem words_of_spells {name : String} {text : List Char} (h : Spells name text)
    (hname : TagName name) : ∃ before, (∀ w ∈ before, w ∈ leading) ∧
      (Text.words text).map String.ofList = before ++ [name] := by
  induction h with
  | @bare before after hbefore hafter =>
    refine ⟨[], List.forall_mem_nil _, ?_⟩
    rw [Text.words_blanks_append hbefore]
    cases after with
    | nil =>
      rw [List.append_nil, Text.words_of_word hname.toList_ne_nil hname.word]
      simp only [List.map_cons, List.map_nil, String.ofList_toList, List.nil_append]
    | cons gap after =>
      obtain ⟨hgap, hafter⟩ := Bool.and_eq_true_iff.1 hafter
      have hnone : Text.words after = [] := by
        rw [← List.append_nil after, Text.words_blanks_append hafter]
        rfl
      rw [Text.words_append_blank hname.toList_ne_nil hname.word hgap, hnone]
      simp only [List.map_cons, List.map_nil, String.ofList_toList, List.nil_append]
  | @behind before rest word gap hbefore hword hgap _ ih =>
    obtain ⟨more, hmore, hwords⟩ := ih
    have hplain : ∀ w ∈ leading, w.toList ≠ [] ∧ w.toList.any Text.isBlank = false := by decide
    obtain ⟨hne, hunbroken⟩ := hplain word hword
    refine ⟨word :: more, List.forall_mem_cons.2 ⟨hword, hmore⟩, ?_⟩
    rw [Text.words_blanks_append hbefore, Text.words_append_blank hne hunbroken hgap, List.map_cons,
      hwords, String.ofList_toList, List.cons_append]

/-- What a spelling leaves is the name, and nothing if the name is dropped as well. -/
theorem tagName_of_spells {name spelling : String} (h : Spells name spelling.toList)
    (hname : TagName name) : tagName spelling = if name = "class" then "" else name := by
  obtain ⟨before, hbefore, hwords⟩ := words_of_spells h hname
  have hdropped : ∀ w ∈ before, qualifiers.contains w = true := by
    have hall : ∀ w ∈ leading, qualifiers.contains w = true := by decide
    exact fun w hw => hall w (hbefore w hw)
  unfold tagName
  rw [hwords, List.dropWhile_append_of_pos hdropped]
  by_cases hclass : name = "class"
  · rw [if_pos hclass, hclass]
    rfl
  · have hkept : qualifiers.contains name = false := by
      rw [← Bool.not_eq_true, List.contains_iff_mem, hname.mem_qualifiers_iff]
      exact hclass
    rw [if_neg hclass, List.dropWhile_cons_of_neg (by rw [hkept]; exact Bool.false_ne_true)]
    exact String.intercalate_singleton

/-- The name by itself is looked up under itself, but for the one that is dropped. -/
theorem TagName.tagName_eq_iff {name : String} (h : TagName name) :
    tagName name = name ↔ name ≠ "class" := by
  rw [tagName_of_spells (spells_self name) h]
  by_cases hclass : name = "class"
  · subst hclass
    decide
  · rw [if_neg hclass]
    exact iff_of_true rfl hclass

end Naming

/-! ## A value where it stands -/

namespace Linking

variable {policy : PointerPolicy} {op : Operation} {ctx : Context} {d : Direction}

/-- A placed value has the Java type and the action that it was settled with. -/
theorem placed_of_toParameterLinkage {v : LinkedValue} {name : String} {l : ParameterLinkage}
    (h : v.toParameterLinkage name d = .ok l) :
    l.parameter.javaType = v.javaType ∧ l.parameter.action = v.action := by
  unfold LinkedValue.toParameterLinkage LinkedValue.toParameter at h
  dsimp only at h
  split at h
  · exact nomatch h
  · split at h
    · exact nomatch h
    · obtain rfl := Except.ok.inj h
      exact ⟨rfl, rfl⟩

/-- An argument that is classified alike wherever it stands is linked as that, in its own place. -/
theorem exists_of_linkParameters {p : OperationParameter} {v : LinkedValue} (role : p.role = .value)
    (hcontext : isContext p = false)
    (hv : ∀ position, (classifyWith policy op ctx d p.type position).outcome = .ok { value := v }) :
    ∀ {ps : List OperationParameter} {pending : Option Pending} {i k : Nat}
      {rs : List (ParameterLinkage × Option CallbackInterface)},
      (linkParameters policy op ctx d pending i ps).outcome = .ok rs → ps[k]? = some p →
      ∃ l, (rs.map Prod.fst)[k]? = some l ∧ v.toParameterLinkage p.name d = .ok l := by
  intro ps
  induction ps with
  | nil =>
    intro _ _ k _ _ hk
    rw [List.getElem?_nil] at hk
    cases hk
  | cons q ps ih =>
    intro pending i k rs h hk
    cases pending with
    | none =>
      obtain ⟨c, hc, h⟩ := exists_of_bind_eq_ok h
      obtain ⟨-, -, h⟩ := exists_of_bind_eq_ok h
      obtain ⟨l, hl, h⟩ := exists_of_bind_eq_ok h
      obtain ⟨rest, hrest, h⟩ := exists_of_bind_eq_ok h
      obtain rfl := Except.ok.inj h
      cases k with
      | zero =>
        obtain rfl := Option.some.inj hk
        unfold classifyParameter at hc
        rw [role] at hc
        obtain rfl := Except.ok.inj ((hv _).symm.trans hc)
        exact ⟨l, rfl, hl⟩
      | succ k =>
        obtain ⟨placed, hplaced⟩ := ih hrest (List.getElem?_cons_succ.symm.trans hk)
        exact ⟨placed, hplaced⟩
    | some waiting =>
      cases hq : isContext q with
      | false =>
        rw [linkParameters_no_context hq] at h
        cases h
      | true =>
        rw [linkParameters, hq] at h
        obtain ⟨-, -, h⟩ := exists_of_bind_eq_ok h
        obtain ⟨l, hl, h⟩ := exists_of_bind_eq_ok h
        obtain ⟨rest, hrest, h⟩ := exists_of_bind_eq_ok h
        obtain rfl := Except.ok.inj h
        cases k with
        | zero =>
          -- a context is no argument of its own
          obtain rfl := Option.some.inj hk
          cases hcontext.symm.trans hq
        | succ k =>
          obtain ⟨placed, hplaced⟩ := ih hrest (List.getElem?_cons_succ.symm.trans hk)
          exact ⟨placed, hplaced⟩

/-- What is linked are the result and the parameters. -/
theorem parts_of_linkWith {linked : LinkedOperation}
    (h : (linkWith policy op ctx d).outcome = .ok linked) :
    (linkReturn policy op ctx d).outcome = .ok linked.linkage.returnValue ∧
      ∃ rs, (linkParameters policy op ctx d none 0 op.params).outcome = .ok rs ∧
        linked.linkage.params = rs.map Prod.fst := by
  obtain ⟨returned, hreturned, h⟩ := exists_of_bind_eq_ok h
  obtain ⟨rs, hrs, h⟩ := exists_of_bind_eq_ok h
  obtain rfl := Except.ok.inj h
  exact ⟨hreturned, rs, hrs, rfl⟩

/-- A result is linked as it is classified. -/
theorem exists_of_linkReturn {v : LinkedValue} {returned : Option ReturnValue}
    (h : (linkReturn policy op ctx d).outcome = .ok returned) (hvoid : op.returns.isVoid = false)
    (hv : (classifyWith policy op ctx d op.returns .returned).outcome = .ok { value := v }) :
    ∃ r, returned = some r ∧ v.toReturnValue = .ok r := by
  unfold linkReturn at h
  rw [if_neg (by rw [hvoid]; exact Bool.false_ne_true)] at h
  obtain ⟨c, hc, h⟩ := exists_of_bind_eq_ok h
  obtain ⟨r, hr, h⟩ := exists_of_bind_eq_ok h
  obtain rfl := Except.ok.inj h
  obtain rfl := Except.ok.inj (hv.symm.trans hc)
  exact ⟨r, rfl, hr⟩

end Linking

/-! ## The wrapper of a spelling -/

namespace StructUnit

open Linking

/-- How a value of the struct is carried: borrowed through a field, and copied otherwise. -/
def action (u : StructUnit) (op : Operation) : Action :=
  if op.isFieldAccess then .nestedStruct u.nativeName u.javaType.name?
  else .structCopy u.nativeName u.javaType.name?

/-- A value of a type of the struct, as an object of its wrapper. -/
def carried (u : StructUnit) (op : Operation) (t : CType) : LinkedValue :=
  .typed (u.action op) u.javaType (.scalar .long) t

/-- Types so spelled are taken for the struct of a unit. -/
structure FoundBy (u : StructUnit) (ctx : Context) (spelling : String) : Prop where
  recordName : (CType.ofRecord spelling).recordName? = some u.nativeName
  /-- No value of the type fails to be classified, and it is carried by the wrapper. -/
  classified : ∀ (op : Operation) (d : Direction) (position : Position),
    (op.classify ctx d (.ofRecord spelling) position).outcome =
      .ok { value := u.carried op (.ofRecord spelling) }
  /-- In a linkage, a parameter of the type is seen in Java as the wrapper. -/
  parameter : ∀ (op : Operation) (d : Direction) (linked : LinkedOperation) (k : Nat)
    (p : OperationParameter), (op.link ctx d).outcome = .ok linked → op.params[k]? = some p →
      p.role = .value → p.type = .ofRecord spelling →
      ∃ l, linked.linkage.params[k]? = some l ∧ l.parameter.javaType = some u.javaType ∧
        l.parameter.action = u.action op
  /-- So is a result. -/
  result : ∀ (op : Operation) (d : Direction) (linked : LinkedOperation),
    (op.link ctx d).outcome = .ok linked → op.returns = .ofRecord spelling →
      ∃ r, linked.linkage.returnValue = some r ∧ r.javaType = u.javaType ∧ r.action = u.action op
  /-- If the struct has a layout, a field of the type is placed by it in any struct. -/
  embedded : u.layout.isSome → ∃ javaClass, u.javaType.name? = some javaClass ∧
    ∀ field : NamedType, field.type = .ofRecord spelling →
      ∃ placed, Layout.fieldLayout ctx field = .ok placed ∧
        placed.arrangement = Vocabulary.arranger ++ "." ++
          ("addField(" ++ javaClass ++ "." ++ ctx.names.layoutField ++ ")") ∧
        ∀ (decl : StructDecl) (layout : StructLayout), field ∈ decl.fields →
          Layout.ofDecl ctx decl = .ok layout → placed ∈ layout.fields

variable {u : StructUnit} {ctx : Context} {w : Wrapper} {spelling : String}

/-- A struct that has a wrapper is carried by it. -/
theorem linkStruct_eq (hw : ctx.wrapper? u.nativeName = some w) (htype : w.javaType = u.javaType)
    (op : Operation) (t : CType) : linkStruct op ctx t u.nativeName = u.carried op t := by
  unfold linkStruct carried action
  rw [hw, ← htype]
  rfl

/-- A struct whose wrapper has a layout is placed by it. -/
theorem fieldLayout_eq (hw : ctx.wrapper? u.nativeName = some w) (hlayout : w.layout = true)
    {javaClass : String} (hclass : w.javaType.name? = some javaClass)
    (htag : tagName spelling = u.nativeName) {field : NamedType}
    (hfield : field.type = .ofRecord spelling) :
    Layout.fieldLayout ctx field = .ok ⟨field.name, ctx.names.offsetOf field.name,
      Vocabulary.arranger ++ "." ++
        ("addField(" ++ javaClass ++ "." ++ ctx.names.layoutField ++ ")")⟩ := by
  have hfound : Layout.layoutClass? ctx (tagName spelling) = some javaClass := by
    rw [Layout.layoutClass?, htag, hw]
    show (if w.layout then w.javaType.name? else none) = _
    rw [if_pos hlayout, hclass]
  have hcall : Layout.call ctx (.ofRecord spelling) =
      .ok ("addField(" ++ javaClass ++ "." ++ ctx.names.layoutField ++ ")") := by
    show Layout.resolvedCall ctx (.ofRecord spelling) = _
    simp only [Layout.resolvedCall, CType.ofRecord, CType.desugared, hfound]
  rw [Layout.fieldLayout, Layout.arrangement, hfield, hcall]
  rfl

/-- What a spelling leaves is what wrappers are looked up by. -/
theorem foundBy_of_tagName (hw : ctx.wrapper? u.nativeName = some w) (htype : w.javaType = u.javaType)
    (hlayout : w.layout = u.layout.isSome) {javaClass : String}
    (hclass : u.javaType.name? = some javaClass) (htag : tagName spelling = u.nativeName) :
    u.FoundBy ctx spelling := by
  have hclassified : ∀ policy (op : Operation) (d : Direction) (position : Position),
      (classifyWith policy op ctx d (.ofRecord spelling) position).outcome =
        .ok { value := u.carried op (.ofRecord spelling) } := by
    intro policy op d position
    rw [← linkStruct_eq hw htype, ← htag]
    rfl
  refine ⟨congrArg some htag, fun op d => hclassified _ op d, ?_, ?_, fun hsome => ?_⟩
  · intro op d linked k p hlink hk role ht
    obtain ⟨-, rs, hrs, hparams⟩ := parts_of_linkWith hlink
    have hcontext : isContext p = false := by
      unfold isContext
      rw [role, ht]
      rfl
    obtain ⟨l, hl, hplaced⟩ := exists_of_linkParameters role hcontext
      (fun position => by rw [ht]; exact hclassified _ op d position) hrs hk
    rw [hparams]
    exact ⟨l, hl, placed_of_toParameterLinkage hplaced⟩
  · intro op d linked hlink ht
    obtain ⟨hreturned, -⟩ := parts_of_linkWith hlink
    obtain ⟨r, hr, hplaced⟩ := exists_of_linkReturn hreturned (by rw [ht]; rfl)
      (by rw [ht]; exact hclassified _ op d .returned)
    obtain rfl := Except.ok.inj hplaced
    exact ⟨_, hr, rfl, rfl⟩
  · refine ⟨javaClass, hclass, fun field hfield => ?_⟩
    have hplaced := fieldLayout_eq hw (hlayout.trans hsome) (htype ▸ hclass) htag hfield
    refine ⟨_, hplaced, rfl, fun decl layout hmem hof => ?_⟩
    obtain ⟨-, -, hfields⟩ := Layout.fields_of_ofDecl hof
    obtain ⟨placed, hin, hok⟩ := exists_mem_of_forall₂ hfields.flip field hmem
    obtain rfl := Except.ok.inj (hplaced.symm.trans hok)
    exact hin

end StructUnit

/-! ## Receivers -/

namespace DowncallUnit

/-- The glue function casts its receiver to a pointer to this record. -/
def CastsTo (m : DowncallUnit) (record : String) : Prop :=
  m.glueBody.binding? Vocabulary.structPointer =
    some (.literal (Action.toNativePointer record Vocabulary.handle))

/-- The receiver is cast to one record only. -/
theorem CastsTo.unique {m : DowncallUnit} {a b : String} (ha : m.CastsTo a) (hb : m.CastsTo b) :
    a = b := by
  have hcast := Expression.literal.inj (Option.some.inj (ha.symm.trans hb))
  simp only [Action.toNativePointer, String.append_left_inj, String.append_right_inj] at hcast
  exact hcast

/-- Accessors of a record cast their receiver to what is left of its spelling. -/
theorem castsTo_of_link {op : Operation} {decl : StructDecl} {ps : List OperationParameter}
    {spec : DowncallSpec} {ctx : Context} {m : DowncallUnit} (hop : op.Offered)
    (hparams : op.params = Operation.receiver decl.recordType :: ps)
    (h : (link op spec ctx).outcome = .ok m) : m.CastsTo (tagName decl.name) := by
  have hfaithful := (link_ends hop spec ctx).of_ok h
  have hlinked := (hop.link_ends ctx).of_ok (linked_of_link h)
  obtain ⟨rs, hrs, hmap, -⟩ := hlinked.params
  rw [hparams] at hrs
  have hcrossings := hfaithful.crossings
  rw [linkage, hmap] at hcrossings
  cases hrs with
  | value role => exact nomatch role
  | pointer role => exact nomatch role
  | receiver role => exact nomatch role
  | handle role _ hrecord =>
    obtain rfl := Option.some.inj hrecord
    -- the variable of the receiver is the first that the glue function binds
    obtain ⟨b, bs, hb, -, hbindings⟩ := List.forall₂_cons_left_iff.1 hcrossings
    have hvalue := Option.some.inj (Except.ok.inj hb.value)
    rw [CastsTo, Steps.binding?, hbindings, List.find?_cons_of_pos (by rw [hb.name]; rfl)]
    exact congrArg some hvalue.symm

end DowncallUnit

/-! ## The structs of a run -/

namespace Generation

/-- A unit declares a layout if its wrapper is to. -/
theorem layout_isSome_of_link {c : Context} {d : StructDecl} {w : Wrapper} {u : StructUnit}
    {fields : List Skipped} (hw : c.wrapper? d.name = some w)
    (h : (StructUnit.link d c).outcome = .ok (u, fields)) : w.layout = u.layout.isSome := by
  unfold StructUnit.link at h
  rw [hw] at h
  obtain ⟨layout, hlayout, h⟩ := exists_of_bind_eq_ok h
  obtain ⟨results, -, h⟩ := exists_of_bind_eq_ok h
  obtain ⟨rfl, -⟩ := Prod.mk.inj (Except.ok.inj h)
  have hfor : StructUnit.layoutFor c d w = .ok layout := hlayout
  unfold StructUnit.layoutFor at hfor
  cases hflag : w.layout with
  | false =>
    rw [if_neg (by rw [hflag]; exact Bool.false_ne_true)] at hfor
    obtain rfl := Except.ok.inj hfor
    rfl
  | true =>
    rw [if_pos hflag] at hfor
    cases hof : Layout.ofDecl c d with
    | error e =>
      rw [hof] at hfor
      exact nomatch hfor
    | ok placed =>
      rw [hof] at hfor
      obtain rfl := Except.ok.inj hfor
      rfl

/-- All accessors of a struct cast their receiver to what is left of the struct's name. -/
theorem castsTo_of_mem_methods {c : Context} {d : StructDecl} {u : StructUnit} {fields : List Skipped}
    (h : (StructUnit.link d c).outcome = .ok (u, fields)) {m : DowncallUnit} (hm : m ∈ u.methods) :
    m.CastsTo (tagName d.name) := by
  obtain ⟨a, ha, hm⟩ := List.mem_flatMap.1 hm
  obtain ⟨field, getter, setter, hgetter, hsetter⟩ := accessors_of_link h a ha
  rcases List.mem_pair.1 hm with rfl | rfl
  · exact DowncallUnit.castsTo_of_link (.get rfl field) rfl hgetter
  · exact DowncallUnit.castsTo_of_link (.set rfl field) rfl hsetter

/-- Every struct that a run generates has its wrapper in the end, under the name that it is declared with.
All spellings of the struct lead there, and the receivers of its accessors are cast to it, unless it is
called `class`, which is dropped from its own spellings. -/
theorem spellings_find_iff (decls : Declarations) (ctx : Context) :
    ∃ g final, (run decls ctx).outcome = .ok (g, final) ∧
      ∀ u ∈ g.structs, Naming.TagName u.nativeName →
        (∃ w, final.wrapper? u.nativeName = some w ∧ w.javaType = u.javaType ∧
          w.layout = u.layout.isSome) ∧
        ((∀ spelling : String, Naming.Spells u.nativeName spelling.toList → u.FoundBy final spelling) ↔
          u.nativeName ≠ "class") ∧
        ∀ m ∈ u.methods, m.CastsTo u.nativeName ↔ u.nativeName ≠ "class" := by
  obtain ⟨g, final, hrun⟩ := exists_run decls ctx
  obtain ⟨linked, settled, called, hstages⟩ := stages_of_run hrun
  refine ⟨g, final, hrun, fun u hu hname => ?_⟩
  obtain ⟨d, -, fields, hlink⟩ := hstages.structs_linked u hu
  obtain ⟨w, hw⟩ := StructUnit.exists_wrapper_of_link hlink
  obtain ⟨hnative, htype⟩ := named_of_link hw hlink
  have hlayout := layout_isSome_of_link hw hlink
  have hclass : ∃ javaClass, u.javaType.name? = some javaClass := by
    rw [hstages.javaType_eq u hu]
    exact ⟨_, rfl⟩
  obtain ⟨javaClass, hclass⟩ := hclass
  rw [← hnative] at hw
  refine ⟨⟨w, hw, htype.symm, hlayout⟩, ⟨fun hall => ?_, fun hne spelling hspells => ?_⟩, fun m hm => ?_⟩
  · have hfound := (hall u.nativeName (Naming.spells_self _)).recordName
    exact hname.tagName_eq_iff.1 (Option.some.inj hfound)
  · have htag := Naming.tagName_of_spells hspells hname
    rw [if_neg hne] at htag
    exact StructUnit.foundBy_of_tagName hw htype.symm hlayout hclass htag
  · have hcast := castsTo_of_mem_methods hlink hm
    rw [← hnative] at hcast
    rw [← hname.tagName_eq_iff]
    constructor
    · intro hown
      exact hcast.unique hown
    · intro htag
      rwa [htag] at hcast

/-- A struct of an ordinary name is found with all sorts of words and blanks before it. -/
theorem spellings_find_iff_point :
    ∃ g final, (run { structs := [boxed "Point"] }
        { package := "geo", container := "Native" }).outcome = .ok (g, final) ∧
      ∃ u ∈ g.structs, u.nativeName = "Point" ∧ u.methods.length = 2 ∧
        u.FoundBy final "\tconst  volatile struct\nPoint " ∧ ∀ m ∈ u.methods, m.CastsTo "Point" := by
  have hgenerated : ∃ g final, (run { structs := [boxed "Point"] }
      { package := "geo", container := "Native" }).outcome = .ok (g, final) ∧
        g.structs.map (fun u => (u.nativeName, u.methods.length)) = [("Point", 2)] :=
    ⟨_, _, run_of_stages ⟨rfl, settle_of_none_failed rfl rfl, rfl, rfl⟩, rfl⟩
  obtain ⟨g, final, hrun, hall⟩ := spellings_find_iff { structs := [boxed "Point"] }
    { package := "geo", container := "Native" }
  obtain ⟨g', final', hrun', hstructs⟩ := hgenerated
  obtain ⟨rfl, rfl⟩ := Prod.mk.inj (Except.ok.inj (hrun.symm.trans hrun'))
  obtain ⟨u, hu, heq⟩ := List.mem_map.1 (hstructs ▸ List.mem_singleton_self ("Point", 2))
  obtain ⟨hname, hmethods⟩ := Prod.mk.inj heq
  obtain ⟨-, hfound, hcasts⟩ := hall u hu (by rw [hname]; decide)
  rw [hname] at hfound hcasts
  have hspells : Naming.Spells "Point" "\tconst  volatile struct\nPoint ".toList := by
    have hpoint : Naming.Spells "Point" ([] ++ ("Point".toList ++ [' '])) := .bare (by decide) (by decide)
    have hstruct := @Naming.Spells.behind "Point" [] _ "struct" '\n' (by decide) (by decide) (by decide)
      hpoint
    have hvolatile := @Naming.Spells.behind "Point" [' '] _ "volatile" ' ' (by decide) (by decide)
      (by decide) hstruct
    exact @Naming.Spells.behind "Point" ['\t'] _ "const" ' ' (by decide) (by decide) (by decide) hvolatile
  exact ⟨g, final, hrun, u, hu, hname, hmethods, hfound.2 (by decide) _ hspells,
    fun m hm => (hcasts m hm).2 (by decide)⟩

/-- A struct that is called `class` is generated and registered, but its spelling does not lead there, and
its own accessors cast to a record without a name. -/
theorem spellings_miss_class :
    Naming.TagName "class" ∧ Naming.Identifier "class" ∧
      Naming.Spells "class" "struct class".toList ∧
      (CType.ofRecord "struct class").recordName? = some "" ∧
      ∃ g final, (run { structs := [boxed "class"] }
          { package := "geo", container := "Native" }).outcome = .ok (g, final) ∧
        g.structs.map StructUnit.nativeName = ["class"] ∧
        (final.wrapper? "class").map Wrapper.javaType = some (.ofClass "geo" "Native.class_") ∧
        (final.wrapper? "").isNone ∧
        g.structs.map (fun u => u.methods.map fun m =>
            (m.glueBody.binding? Vocabulary.structPointer).bind Expression.literal?) =
          [[some (Action.toNativePointer "" Vocabulary.handle),
            some (Action.toNativePointer "" Vocabulary.handle)]] := by
  refine ⟨by decide, by decide, ?_, by decide, ?_⟩
  · exact @Naming.Spells.behind "class" [] _ "struct" ' ' (by decide) (by decide) (by decide)
      (Naming.spells_self "class")
  · exact ⟨_, _, run_of_stages ⟨rfl, settle_of_none_failed rfl rfl, rfl, rfl⟩, rfl, rfl, rfl, rfl⟩

end Generation

end JniBridge
