import JniBridge.Proofs.Outcome
import JniBridge.Unit.Struct
/-
The offset constants of one layout.

A constant is called after its field in capitals.  So its name has less in it than the field's: all that is
left of a capital letter is the underscore where it starts a word, and `fieldName` and `field_name` are the
same.  What is left are the words of the name up to case (`Naming.capitalWords`): they can be read back from
the capitals, since the underscores stand between words only (`Naming.toList_screaming`) and no other
character has an underscore as its capital (`Text.eq_underscore_of_mem_upper`).

Hence constants are distinct exactly if no two fields have the same words up to case, which is
`Layout.offsets_distinct_iff`.  That names are distinct is not enough; it is for names without capitals.
-/

namespace JniBridge

/-! ## Underscores and capitals -/

namespace Text

theorem eq_of_ofNat_eq_underscore {n : Nat} (h : Char.ofNat n = '_') : n = 0x5f := by
  by_cases hvalid : n.isValidChar
  · rw [Char.ofNat, dif_pos hvalid] at h
    exact congrArg Char.toNat h
  · rw [Char.ofNat, dif_neg hvalid] at h
    exact absurd h (by decide)

/-- No capital of the tables is an underscore. -/
theorem underscore_not_mem_upperBeyondAscii {c : Char} (hc : c ≠ '_') :
    '_' ∉ upperBeyondAscii c := by
  have hseveral : ∀ row ∈ CaseTable.several, 0x5f ∉ row.2 := by decide +kernel
  -- rows that stay below the underscore are told from those that start above it
  have hsingle : ∀ row ∈ CaseTable.single,
      row.2.2.2 + (row.2.1 - row.1) < 0x5f ∨ 0x5f < row.2.2.2 := by decide +kernel
  unfold upperBeyondAscii
  dsimp only
  split
  · next image hlookup =>
    obtain ⟨before, after, htable, -⟩ := List.lookup_eq_some_iff.1 hlookup
    have hrow : (c.toNat, image) ∈ CaseTable.several := by
      rw [htable]
      exact List.mem_append_right _ List.mem_cons_self
    intro hmem
    obtain ⟨n, hn, heq⟩ := List.mem_map.1 hmem
    exact hseveral _ hrow (eq_of_ofNat_eq_underscore heq ▸ hn)
  · split
    · next first last step image hfind =>
      have hrun := List.find?_some hfind
      simp only [inRun, Bool.and_eq_true, decide_eq_true_eq] at hrun
      have hrow := hsingle _ (List.mem_of_find?_eq_some hfind)
      dsimp only at hrow
      intro hmem
      have himage := eq_of_ofNat_eq_underscore (List.mem_singleton.1 hmem).symm
      omega
    · exact fun hmem => hc (List.mem_singleton.1 hmem).symm

/-- Nothing but an underscore has one in its capitals. -/
theorem eq_underscore_of_mem_upper {c : Char} (h : '_' ∈ upper c) : c = '_' := by
  by_contra hc
  by_cases hascii : c.toNat < 128
  · have htable : ∀ n < 128, (Char.ofNat n).toUpper = '_' → Char.ofNat n = '_' := by decide
    have hc' := htable c.toNat hascii
    rw [Char.ofNat_toNat] at hc'
    rw [upper_of_lt hascii] at h
    exact hc (hc' (List.mem_singleton.1 h).symm)
  · rw [upper, if_neg hascii] at h
    exact underscore_not_mem_upperBeyondAscii hc h

end Text

/-! ## Words of a name -/

namespace Naming

/-- The words of a name: it is cut at underscores, and before a capital that follows a small letter or a
digit. -/
def humps (afterLower : Bool) : List Char → List (List Char)
  | [] => [[]]
  | c :: cs =>
    let rest := humps (Text.isLower c || c.isDigit) cs
    if c = '_' then [] :: rest
    else
      let joined := rest.modifyHead (c :: ·)
      if Text.isUpper c && afterLower then [] :: joined else joined

def capitals (word : List Char) : List Char := word.flatMap Text.upper

/-- The words of a name, in capitals. -/
def capitalWords (name : String) : List (List Char) := (humps false name.toList).map capitals

theorem exists_humps_cons (afterLower : Bool) (cs : List Char) :
    ∃ w ws, humps afterLower cs = w :: ws := by
  induction cs generalizing afterLower with
  | nil => exact ⟨[], [], rfl⟩
  | cons c cs ih =>
    obtain ⟨w, ws, hrest⟩ := ih (Text.isLower c || c.isDigit)
    unfold humps
    dsimp only
    rw [hrest]
    split
    · exact ⟨_, _, rfl⟩
    · split
      · exact ⟨_, _, rfl⟩
      · exact ⟨_, _, rfl⟩

theorem underscore_not_mem_humps (afterLower : Bool) (cs : List Char) :
    ∀ w ∈ humps afterLower cs, '_' ∉ w := by
  induction cs generalizing afterLower with
  | nil => simp [humps]
  | cons c cs ih =>
    obtain ⟨w, ws, hrest⟩ := exists_humps_cons (Text.isLower c || c.isDigit) cs
    have ih := ih (Text.isLower c || c.isDigit)
    rw [hrest] at ih
    obtain ⟨hw, hws⟩ := List.forall_mem_cons.1 ih
    unfold humps
    dsimp only
    rw [hrest]
    split
    · exact List.forall_mem_cons.2 ⟨List.not_mem_nil, ih⟩
    · next hc =>
      have hjoined : ∀ v ∈ (c :: w) :: ws, '_' ∉ v :=
        List.forall_mem_cons.2 ⟨List.not_mem_cons_of_ne_of_not_mem (Ne.symm hc) hw, hws⟩
      split
      · exact List.forall_mem_cons.2 ⟨List.not_mem_nil, hjoined⟩
      · exact hjoined

theorem intercalate_append_cons (sep more w : List Char) (ws : List (List Char)) :
    sep.intercalate ((more ++ w) :: ws) = more ++ sep.intercalate (w :: ws) := by
  cases ws with
  | nil => rw [List.intercalate_singleton, List.intercalate_singleton]
  | cons v vs => simp only [List.intercalate_cons_cons, List.append_assoc]

theorem screamFrom_eq (afterLower : Bool) (cs : List Char) :
    screamFrom afterLower cs = ['_'].intercalate ((humps afterLower cs).map capitals) := by
  induction cs generalizing afterLower with
  | nil => rfl
  | cons c cs ih =>
    obtain ⟨w, ws, hrest⟩ := exists_humps_cons (Text.isLower c || c.isDigit) cs
    rw [screamFrom, ih, humps, hrest]
    dsimp only
    by_cases hc : c = '_'
    · subst hc
      rfl
    · have hjoined : ['_'].intercalate (((c :: w) :: ws).map capitals) =
          Text.upper c ++ ['_'].intercalate ((w :: ws).map capitals) :=
        intercalate_append_cons _ _ _ _
      rw [if_neg hc, List.modifyHead_cons, List.append_assoc, ← hjoined]
      split
      · rfl
      · rfl

/-- A name in capitals is its words, with underscores between them. -/
theorem toList_screaming (name : String) :
    (screaming name).toList = ['_'].intercalate (capitalWords name) := by
  rw [screaming, String.toList_ofList, screamFrom_eq, capitalWords]

/-- The words are read back from the capitals. -/
theorem splitOn_screaming (name : String) :
    (screaming name).toList.splitOn '_' = capitalWords name := by
  obtain ⟨w, ws, hwords⟩ := exists_humps_cons false name.toList
  rw [toList_screaming]
  refine List.splitOn_intercalate '_' (fun v hv hmem => ?_) ?_
  · obtain ⟨word, hword, rfl⟩ := List.mem_map.1 hv
    obtain ⟨c, hc, hupper⟩ := List.mem_flatMap.1 hmem
    exact underscore_not_mem_humps false _ word hword (Text.eq_underscore_of_mem_upper hupper ▸ hc)
  · rw [capitalWords, hwords]
    exact List.cons_ne_nil _ _

/-- Two names are the same in capitals if they have the same words up to case. -/
theorem screaming_eq_screaming_iff {a b : String} :
    screaming a = screaming b ↔ capitalWords a = capitalWords b := by
  constructor
  · intro h
    rw [← splitOn_screaming, h, splitOn_screaming]
  · intro h
    rw [← String.toList_inj, toList_screaming, toList_screaming, h]

/-! ## Names without capitals -/

/-- The name is plain ASCII without capital letters. -/
def Small (name : String) : Prop := ∀ c ∈ name.toList, c.toNat < 128 ∧ c.isUpper = false

instance (name : String) : Decidable (Small name) := List.decidableBAll _ name.toList

/-- A name without capitals is cut nowhere. -/
theorem screamFrom_of_small (afterLower : Bool) {cs : List Char}
    (h : ∀ c ∈ cs, c.toNat < 128 ∧ c.isUpper = false) :
    screamFrom afterLower cs = cs.map Char.toUpper := by
  induction cs generalizing afterLower with
  | nil => rfl
  | cons c cs ih =>
    obtain ⟨⟨hascii, hsmall⟩, hcs⟩ := List.forall_mem_cons.1 h
    rw [screamFrom, ih _ hcs, Text.isUpper_of_lt hascii, hsmall, Text.upper_of_lt hascii]
    rfl

theorem toLower_toUpper {c : Char} (hascii : c.toNat < 128) (hsmall : c.isUpper = false) :
    c.toUpper.toLower = c := by
  have htable : ∀ n < 128, (Char.ofNat n).isUpper = false →
      (Char.ofNat n).toUpper.toLower = Char.ofNat n := by decide
  have hc := htable c.toNat hascii
  rw [Char.ofNat_toNat] at hc
  exact hc hsmall

/-- A name without capitals is told from others of its kind in capitals, too. -/
theorem eq_of_screaming_eq {a b : String} (ha : Small a) (hb : Small b)
    (h : screaming a = screaming b) : a = b := by
  have hback : ∀ name, Small name → (screaming name).toList.map Char.toLower = name.toList := by
    intro name hname
    rw [screaming, String.toList_ofList, screamFrom_of_small false hname, List.map_map]
    refine (List.map_congr_left fun c hc => ?_).trans (List.map_id _)
    exact toLower_toUpper (hname c hc).1 (hname c hc).2
  rw [← String.toList_inj, ← hback a ha, h, hback b hb]

end Naming

/-! ## Constants -/

theorem MemberNames.offsetOf_default (field : String) :
    ({} : MemberNames).offsetOf field = "OFFSET_" ++ Naming.screaming field := by
  rw [← String.toList_inj, offsetOf, String.toList_ofList, String.toList_append]
  exact congrArg ("OFFSET_".toList ++ ·) (List.append_nil _)

/-- An offset constant starts otherwise than the other two. -/
theorem MemberNames.offsetOf_default_ne (field : String) :
    ({} : MemberNames).offsetOf field ≠ ({} : MemberNames).layoutField ∧
      ({} : MemberNames).offsetOf field ≠ ({} : MemberNames).sizeField := by
  have hhead : (({} : MemberNames).offsetOf field).toList.head? = some 'O' := by
    rw [offsetOf_default, String.toList_append]
    rfl
  refine ⟨fun heq => ?_, fun heq => ?_⟩
  · rw [heq] at hhead
    exact absurd hhead (by decide)
  · rw [heq] at hhead
    exact absurd hhead (by decide)

namespace Layout

/-- A layout places each field by itself. -/
theorem fields_of_ofDecl {ctx : Context} {decl : StructDecl} {layout : StructLayout}
    (h : ofDecl ctx decl = .ok layout) :
    layout.layoutField = ctx.names.layoutField ∧ layout.sizeField = ctx.names.sizeField ∧
      List.Forall₂ (fun f p => fieldLayout ctx f = .ok p) decl.fields layout.fields := by
  have hfield : ∀ f ∈ decl.fields, Ends (fieldLayout ctx f)
      (fun p => fieldLayout ctx f = .ok p) fun _ => True := by
    intro f _
    cases hf : fieldLayout ctx f with
    | ok p => exact rfl
    | error e => trivial
  have hall := ends_mapM_first hfield
  unfold ofDecl at h
  cases hplaced : decl.fields.mapM (fieldLayout ctx) with
  | error e =>
    rw [hplaced] at h
    exact nomatch h
  | ok placed =>
    rw [hplaced] at h hall
    obtain rfl := Except.ok.inj h
    exact ⟨rfl, rfl, hall⟩

/-- Wherever a field is placed, its constant is called after it. -/
theorem named_of_fieldLayout {ctx : Context} {f : NamedType} {p : FieldLayout}
    (h : fieldLayout ctx f = .ok p) : p.field = f.name ∧ p.offsetField = ctx.names.offsetOf f.name := by
  unfold fieldLayout at h
  cases harranged : arrangement ctx f.type with
  | error e =>
    rw [harranged] at h
    exact nomatch h
  | ok call =>
    rw [harranged] at h
    obtain rfl := Except.ok.inj h
    exact ⟨rfl, rfl⟩

/-- Under the default names a layout lists the fields in order, and no offset constant is called like the
constants for the layout and the size.  The offset constants are distinct exactly if no two fields have the
same words up to case; if no field has a capital letter, it is enough that the fields are distinct. -/
theorem offsets_distinct_iff {ctx : Context} {decl : StructDecl} {layout : StructLayout}
    (hnames : ctx.names = {}) (h : ofDecl ctx decl = .ok layout) :
    layout.fields.map FieldLayout.field = decl.fields.map NamedType.name ∧
    (∀ p ∈ layout.fields, p.offsetField ≠ layout.layoutField ∧ p.offsetField ≠ layout.sizeField) ∧
    ((layout.fields.map FieldLayout.offsetField).Nodup ↔
      (decl.fields.map fun f => Naming.capitalWords f.name).Nodup) ∧
    ((∀ f ∈ decl.fields, Naming.Small f.name) → (decl.fields.map NamedType.name).Nodup →
      (layout.fields.map FieldLayout.offsetField).Nodup) := by
  obtain ⟨hlayout, hsize, hplaced⟩ := fields_of_ofDecl h
  have hfields := hplaced.imp fun _ _ hp => named_of_fieldLayout hp
  rw [hnames] at hlayout hsize hfields
  have hoffsets : layout.fields.map FieldLayout.offsetField =
      decl.fields.map fun f => "OFFSET_" ++ Naming.screaming f.name :=
    (map_eq_map_of_forall₂ hfields fun f p hp =>
      (MemberNames.offsetOf_default f.name).symm.trans hp.2.symm).symm
  refine ⟨(map_eq_map_of_forall₂ hfields fun f p hp => hp.1.symm).symm, fun p hp => ?_, ?_,
    fun hsmall hdistinct => ?_⟩
  · obtain ⟨f, -, -, hp⟩ := exists_mem_of_forall₂ hfields p hp
    rw [hlayout, hsize, hp]
    exact MemberNames.offsetOf_default_ne f.name
  · rw [hoffsets, List.nodup_iff_pairwise_ne, List.nodup_iff_pairwise_ne, List.pairwise_map,
      List.pairwise_map]
    simp only [ne_eq, String.append_right_inj, Naming.screaming_eq_screaming_iff]
  · rw [hoffsets, List.nodup_iff_pairwise_ne, List.pairwise_map]
    refine (List.pairwise_map.1 hdistinct).imp_of_mem fun hf hg hne heq => hne ?_
    exact Naming.eq_of_screaming_eq (hsmall _ hf) (hsmall _ hg) ((String.append_right_inj _).1 heq)

/-- Two fields, one of which is called by three words. -/
theorem offsets_distinct_iff_point :
    ∃ layout, ofDecl { package := "geo", container := "Native" } ⟨"Point",
        [⟨"x", .ofScalar .int "int"⟩, ⟨"lastY2Set", .ofScalar .int "int"⟩]⟩ = .ok layout ∧
      layout.fields.map FieldLayout.field = ["x", "lastY2Set"] ∧
      layout.fields.map FieldLayout.offsetField = ["OFFSET_X", "OFFSET_LAST_Y2_SET"] ∧
      (layout.fields.map FieldLayout.offsetField).Nodup := by
  have hlinked : ∃ layout, ofDecl { package := "geo", container := "Native" } ⟨"Point",
      [⟨"x", .ofScalar .int "int"⟩, ⟨"lastY2Set", .ofScalar .int "int"⟩]⟩ = .ok layout ∧
      layout.fields.map FieldLayout.offsetField = ["OFFSET_X", "OFFSET_LAST_Y2_SET"] :=
    ⟨_, rfl, by decide⟩
  obtain ⟨layout, hlayout, hoffsets⟩ := hlinked
  obtain ⟨hfields, -, hdistinct, -⟩ := offsets_distinct_iff rfl hlayout
  exact ⟨layout, hlayout, hfields, hoffsets, hdistinct.2 (by decide +kernel)⟩

/-- Fields `x` and `X` share a constant, though their accessors are told apart by numbers. -/
theorem offsets_coincide :
    ∃ (ctx : Context) (decl : StructDecl) (layout : StructLayout), ctx.names = {} ∧
      decl.fields.map NamedType.name = ["x", "X"] ∧ (decl.fields.map NamedType.name).Nodup ∧
      (StructUnit.nameFields [] decl.fields).map StructUnit.NamedField.getter = ["getX", "getX2"] ∧
      ofDecl ctx decl = .ok layout ∧
      layout.fields.map FieldLayout.offsetField = ["OFFSET_X", "OFFSET_X"] ∧
      ¬ (layout.fields.map FieldLayout.offsetField).Nodup :=
  ⟨{ package := "geo", container := "Native" },
    ⟨"S", [⟨"x", .ofScalar .int "int"⟩, ⟨"X", .ofScalar .int "int"⟩]⟩, _, rfl, rfl, by decide,
    by decide, rfl, by decide, by decide⟩

end Layout

end JniBridge
