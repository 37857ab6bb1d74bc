import JniBridge.Symbol
/-
Reading a component of a symbol back.

Apart from the separators `/` and `.`, which are both written as an underscore, every character is written
in one of three forms (`Symbol.Written`), and the first characters of a text tell the form and with it the
character (`Symbol.Written.inj`).  So the names that hold no separator are written differently
(`Symbol.mangle_injective`), and so are the symbols of the methods of a class (`Symbol.glueName_injective`).

The underscore between two components can be told from one within the first as long as the second one does
not start with the mark of a character (`Symbol.components_inj`).
-/

namespace JniBridge.Symbol

/-! ## Hexadecimal digits -/

theorem hexDigit_injective {m n : Nat} (hm : m < 16) (hn : n < 16) (h : hexDigit m = hexDigit n) :
    m = n := by
  have hall : ∀ i j : Fin 16, hexDigit i = hexDigit j → i = j := by decide
  exact congrArg Fin.val (hall ⟨m, hm⟩ ⟨n, hn⟩ h)

/-- Four digits tell a number of sixteen bits. -/
theorem hex4_injective {m n : Nat} (hm : m < 0x10000) (hn : n < 0x10000) (h : hex4 m = hex4 n) :
    m = n := by
  unfold hex4 at h
  simp only [List.cons.injEq, and_true] at h
  obtain ⟨h3, h2, h1, h0⟩ := h
  have d3 := hexDigit_injective (Nat.mod_lt _ (by decide)) (Nat.mod_lt _ (by decide)) h3
  have d2 := hexDigit_injective (Nat.mod_lt _ (by decide)) (Nat.mod_lt _ (by decide)) h2
  have d1 := hexDigit_injective (Nat.mod_lt _ (by decide)) (Nat.mod_lt _ (by decide)) h1
  have d0 := hexDigit_injective (Nat.mod_lt _ (by decide)) (Nat.mod_lt _ (by decide)) h0
  omega

/-! ## UTF-16 units -/

/-- No character has the code of half a character, and there is a greatest one. -/
theorem toNat_bounds (c : Char) :
    (c.toNat < 0xd800 ∨ 0xe000 ≤ c.toNat) ∧ c.toNat < 0x110000 := by
  have hvalid := c.valid
  unfold UInt32.isValidChar Nat.isValidChar at hvalid
  unfold Char.toNat
  omega

/-- How a unit is written. -/
def unitText (u : Nat) : List Char := '_' :: '0' :: hex4 u

/-- How a character is written that has no other form. -/
def escaped (c : Char) : List Char := (units c).flatMap unitText

theorem escaped_of_lt {c : Char} (h : c.toNat < 0x10000) : escaped c = unitText c.toNat := by
  rw [escaped, units]
  exact (congrArg (List.flatMap unitText) (if_pos h)).trans (List.append_nil _)

theorem escaped_of_not_lt {c : Char} (h : ¬ c.toNat < 0x10000) :
    escaped c = unitText (0xd800 + (c.toNat - 0x10000) / 0x400) ++
      unitText (0xdc00 + (c.toNat - 0x10000) % 0x400) := by
  rw [escaped, units]
  refine (congrArg (List.flatMap unitText) (if_neg h)).trans ?_
  rw [List.flatMap_cons, List.flatMap_cons, List.flatMap_nil, List.append_nil]

theorem escaped_start (c : Char) : ∃ rest, escaped c = '_' :: '0' :: rest := by
  by_cases h : c.toNat < 0x10000
  · exact ⟨_, escaped_of_lt h⟩
  · exact ⟨_, escaped_of_not_lt h⟩

variable {c d : Char} {s t : List Char}

theorem unitText_inj {m n : Nat} (hm : m < 0x10000) (hn : n < 0x10000)
    (h : unitText m ++ s = unitText n ++ t) : m = n ∧ s = t := by
  obtain ⟨htext, hrest⟩ := List.append_inj h rfl
  exact ⟨hex4_injective hm hn (List.cons.inj (List.cons.inj htext).2).2, hrest⟩

/-- The units of a character tell the character. -/
theorem escaped_inj (h : escaped c ++ s = escaped d ++ t) : c = d ∧ s = t := by
  obtain ⟨hc, hcmax⟩ := toNat_bounds c
  obtain ⟨hd, hdmax⟩ := toNat_bounds d
  by_cases hclt : c.toNat < 0x10000
  · by_cases hdlt : d.toNat < 0x10000
    · rw [escaped_of_lt hclt, escaped_of_lt hdlt] at h
      obtain ⟨hcode, hrest⟩ := unitText_inj hclt hdlt h
      exact ⟨Char.toNat_inj.1 hcode, hrest⟩
    · -- the first unit would be half a character
      rw [escaped_of_lt hclt, escaped_of_not_lt hdlt, List.append_assoc] at h
      obtain ⟨hcode, -⟩ := unitText_inj hclt (by omega) h
      omega
  · by_cases hdlt : d.toNat < 0x10000
    · rw [escaped_of_not_lt hclt, escaped_of_lt hdlt, List.append_assoc] at h
      obtain ⟨hcode, -⟩ := unitText_inj (by omega) hdlt h
      omega
    · rw [escaped_of_not_lt hclt, escaped_of_not_lt hdlt, List.append_assoc, List.append_assoc] at h
      obtain ⟨hhigh, h⟩ := unitText_inj (by omega) (by omega) h
      obtain ⟨hlow, hrest⟩ := unitText_inj (by omega) (by omega) h
      exact ⟨Char.toNat_inj.1 (by omega), hrest⟩

/-! ## Characters -/

/-- The characters with a mark of their own. -/
def marks : List (Char × Char) := [('_', '1'), (';', '2'), ('[', '3')]

/-- How a character is written, unless it separates. -/
inductive Written : Char → List Char → Prop
  | plain {c : Char} (h : isPlain c = true) : Written c [c]
  | marked {c mark : Char} (h : (c, mark) ∈ marks) : Written c ['_', mark]
  | escaped (c : Char) : Written c (escaped c)

theorem written_mangleChar (hslash : c ≠ '/') (hdot : c ≠ '.') : Written c (mangleChar c) := by
  unfold mangleChar
  split
  · next h => exact .plain h
  · split
    · exact absurd rfl hslash
    · exact absurd rfl hdot
    · exact .marked (by decide)
    · exact .marked (by decide)
    · exact .marked (by decide)
    · exact .escaped c

theorem ne_underscore_of_isPlain (h : isPlain c = true) : c ≠ '_' := by
  rintro rfl
  exact absurd h (by decide)

/-- What a text starts with tells which character is written first. -/
theorem Written.inj {x y : List Char} (hx : Written c x) (hy : Written d y)
    (h : x ++ s = y ++ t) : c = d ∧ s = t := by
  have hmark : ∀ p ∈ marks, p.2 ≠ '0' := by decide
  have hmarks : ∀ p ∈ marks, ∀ q ∈ marks, p.2 = q.2 → p.1 = q.1 := by decide
  obtain ⟨restc, hc⟩ := escaped_start c
  obtain ⟨restd, hd⟩ := escaped_start d
  cases hx with
  | plain hplain =>
    have hne := ne_underscore_of_isPlain hplain
    cases hy with
    | plain _ => exact List.cons.inj h
    | marked _ => exact absurd (List.cons.inj h).1 hne
    | escaped =>
      rw [hd] at h
      exact absurd (List.cons.inj h).1 hne
  | marked hmem =>
    cases hy with
    | plain hplain => exact absurd (List.cons.inj h).1.symm (ne_underscore_of_isPlain hplain)
    | marked hmem' =>
      obtain ⟨hsame, hrest⟩ := List.cons.inj (List.cons.inj h).2
      exact ⟨hmarks _ hmem _ hmem' hsame, hrest⟩
    | escaped =>
      rw [hd] at h
      exact absurd (List.cons.inj (List.cons.inj h).2).1 (hmark _ hmem)
  | escaped =>
    cases hy with
    | plain hplain =>
      rw [hc] at h
      exact absurd (List.cons.inj h).1.symm (ne_underscore_of_isPlain hplain)
    | marked hmem =>
      rw [hc] at h
      exact absurd (List.cons.inj (List.cons.inj h).2).1.symm (hmark _ hmem)
    | escaped => exact escaped_inj h

theorem Written.ne_nil {x : List Char} (h : Written c x) : x ≠ [] := by
  cases h with
  | plain _ => exact List.cons_ne_nil _ _
  | marked _ => exact List.cons_ne_nil _ _
  | escaped =>
    obtain ⟨rest, hrest⟩ := escaped_start c
    rw [hrest]
    exact List.cons_ne_nil _ _

/-! ## Components -/

/-- The name holds no separator. -/
def Unseparated (name : String) : Prop := ∀ c ∈ name.toList, c ≠ '/' ∧ c ≠ '.'

theorem flatMap_mangleChar_injective {cs ds : List Char} (hcs : ∀ c ∈ cs, c ≠ '/' ∧ c ≠ '.')
    (hds : ∀ d ∈ ds, d ≠ '/' ∧ d ≠ '.') (h : cs.flatMap mangleChar = ds.flatMap mangleChar) :
    cs = ds := by
  induction cs generalizing ds with
  | nil =>
    cases ds with
    | nil => rfl
    | cons d ds =>
      obtain ⟨hd, -⟩ := List.forall_mem_cons.1 hds
      rw [List.flatMap_cons] at h
      exact absurd (List.append_eq_nil_iff.1 h.symm).1 (written_mangleChar hd.1 hd.2).ne_nil
  | cons c cs ih =>
    obtain ⟨hc, hcs⟩ := List.forall_mem_cons.1 hcs
    cases ds with
    | nil =>
      rw [List.flatMap_cons] at h
      exact absurd (List.append_eq_nil_iff.1 h).1 (written_mangleChar hc.1 hc.2).ne_nil
    | cons d ds =>
      obtain ⟨hd, hrestd⟩ := List.forall_mem_cons.1 hds
      rw [List.flatMap_cons, List.flatMap_cons] at h
      obtain ⟨rfl, hrest⟩ :=
        (written_mangleChar hc.1 hc.2).inj (written_mangleChar hd.1 hd.2) h
      rw [ih hcs hrestd hrest]

/-- The text starts with nothing that, behind an underscore, would stand for a character. -/
def Unmarked (s : List Char) : Prop := ∀ c, s.head? = some c → c ∉ ['0', '1', '2', '3']

/-- So an underscore before it writes no character. -/
theorem Written.not_separator {x : List Char} (h : Written c x) (ht : Unmarked t)
    (heq : x ++ s = '_' :: t) : False := by
  have hmarks : ∀ p ∈ marks, p.2 ∈ ['0', '1', '2', '3'] := by decide
  cases h with
  | plain hplain => exact ne_underscore_of_isPlain hplain (List.cons.inj heq).1
  | marked hmem =>
    obtain ⟨-, htail⟩ := List.cons.inj heq
    exact ht _ (by rw [← htail]; rfl) (hmarks _ hmem)
  | escaped =>
    obtain ⟨rest, hrest⟩ := escaped_start c
    rw [hrest] at heq
    obtain ⟨-, htail⟩ := List.cons.inj heq
    exact ht '0' (by rw [← htail]; rfl) List.mem_cons_self

/-- The first component ends at the underscore that writes no character. -/
theorem components_inj {cs ds : List Char} (hcs : ∀ c ∈ cs, c ≠ '/' ∧ c ≠ '.')
    (hds : ∀ d ∈ ds, d ≠ '/' ∧ d ≠ '.') (hs : Unmarked s) (ht : Unmarked t)
    (h : cs.flatMap mangleChar ++ '_' :: s = ds.flatMap mangleChar ++ '_' :: t) :
    cs = ds ∧ s = t := by
  induction cs generalizing ds with
  | nil =>
    cases ds with
    | nil => exact ⟨rfl, (List.cons.inj h).2⟩
    | cons d ds =>
      obtain ⟨hd, -⟩ := List.forall_mem_cons.1 hds
      rw [List.flatMap_cons, List.append_assoc] at h
      exact ((written_mangleChar hd.1 hd.2).not_separator hs h.symm).elim
  | cons c cs ih =>
    obtain ⟨hc, hcs⟩ := List.forall_mem_cons.1 hcs
    rw [List.flatMap_cons, List.append_assoc] at h
    cases ds with
    | nil => exact ((written_mangleChar hc.1 hc.2).not_separator ht h).elim
    | cons d ds =>
      obtain ⟨hd, hrestd⟩ := List.forall_mem_cons.1 hds
      rw [List.flatMap_cons, List.append_assoc] at h
      obtain ⟨rfl, hrest⟩ :=
        (written_mangleChar hc.1 hc.2).inj (written_mangleChar hd.1 hd.2) h
      obtain ⟨rfl, hbehind⟩ := ih hcs hrestd hrest
      exact ⟨rfl, hbehind⟩

/-- Names without separators are written differently. -/
theorem mangle_injective {a b : String} (ha : Unseparated a) (hb : Unseparated b)
    (h : mangle a = mangle b) : a = b :=
  String.toList_inj.1 (flatMap_mangleChar_injective ha hb (String.ofList_inj.1 h))

/-- So are the symbols of a class's methods. -/
theorem glueName_injective {owner : JavaType} {a b : String} (ha : Unseparated a)
    (hb : Unseparated b) (h : glueName owner a = glueName owner b) : a = b :=
  mangle_injective ha hb ((String.append_right_inj _).1 h)

end JniBridge.Symbol
