import Mathlib.Data.Bool.AllAny
import Mathlib.Data.List.Chain
import Mathlib.Data.List.DropRight
import Mathlib.Data.List.ReduceOption
import JniBridge.Proofs.Mangling
import JniBridge.Text.Digit
/-
Reading a whole symbol back.

An underscore in a symbol separates two components or leads the escape of a character, and both are read
from left to right: first the text is cut into signs (`signs`), of which each is a separator or one UTF-16
unit, then units are put together to characters (`letters`).  The last separator stands before the method's
name, the others are the slashes of the class's (`decode`).

A symbol is the class's name, a slash and the method's name, mangled as one text.  So a single induction
shows that it is read back (`letters_signs`), as long as no component but the first starts with a digit:
behind a separator, that would be taken for the rest of an escape.
-/

namespace JniBridge.Symbol

/-! ## The reader -/

/-- A part of a symbol. -/
inductive Sign where
  | separator
  /-- A UTF-16 unit, as it stands or escaped. -/
  | unit (u : Nat)

/-- Cuts a text into signs. -/
def signs : List Char → List Sign
  | [] => []
  | '_' :: '1' :: s => .unit '_'.toNat :: signs s
  | '_' :: '2' :: s => .unit ';'.toNat :: signs s
  | '_' :: '3' :: s => .unit '['.toNat :: signs s
  | '_' :: '0' :: a :: b :: c :: d :: s => .unit (Text.numeral 16 [a, b, c, d]) :: signs s
  | '_' :: s => .separator :: signs s
  | c :: s => .unit c.toNat :: signs s

/-- The unit is the first half of a character. -/
def isHighHalf (u : Nat) : Bool := 0xd800 ≤ u && u < 0xdc00

/-- The characters that signs stand for; nothing stands for a separator. -/
def letters : List Sign → List (Option Char)
  | [] => []
  | .separator :: s => none :: letters s
  | .unit high :: .unit low :: s =>
    if isHighHalf high then
      some (Char.ofNat (0x10000 + (high - 0xd800) * 0x400 + (low - 0xdc00))) :: letters s
    else some (Char.ofNat high) :: letters (.unit low :: s)
  | .unit u :: s => some (Char.ofNat u) :: letters s

/-- The name of the class and the name of the method in a symbol. -/
def decode (symbol : String) : String × String :=
  let read := letters (signs (symbol.toList.drop "Java_".length))
  (String.ofList ((read.rdropWhile Option.isSome).dropLast.map fun c => c.getD '/'),
    String.ofList (read.rtakeWhile Option.isSome).reduceOption)

/-! ## One character -/

theorem hexDigit?_hexDigit {n : Nat} (h : n < 16) : Text.hexDigit? (hexDigit n) = some n := by
  have hall : ∀ i : Fin 16, Text.hexDigit? (hexDigit i) = some i.val := by decide
  exact hall ⟨n, h⟩

theorem numeral_hex4 {u : Nat} (h : u < 0x10000) : Text.numeral 16 (hex4 u) = u := by
  have hdigit : ∀ n, (Text.hexDigit? (hexDigit (n % 16))).getD 0 = n % 16 := fun n => by
    rw [hexDigit?_hexDigit (Nat.mod_lt n (by decide))]
    rfl
  simp only [hex4, Text.numeral, List.foldl_cons, List.foldl_nil, hdigit]
  omega

variable {c : Char} {s : List Char} {u : Nat}

theorem signs_unitText (h : u < 0x10000) : signs (unitText u ++ s) = .unit u :: signs s := by
  have hread : signs (unitText u ++ s) = .unit (Text.numeral 16 (hex4 u)) :: signs s := rfl
  rw [hread, numeral_hex4 h]

theorem units_of_lt (h : c.toNat < 0x10000) : units c = [c.toNat] := if_pos h

theorem units_of_not_lt (h : ¬ c.toNat < 0x10000) :
    units c = [0xd800 + (c.toNat - 0x10000) / 0x400, 0xdc00 + (c.toNat - 0x10000) % 0x400] :=
  if_neg h

theorem units_lt (c : Char) : ∀ u ∈ units c, u < 0x10000 := by
  obtain ⟨-, hmax⟩ := toNat_bounds c
  by_cases hlt : c.toNat < 0x10000
  · rw [units_of_lt hlt, List.forall_mem_singleton]
    exact hlt
  · rw [units_of_not_lt hlt, List.forall_mem_cons, List.forall_mem_singleton]
    omega

theorem signs_flatMap_unitText {us : List Nat} (h : ∀ u ∈ us, u < 0x10000) :
    signs (us.flatMap unitText ++ s) = us.map .unit ++ signs s := by
  induction us with
  | nil => rfl
  | cons u us ih =>
    obtain ⟨hu, hus⟩ := List.forall_mem_cons.1 h
    rw [List.flatMap_cons, List.append_assoc, signs_unitText hu, ih hus]
    rfl

/-- A character that does not lead an escape is read as it stands. -/
theorem signs_cons (h : c ≠ '_') : signs (c :: s) = .unit c.toNat :: signs s := by
  rw [signs]
  all_goals simp [h]

theorem lt_of_isPlain (h : isPlain c = true) : c.toNat < 0x10000 := by
  unfold isPlain Char.isAlphanum Char.isAlpha Char.isUpper Char.isLower Char.isDigit at h
  simp only [Bool.or_eq_true, Bool.and_eq_true, decide_eq_true_eq, UInt32.le_iff_toNat_le] at h
  have hZ : 'Z'.val.toNat = 90 := rfl
  have hz : 'z'.val.toNat = 122 := rfl
  have h9 : '9'.val.toNat = 57 := rfl
  show c.val.toNat < _
  omega

/-- However a character is written, its units are read. -/
theorem signs_written {x : List Char} (h : Written c x) :
    signs (x ++ s) = (units c).map .unit ++ signs s := by
  cases h with
  | plain hplain =>
    rw [units_of_lt (lt_of_isPlain hplain)]
    exact signs_cons (ne_underscore_of_isPlain hplain)
  | marked hmem =>
    simp only [marks, List.mem_cons, List.not_mem_nil, or_false, Prod.mk.injEq] at hmem
    rcases hmem with ⟨rfl, rfl⟩ | ⟨rfl, rfl⟩ | ⟨rfl, rfl⟩ <;> rfl
  | escaped => exact signs_flatMap_unitText (units_lt c)

/-- An underscore that leads no escape separates. -/
theorem signs_separator (h : Unmarked s) : signs ('_' :: s) = .separator :: signs s := by
  cases s with
  | nil => rfl
  | cons d s =>
    have hd := h d rfl
    simp only [List.mem_cons, List.not_mem_nil, or_false, not_or] at hd
    obtain ⟨h0, h1, h2, h3⟩ := hd
    rw [signs]
    all_goals simp [h0, h1, h2, h3]

/-- The units of a character are put together again. -/
theorem letters_units (c : Char) (rest : List Sign) :
    letters ((units c).map .unit ++ rest) = some c :: letters rest := by
  obtain ⟨hhalf, hmax⟩ := toNat_bounds c
  by_cases hlt : c.toNat < 0x10000
  · have hwhole : isHighHalf c.toNat = false := by
      simp only [isHighHalf, Bool.and_eq_false_iff, decide_eq_false_iff_not]
      omega
    rw [units_of_lt hlt]
    show letters (.unit c.toNat :: rest) = _
    cases rest with
    | nil => simp [letters, Char.ofNat_toNat]
    | cons sign rest => cases sign <;> simp [letters, hwhole, Char.ofNat_toNat]
  · have hhigh : isHighHalf (0xd800 + (c.toNat - 0x10000) / 0x400) = true := by
      simp only [isHighHalf, Bool.and_eq_true, decide_eq_true_eq]
      omega
    have hcode : 0x10000 + (0xd800 + (c.toNat - 0x10000) / 0x400 - 0xd800) * 0x400 +
        (0xdc00 + (c.toNat - 0x10000) % 0x400 - 0xdc00) = c.toNat := by
      omega
    rw [units_of_not_lt hlt]
    show letters (.unit _ :: .unit _ :: rest) = _
    rw [letters, if_pos hhigh, hcode, Char.ofNat_toNat]

/-! ## The whole text -/

/-- The text does not start with a digit. -/
def Undigited (s : List Char) : Prop := ∀ c, s.head? = some c → c.isDigit = false

instance : (s : List Char) → Decidable (Undigited s)
  | [] => .isTrue nofun
  | c :: _ => decidable_of_iff (c.isDigit = false)
    ⟨fun h _ hc => Option.some.inj hc ▸ h, fun h => h c rfl⟩

/-- What does not start with a digit is not written with a mark in front. -/
theorem unmarked_of_undigited (h : Undigited s) : Unmarked (s.flatMap mangleChar) := by
  have hmarks : ∀ m ∈ ['0', '1', '2', '3'], m.isDigit = true ∧ m ≠ '_' :=
    List.all_iff_forall_prop.1 rfl
  cases s with
  | nil => exact nofun
  | cons c s =>
    intro d hd hmark
    obtain ⟨hdigit, hne⟩ := hmarks d hmark
    have hhead : (mangleChar c).head? = some c ∨ (mangleChar c).head? = some '_' := by
      unfold mangleChar
      split
      · exact .inl rfl
      · split
        case h_6 =>
          obtain ⟨rest, hrest⟩ := escaped_start c
          exact .inr ((congrArg List.head? hrest).trans rfl)
        all_goals exact .inr rfl
    rw [List.flatMap_cons, List.head?_append] at hd
    rcases hhead with hc | hc
    · rw [hc] at hd
      obtain rfl : c = d := Option.some.inj hd
      rw [h c rfl] at hdigit
      exact nomatch hdigit
    · rw [hc] at hd
      exact hne (Option.some.inj hd).symm

/-- Only slashes separate in the text, and no digit follows one. -/
structure Legible (s : List Char) : Prop where
  undotted : ∀ c ∈ s, c ≠ '.'
  undigited : s.IsChain fun c d => c = '/' → d.isDigit = false

theorem Legible.cons (hdot : c ≠ '.') (hslash : c = '/' → Undigited s) (hs : Legible s) :
    Legible (c :: s) where
  undotted := List.forall_mem_cons.2 ⟨hdot, hs.undotted⟩
  undigited := List.isChain_cons.2 ⟨fun d hd hc => hslash hc d hd, hs.undigited⟩

theorem Legible.tail (h : Legible (c :: s)) : Legible s where
  undotted := (List.forall_mem_cons.1 h.undotted).2
  undigited := h.undigited.tail

/-- What stands for a character of a component, or for the slash between two. -/
def letter (c : Char) : Option Char := if c = '/' then none else some c

/-- A legible text is read back from how it is mangled. -/
theorem letters_signs (h : Legible s) : letters (signs (s.flatMap mangleChar)) = s.map letter := by
  induction s with
  | nil => rfl
  | cons c s ih =>
    have hrest := ih h.tail
    rw [List.flatMap_cons, List.map_cons]
    by_cases hslash : c = '/'
    · subst hslash
      have hundigited : Undigited s := fun d hd => (List.isChain_cons.1 h.undigited).1 d hd rfl
      show letters (signs ('_' :: s.flatMap mangleChar)) = _
      rw [signs_separator (unmarked_of_undigited hundigited), letters, hrest]
      rfl
    · have hdot := (List.forall_mem_cons.1 h.undotted).1
      rw [signs_written (written_mangleChar hslash hdot), letters_units, hrest, letter,
        if_neg hslash]

/-! ## Class and method -/

/-- Without separators there is nothing to misread. -/
theorem legible_of_unseparated (h : ∀ c ∈ s, c ≠ '/' ∧ c ≠ '.') : Legible s := by
  induction s with
  | nil => exact ⟨nofun, .nil⟩
  | cons c s ih =>
    obtain ⟨hc, hs⟩ := List.forall_mem_cons.1 h
    exact .cons hc.2 (fun hslash => absurd hslash hc.1) (ih hs)

/-- Two texts with a slash between them. -/
theorem Legible.join {t : List Char} (hs : Legible s) (ht : Legible t) (hundigited : Undigited t) :
    Legible (s ++ '/' :: t) := by
  have htail : Legible ('/' :: t) := .cons (by decide) (fun _ => hundigited) ht
  refine ⟨List.forall_mem_append.2 ⟨hs.undotted, htail.undotted⟩,
    List.isChain_append.2 ⟨hs.undigited, htail.undigited, ?_⟩⟩
  rintro c - d hd -
  obtain rfl : '/' = d := Option.some.inj hd
  rfl

/-- The first piece starts as the text does, unless that starts with a full stop. -/
theorem undigited_of_pieces (h : ∀ p ∈ Text.pieces (· == '.') s, Undigited p) : Undigited s := by
  cases s with
  | nil => exact nofun
  | cons c s =>
    obtain ⟨p, ps, hp⟩ := List.exists_cons_of_ne_nil (Text.pieces_ne_nil (· == '.') s)
    intro d hd
    obtain rfl : c = d := Option.some.inj hd
    by_cases hdot : c = '.'
    · rw [hdot]
      rfl
    · refine h (c :: p) ?_ c rfl
      rw [Text.pieces, if_neg (by simpa using hdot), hp]
      exact List.mem_cons_self

theorem undigited_replaceChar (new : Char) (hnew : new.isDigit = false) (h : Undigited s) :
    Undigited (s.map fun c => if c = '.' then new else c) := by
  intro c hc
  rw [List.head?_map] at hc
  obtain ⟨d, hd, rfl⟩ := Option.map_eq_some_iff.1 hc
  by_cases hdot : d = '.'
  · rw [if_pos hdot]
    exact hnew
  · rw [if_neg hdot]
    exact h d hd

/-- A package as folders.  Of the first piece nothing need be known: no slash is before it. -/
theorem legible_folders (hslash : ∀ c ∈ s, c ≠ '/')
    (hpieces : ∀ p ∈ (Text.pieces (· == '.') s).tail, Undigited p) :
    Legible (s.map fun c => if c = '.' then '/' else c) := by
  induction s with
  | nil => exact ⟨nofun, .nil⟩
  | cons c s ih =>
    obtain ⟨hc, hs⟩ := List.forall_mem_cons.1 hslash
    rw [List.map_cons]
    by_cases hdot : c = '.'
    · subst hdot
      have hrest : ∀ p ∈ Text.pieces (· == '.') s, Undigited p := hpieces
      have hundigited := undigited_replaceChar '/' rfl (undigited_of_pieces hrest)
      exact .cons (by decide) (fun _ => hundigited) (ih hs fun p hp => hrest p (List.mem_of_mem_tail hp))
    · obtain ⟨p, ps, hp⟩ := List.exists_cons_of_ne_nil (Text.pieces_ne_nil (· == '.') s)
      rw [Text.pieces, if_neg (by simpa using hdot), hp] at hpieces
      rw [if_neg hdot]
      refine .cons hdot (fun hslash => absurd hslash hc) (ih hs ?_)
      rw [hp]
      exact hpieces

/-- A class and a method that their symbol tells: nothing behind a separator starts with a digit, and
nothing separates but what is meant to. -/
structure Tellable (package name methodName : String) : Prop where
  packageSlashless : ∀ c ∈ package.toList, c ≠ '/'
  packageUndigited : ∀ p ∈ Text.pieces (· == '.') package.toList, Undigited p
  nameSlashless : ∀ c ∈ name.toList, c ≠ '/'
  nameUndigited : Undigited name.toList
  method : Unseparated methodName
  methodUndigited : Undigited methodName.toList

namespace Tellable

variable {package name method : String}

/-- Nested names are joined by dollar signs, so that nothing separates them. -/
theorem nested (h : Tellable package name method) :
    Legible (Text.replaceChar '.' '$' name).toList := by
  rw [Text.replaceChar, String.toList_ofList]
  refine legible_of_unseparated fun c hc => ?_
  obtain ⟨d, hd, rfl⟩ := List.mem_map.1 hc
  by_cases hdot : d = '.'
  · rw [if_pos hdot]
    decide
  · rw [if_neg hdot]
    exact ⟨h.nameSlashless d hd, hdot⟩

theorem binaryName (h : Tellable package name method) :
    Legible (JavaType.binaryName package name).toList := by
  unfold JavaType.binaryName
  dsimp only
  split
  · exact h.nested
  · have hfolders : Legible (Text.replaceChar '.' '/' package).toList := by
      rw [Text.replaceChar, String.toList_ofList]
      exact legible_folders h.packageSlashless fun p hp => h.packageUndigited p (List.mem_of_mem_tail hp)
    have hundigited : Undigited (Text.replaceChar '.' '$' name).toList := by
      rw [Text.replaceChar, String.toList_ofList]
      exact undigited_replaceChar _ rfl h.nameUndigited
    rw [String.toList_append, String.toList_append, List.append_assoc]
    exact hfolders.join h.nested hundigited

end Tellable

theorem map_letter_of_slashless {t : List Char} (h : ∀ c ∈ t, c ≠ '/') : t.map letter = t.map some :=
  List.map_congr_left fun c hc => if_neg (h c hc)

theorem getD_letter (c : Char) : (letter c).getD '/' = c := by
  unfold letter
  split
  · next hslash => exact hslash.symm
  · rfl

/-- What stands behind the last separator is the method's name. -/
theorem split_at_last {t : List Char} (read : List (Option Char)) :
    (read ++ none :: t.map some).rdropWhile Option.isSome = read ++ [none] ∧
      (read ++ none :: t.map some).rtakeWhile Option.isSome = t.map some := by
  have hsome : ∀ x ∈ (t.map some).reverse, x.isSome = true := by
    intro x hx
    obtain ⟨c, -, rfl⟩ := List.mem_map.1 (List.mem_reverse.1 hx)
    rfl
  constructor
  · rw [List.rdropWhile, List.reverse_append, List.reverse_cons, List.append_assoc,
      List.dropWhile_append_of_pos hsome]
    simp
  · rw [List.rtakeWhile, List.reverse_append, List.reverse_cons, List.append_assoc,
      List.takeWhile_append_of_pos hsome]
    simp

variable {package name method : String}

/-- The symbol of a legible class is read back. -/
theorem decode_glueName {arguments : List JavaType} {notes : List String}
    (h : Tellable package name method) :
    decode (glueName (.object package name arguments notes) method) =
      (JavaType.binaryName package name, method) := by
  let text := (JavaType.binaryName package name).toList
  have hslashless : ∀ c ∈ method.toList, c ≠ '/' := fun c hc => (h.method c hc).1
  have hlegible : Legible (text ++ '/' :: method.toList) :=
    h.binaryName.join (legible_of_unseparated h.method) h.methodUndigited
  -- the underscore before the method is how a slash is written
  have hbody : (glueName (.object package name arguments notes) method).toList.drop "Java_".length =
      (text ++ '/' :: method.toList).flatMap mangleChar := by
    rw [List.flatMap_append, List.flatMap_cons]
    simp only [glueName, mangle, String.toList_append, String.toList_ofList, List.append_assoc]
    rfl
  have hread : letters (signs ((text ++ '/' :: method.toList).flatMap mangleChar)) =
      text.map letter ++ none :: method.toList.map some := by
    rw [letters_signs hlegible, List.map_append, List.map_cons, map_letter_of_slashless hslashless]
    rfl
  obtain ⟨hdrop, htake⟩ := split_at_last (t := method.toList) (text.map letter)
  unfold decode
  simp only [hbody, hread, hdrop, htake, List.dropLast_concat, List.map_map]
  simp [Function.comp_def, getD_letter, List.reduceOption, text]

/-- A symbol can be decoded, so that it tells the class and the method. -/
theorem glueName_tells {package' name' method' : String} (arguments arguments' : List JavaType)
    (notes notes' : List String) (h : Tellable package name method)
    (h' : Tellable package' name' method') :
    decode (glueName (.object package name arguments notes) method) =
        (JavaType.binaryName package name, method) ∧
      (glueName (.object package name arguments notes) method =
          glueName (.object package' name' arguments' notes') method' ↔
        (JavaType.object package name arguments notes).className? =
            (JavaType.object package' name' arguments' notes').className? ∧
          method = method') := by
  refine ⟨decode_glueName h, fun hsame => ?_, fun ⟨hclass, hmethod⟩ => ?_⟩
  · have hread := congrArg decode hsame
    rw [decode_glueName h, decode_glueName h'] at hread
    obtain ⟨hclass, hmethod⟩ := Prod.mk.inj hread
    exact ⟨congrArg some hclass, hmethod⟩
  · rw [glueName, glueName, hclass, hmethod]

/-- Underscores of all kinds side by side: a nested class in a package, and one in no package whose name is
spelled like the symbol of the first. -/
theorem glueName_tells_underscores :
    decode (glueName (.object "a._b" "C._1" [] ["@A"]) "_😀[") = ("a/_b/C$_1", "_😀[") ∧
      glueName (.object "a._b" "C._1" [] ["@A"]) "_😀[" ≠
        glueName (.object "" "a__1b_C$_11" [] []) "_😀[" := by
  have hnested : Tellable "a._b" "C._1" "_😀[" :=
    ⟨List.all_iff_forall_prop.1 rfl, by decide, List.all_iff_forall_prop.1 rfl, by decide,
      List.all_iff_forall_prop.1 rfl, by decide⟩
  have hflat : Tellable "" "a__1b_C$_11" "_😀[" :=
    ⟨List.all_iff_forall_prop.1 rfl, by decide, List.all_iff_forall_prop.1 rfl, by decide,
      List.all_iff_forall_prop.1 rfl, by decide⟩
  obtain ⟨hdecode, hiff⟩ := glueName_tells [] [] ["@A"] [] hnested hflat
  exact ⟨hdecode, fun hsame => absurd (hiff.1 hsame).1 (by decide)⟩

end JniBridge.Symbol
