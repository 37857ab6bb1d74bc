import Mathlib.Data.Int.ModEq
import JniBridge.Text.Digit
import JniBridge.Unit.Enum
import JniBridge.Proofs.Outcome
/-
Constants of enum classes, read back.

Java reads an `int` literal in two ways.  Decimal digits, behind a minus or not, stand for their number,
which has to be in range; hexadecimal ones stand for a pattern of 32 bits, so that the greater half of
them is negative (`IntLiteral.value?`).  Constants are written in both ways, and come back as what they are
modulo 2^32 (`IntLiteral.value?_signed`, `IntLiteral.value?_unsigned`).

Which enums have a class is decided constant by constant, and the first one that does not fit is the one
that is reported (`EnumUnit.keeps_values`).
-/

namespace JniBridge

/-! ## Digits -/

namespace Text

/-- Digits, written in any way that can be read, give the number back. -/
theorem numeral_toDigits {base : Nat} {spell : Char → Char} (hbase : 1 < base)
    (hspell : ∀ d < base, hexDigit? (spell d.digitChar) = some d) (n : Nat) :
    numeral base ((Nat.toDigits base n).map spell) = n := by
  induction n using Nat.strongRecOn with
  | ind n ih =>
    rw [Nat.toDigits_eq_if hbase]
    split
    · next hn =>
      have hdigit := hspell n hn
      simp [numeral, hdigit]
    · next hn =>
      have hless : n / base < n := Nat.div_lt_self (by omega) hbase
      have hlast := hspell (n % base) (Nat.mod_lt n (by omega))
      rw [List.map_append, List.map_singleton, numeral_concat, ih _ hless, hlast]
      exact Nat.div_add_mod n base

theorem hexDigit?_digitChar : ∀ d < 10, hexDigit? (Nat.digitChar d) = some d := by decide

theorem hexDigit?_capital : ∀ d < 16, hexDigit? (Nat.digitChar d).toUpper = some d := by decide

theorem numeral_decimal (n : Nat) : numeral 10 (Nat.toDigits 10 n) = n := by
  have h := @numeral_toDigits 10 id (by decide) hexDigit?_digitChar n
  rwa [List.map_id] at h

theorem exists_of_mem_toDigits {base n : Nat} (hbase : 1 < base) {c : Char}
    (h : c ∈ Nat.toDigits base n) : ∃ d < base, c = d.digitChar := by
  induction n using Nat.strongRecOn with
  | ind n ih =>
    rw [Nat.toDigits_eq_if hbase] at h
    split at h
    · next hn => exact ⟨n, hn, List.mem_singleton.1 h⟩
    · next hn =>
      rcases List.mem_append.1 h with h | h
      · exact ih (n / base) (Nat.div_lt_self (by omega) hbase) h
      · exact ⟨n % base, Nat.mod_lt n (by omega), List.mem_singleton.1 h⟩

/-- Only zero is written with a zero in front. -/
theorem head?_toDigits {n : Nat} (h : 0 < n) : (Nat.toDigits 10 n).head? ≠ some '0' := by
  induction n using Nat.strongRecOn with
  | ind n ih =>
    rw [Nat.toDigits_eq_if (by decide)]
    split
    · next hn =>
      have hdigit : ∀ d < 10, 0 < d → [Nat.digitChar d].head? ≠ some '0' := by decide
      exact hdigit n hn h
    · next hn =>
      have hhead := ih (n / 10) (by omega) (by omega)
      rw [List.head?_append_of_ne_nil _ Nat.toDigits_ne_nil]
      exact hhead

theorem all_isDigit_toDigits (n : Nat) : (Nat.toDigits 10 n).all Char.isDigit :=
  List.all_eq_true.2 fun _ hc => Nat.isDigit_of_mem_toDigits (by decide) (by decide) hc

end Text

/-! ## Literals -/

namespace IntLiteral

/-- The number that decimal digits stand for.  With a zero in front they would be octal. -/
def decimal? (digits : List Char) : Option Nat :=
  if digits ≠ [] ∧ digits.all Char.isDigit ∧ (digits.head? = some '0' → digits = ['0']) then
    some (Text.numeral 10 digits)
  else none

/-- The number that hexadecimal digits stand for, as a pattern of 32 bits in two's complement. -/
def pattern? (digits : List Char) : Option Int :=
  if digits ≠ [] ∧ digits.length ≤ 8 ∧ digits.all Text.isHexDigit then
    some (BitVec.ofNat 32 (Text.numeral 16 digits)).toInt
  else none

/-- The value of an `int` literal, behind a minus or not.  The greatest number that a minus may stand
before is one more than the greatest that may stand by itself. -/
def value? : List Char → Option Int
  | '0' :: 'x' :: digits => pattern? digits
  | '-' :: digits => do
    let n ← decimal? digits
    if n ≤ 2 ^ 31 then some (-n) else none
  | digits => do
    let n ← decimal? digits
    if n < 2 ^ 31 then some n else none

theorem decimal?_toDigits (n : Nat) : decimal? (Nat.toDigits 10 n) = some n := by
  have hzero : (Nat.toDigits 10 n).head? = some '0' → Nat.toDigits 10 n = ['0'] := by
    intro hhead
    rcases Nat.eq_zero_or_pos n with rfl | hn
    · rfl
    · exact absurd hhead (Text.head?_toDigits hn)
  rw [decimal?, if_pos ⟨Nat.toDigits_ne_nil, Text.all_isDigit_toDigits n, hzero⟩, Text.numeral_decimal]

/-- What consists of digits is decimal. -/
theorem value?_of_digits {digits : List Char} (h : digits.all Char.isDigit) :
    value? digits = (decimal? digits).bind fun n => if n < 2 ^ 31 then some (n : Int) else none := by
  unfold value?
  split
  · next rest => exact absurd (List.all_eq_true.1 h 'x' (by simp)) (by decide)
  · next rest => exact absurd (List.all_eq_true.1 h '-' (by simp)) (by decide)
  · rfl

/-- A number that is written in decimal is read as itself, if it is in range. -/
theorem value?_signed {v : Int} (hlower : -2 ^ 31 ≤ v) (hupper : v < 2 ^ 31) :
    value? (toString v).toList = some v := by
  rw [Int.toString_eq_repr, Int.repr_eq_if]
  split
  · next hv =>
    have hless : v.toNat < 2 ^ 31 := by omega
    rw [Nat.toList_repr, value?_of_digits (Text.all_isDigit_toDigits _), decimal?_toDigits]
    show (if v.toNat < 2 ^ 31 then some (v.toNat : Int) else none) = some v
    rw [if_pos hless, Int.toNat_of_nonneg hv]
  · next hv =>
    have hle : (-v).toNat ≤ 2 ^ 31 := by omega
    rw [String.toList_append, Nat.toList_repr]
    show ((decimal? (Nat.toDigits 10 (-v).toNat)).bind fun n =>
      if n ≤ 2 ^ 31 then some (-(n : Int)) else none) = some v
    rw [decimal?_toDigits]
    show (if (-v).toNat ≤ 2 ^ 31 then some (-((-v).toNat : Int)) else none) = some v
    rw [if_pos hle]
    congr 1
    omega

/-- A pattern of 32 bits is read as the number that it stands for in two's complement. -/
theorem value?_unsigned {v : Nat} (h : v < 2 ^ 32) :
    value? ("0x" ++ EnumUnit.hexDigits v).toList = some ((v : Int).bmod (2 ^ 32)) := by
  have hdigits : (EnumUnit.hexDigits v).toList = (Nat.toDigits 16 v).map Char.toUpper :=
    String.toList_ofList
  have hne : (Nat.toDigits 16 v).map Char.toUpper ≠ [] := by
    rw [Ne, List.map_eq_nil_iff]
    exact Nat.toDigits_ne_nil
  have hlength : ((Nat.toDigits 16 v).map Char.toUpper).length ≤ 8 := by
    rw [List.length_map, Nat.length_toDigits_le_iff (by decide) (by decide)]
    exact h
  have hhex : ((Nat.toDigits 16 v).map Char.toUpper).all Text.isHexDigit := by
    refine List.all_eq_true.2 (List.forall_mem_map.2 fun c hc => ?_)
    obtain ⟨d, hd, rfl⟩ := Text.exists_of_mem_toDigits (by decide) hc
    rw [Text.isHexDigit, Text.hexDigit?_capital d hd]
    rfl
  have hnumeral : Text.numeral 16 ((Nat.toDigits 16 v).map Char.toUpper) = v :=
    Text.numeral_toDigits (by decide) Text.hexDigit?_capital v
  rw [String.toList_append, hdigits]
  show pattern? ((Nat.toDigits 16 v).map Char.toUpper) = _
  rw [pattern?, if_pos ⟨hne, hlength, hhex⟩, hnumeral, BitVec.toInt_eq_toNat_bmod, BitVec.toNat_ofNat,
    Nat.mod_eq_of_lt h]

/-- All bits set. -/
example : value? "0xFFFFFFFF".toList = some (-1) := by decide

end IntLiteral

/-! ## Values -/

namespace EnumValue

/-- The value as a number. -/
def toInt : EnumValue → Int
  | signed v => v
  | unsigned v => v

/-- The value takes 32 bits, as a number of its own signedness. -/
def Fits : EnumValue → Prop
  | signed v => -2 ^ 31 ≤ v ∧ v < 2 ^ 31
  | unsigned v => v < 2 ^ 32

end EnumValue

/-- The constant has a value, and it fits. -/
def EnumConstant.Fits (c : EnumConstant) : Prop := ∃ v, c.value = some v ∧ v.Fits

/-- The literal is read as the `int` that is the value modulo 2^32. -/
def EnumField.Denotes (f : EnumField) (v : EnumValue) : Prop :=
  ∃ n, IntLiteral.value? f.value.toList = some n ∧ -2 ^ 31 ≤ n ∧ n < 2 ^ 31 ∧
    n ≡ v.toInt [ZMOD 2 ^ 32]

/-- The field is the constant, with its value, and is marked exactly if that is unsigned. -/
structure EnumField.Keeps (f : EnumField) (c : EnumConstant) : Prop where
  name : f.name = Naming.escape c.name
  value : ∃ v, c.value = some v ∧ v.Fits ∧ f.Denotes v
  type : f.type = .ofScalar .int ∨
    f.type = (JavaType.ofScalar .int).annotated Vocabulary.unsignedAnnotation
  marked : Vocabulary.unsignedAnnotation ∈ f.type.annotations ↔
    ∃ v, c.value = some (.unsigned v)

theorem EnumField.Keeps.fits {f : EnumField} {c : EnumConstant} (h : f.Keeps c) : c.Fits := by
  obtain ⟨v, hv, hfits, -⟩ := h.value
  exact ⟨v, hv, hfits⟩

/-- Why there is no field for a constant. -/
inductive EnumConstant.Spoils (enumeration : String) (c : EnumConstant) : LinkError → Prop
  | unknown (h : c.value = none) : Spoils enumeration c (.constantUnknown enumeration c.name)
  | tooWide {v} (h : c.value = some v) (hv : ¬ v.Fits) :
    Spoils enumeration c (.constantTooWide enumeration c.name)

namespace EnumUnit

/-- A constant has its field if it fits. -/
theorem field_ends (enumeration : String) (c : EnumConstant) :
    Ends (field enumeration c) (fun f => f.Keeps c) (c.Spoils enumeration) := by
  rw [field]
  refine Ends.map ?_
  cases hc : c.value with
  | none => exact .unknown hc
  | some value =>
    cases value with
    | signed v =>
      rw [literal]
      split
      · next hv =>
        have hread := IntLiteral.value?_signed hv.1 hv.2
        refine ⟨rfl, ⟨_, hc, hv, v, hread, hv.1, hv.2, Int.ModEq.refl v⟩, Or.inl rfl, ?_⟩
        constructor
        · exact fun hmarked => absurd hmarked List.not_mem_nil
        · rintro ⟨w, hw⟩
          exact nomatch hc.symm.trans hw
      · next hv => exact .tooWide hc hv
    | unsigned v =>
      rw [literal]
      split
      · next hv =>
        have hread := IntLiteral.value?_unsigned hv
        have hlower : -2 ^ 31 ≤ (v : Int).bmod (2 ^ 32) := Int.le_bmod (by decide)
        have hupper : (v : Int).bmod (2 ^ 32) < 2 ^ 31 := Int.bmod_lt (by decide)
        refine ⟨rfl, ⟨_, hc, hv, _, hread, hlower, hupper, Int.bmod_emod⟩, Or.inr rfl, ?_⟩
        exact iff_of_true (List.mem_singleton.2 rfl) ⟨v, hc⟩
      · next hv => exact .tooWide hc hv

/-- No constant both has a field and spoils the class. -/
theorem not_fits_of_spoils {enumeration : String} {c : EnumConstant} {e : LinkError}
    (h : c.Spoils enumeration e) : ¬ c.Fits := by
  rintro ⟨v, hv, hfits⟩
  cases h with
  | unknown hnone => exact nomatch hv.symm.trans hnone
  | tooWide hw hwide =>
    obtain rfl := Option.some.inj (hv.symm.trans hw)
    exact hwide hfits

/-- An enum has its class, field by field, or its first constant that does not fit is reported. -/
theorem ofDecl_keeps (decl : EnumDecl) :
    Ends (ofDecl decl)
      (fun u => u.nativeName = decl.name ∧ u.javaName = Naming.escape decl.name ∧
        List.Forall₂ (fun c f => EnumField.Keeps f c) decl.constants u.fields)
      fun e => ∃ before c after, decl.constants = before ++ c :: after ∧
        (∀ b ∈ before, b.Fits) ∧ c.Spoils decl.name e := by
  rw [ofDecl]
  refine Ends.map ?_
  refine (ends_mapM_first fun c _ => field_ends decl.name c).imp (fun fields _ h => ⟨rfl, rfl, h⟩) ?_
  rintro e - ⟨before, c, after, hconstants, hbefore, hspoils⟩
  refine ⟨before, c, after, hconstants, fun b hb => ?_, hspoils⟩
  obtain ⟨f, hf⟩ := hbefore b hb
  exact hf.fits

/-- Enum classes keep values: an enum has its class exactly if all its constants fit, and then each
constant has its field, in order, whose literal is read as the constant's value modulo 2^32.  Otherwise
the first constant that does not fit is reported. -/
theorem keeps_values (decl : EnumDecl) :
    ((∃ u, ofDecl decl = .ok u) ↔ ∀ c ∈ decl.constants, c.Fits) ∧
      (∀ u, ofDecl decl = .ok u →
        List.Forall₂ (fun c f => EnumField.Keeps f c) decl.constants u.fields) ∧
      ∀ e, ofDecl decl = .error e → e.severity = .unsupportedScenario ∧
        ∃ before c after, decl.constants = before ++ c :: after ∧ (∀ b ∈ before, b.Fits) ∧
          c.Spoils decl.name e := by
  have hends := ofDecl_keeps decl
  refine ⟨⟨?_, fun hfits => ?_⟩, fun u hu => (hends.of_ok hu).2.2, fun e he => ⟨?_, hends.of_error he⟩⟩
  · rintro ⟨u, hu⟩ c hc
    obtain ⟨-, -, hfields⟩ := hends.of_ok hu
    obtain ⟨i, hi⟩ := List.getElem?_of_mem hc
    obtain ⟨f, -, hf⟩ := getElem?_of_forall₂ hfields hi
    exact hf.fits
  · cases hof : ofDecl decl with
    | ok u => exact ⟨u, rfl⟩
    | error e =>
      obtain ⟨before, c, after, hconstants, -, hspoils⟩ := hends.of_error hof
      have hc : c ∈ decl.constants := by simp [hconstants]
      exact absurd (hfits c hc) (not_fits_of_spoils hspoils)
  · obtain ⟨before, c, after, -, -, hspoils⟩ := hends.of_error he
    cases hspoils <;> rfl

end EnumUnit

end JniBridge
