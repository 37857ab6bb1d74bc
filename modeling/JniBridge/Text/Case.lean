import JniBridge.Text.CaseTable
/-
Letter case of all characters.

ASCII is decided by itself, so that a statement about identifiers never meets a table; everything
else is looked up.
-/

namespace JniBridge.Text

/-- The code point lies in the run: between its ends, and a whole number of steps from the first. -/
def inRun (n : Nat) (run : Nat × Nat × Nat) : Bool :=
  run.1 ≤ n && n ≤ run.2.1 && (n - run.1) % run.2.2 == 0

/-- The character is upper case. -/
def isUpper (c : Char) : Bool :=
  if c.toNat < 128 then c.isUpper else CaseTable.uppercase.any (inRun c.toNat)

/-- The character is lower case. -/
def isLower (c : Char) : Bool :=
  if c.toNat < 128 then c.isLower else CaseTable.lowercase.any (inRun c.toNat)

/-- The upper case of a character beyond ASCII. -/
def upperBeyondAscii (c : Char) : List Char :=
  let n := c.toNat
  match CaseTable.several.lookup n with
  | some image => image.map Char.ofNat
  | none =>
    match CaseTable.single.find? fun (first, last, step, _) => inRun n (first, last, step) with
    | some (first, _, _, image) => [Char.ofNat (image + (n - first))]
    | none => [c]

/-- The upper case of a character, which may be several characters. -/
def upper (c : Char) : List Char :=
  if c.toNat < 128 then [c.toUpper] else upperBeyondAscii c

/-- The text with its first character in upper case. -/
def capitalized : List Char → List Char
  | [] => []
  | c :: cs => upper c ++ cs

/-- On ASCII, upper case is the case of the capital letters. -/
theorem isUpper_of_lt {c : Char} (h : c.toNat < 128) : isUpper c = c.isUpper := if_pos h

theorem isLower_of_lt {c : Char} (h : c.toNat < 128) : isLower c = c.isLower := if_pos h

theorem upper_of_lt {c : Char} (h : c.toNat < 128) : upper c = [c.toUpper] := if_pos h

end JniBridge.Text
