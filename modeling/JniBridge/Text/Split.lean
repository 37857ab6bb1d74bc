/-
Cutting text into pieces.

Everything here is a plain recursion over a list of characters: `pieces` cuts at every character
that satisfies a test and loses only those characters; `words` keeps the pieces that are not empty;
`lines` cuts at line feeds the way a line-by-line re-indentation needs it.  Blanks are the characters
with Unicode's `White_Space` property.
-/

namespace JniBridge.Text

/-! ## Blanks -/

/-- A character with Unicode's `White_Space` property. -/
def isBlank (c : Char) : Bool :=
  let n := c.toNat
  (9 ≤ n && n ≤ 13) || n == 0x20 || n == 0x85 || n == 0xa0 || n == 0x1680 ||
    (0x2000 ≤ n && n ≤ 0x200a) || n == 0x2028 || n == 0x2029 || n == 0x202f || n == 0x205f ||
    n == 0x3000

/-! ## Pieces -/

/-- Cuts at every character satisfying `cut`, which is dropped; `n` cuts give `n + 1` pieces. -/
def pieces (cut : Char → Bool) : List Char → List (List Char)
  | [] => [[]]
  | c :: cs =>
    if cut c then [] :: pieces cut cs
    else match pieces cut cs with
      | [] => [[c]]
      | p :: ps => (c :: p) :: ps

/-- The maximal runs of characters that are not blank. -/
def words (s : List Char) : List (List Char) :=
  (pieces isBlank s).filter (fun p => !p.isEmpty)

/-- The text without the blanks at either end. -/
def trim (s : List Char) : List Char :=
  ((s.dropWhile isBlank).reverse.dropWhile isBlank).reverse

/-- A trimmed string. -/
def trimmed (s : String) : String := String.ofList (trim s.toList)

/-! ## Lines -/

/-- Drops the carriage return that stands before a line feed. -/
def dropReturn (line : List Char) : List Char :=
  if line.getLast? = some '\r' then line.dropLast else line

/-- Each piece but the last stood before a line feed; a last piece counts if it is not empty. -/
def endedLines : List (List Char) → List (List Char)
  | [] => []
  | [last] => if last.isEmpty then [] else [last]
  | p :: ps => dropReturn p :: endedLines ps

/-- The lines of a text, without their ends (a line feed, or a carriage return and a line feed). -/
def lines (s : String) : List String :=
  (endedLines (pieces (· == '\n') s.toList)).map String.ofList

/-! ## Replacement -/

/-- Replaces one character by another. -/
def replaceChar (old new : Char) (s : String) : String :=
  String.ofList (s.toList.map fun c => if c = old then new else c)

/-! ## Laws -/

theorem pieces_ne_nil (cut : Char → Bool) (s : List Char) : pieces cut s ≠ [] := by
  cases s with
  | nil => simp [pieces]
  | cons c cs =>
    unfold pieces
    split
    · simp
    · split <;> simp

/-- A text without cuts is its only piece. -/
theorem pieces_of_forall_not {cut : Char → Bool} {s : List Char} (h : ∀ c ∈ s, cut c = false) :
    pieces cut s = [s] := by
  induction s with
  | nil => rfl
  | cons c cs ih =>
    rw [pieces, ih fun d hd => h d (List.mem_cons_of_mem c hd)]
    simp [h c List.mem_cons_self]

/-- A cut ends a piece. -/
theorem pieces_append_cut {cut : Char → Bool} {s : List Char} {c : Char} (rest : List Char)
    (h : ∀ d ∈ s, cut d = false) (hc : cut c = true) :
    pieces cut (s ++ c :: rest) = s :: pieces cut rest := by
  induction s with
  | nil => simp [pieces, hc]
  | cons d ds ih =>
    rw [List.cons_append, pieces, ih fun e he => h e (List.mem_cons_of_mem d he)]
    simp [h d List.mem_cons_self]

end JniBridge.Text
