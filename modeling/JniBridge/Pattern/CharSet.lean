import JniBridge.Pattern.FoldTable
import JniBridge.Text.Case
import JniBridge.Text.Digit
import JniBridge.Text.Split
/-
Sets of characters, kept as they were put together.

A set is data; what it holds is said by `mem`, one line for each way of putting sets together.  Two
characters that differ only in case belong to one orbit, and a folded set holds a character as soon as
it holds one of its orbit, so folding twice is folding once.
-/

namespace JniBridge.Pattern

/-- The characters that letters, digits and case are known of. -/
inductive Repertoire where
  | ascii | unicode
deriving DecidableEq, Repr

/-! ## Letter case -/

/-- The code points that differ from the given one only in case, itself included. -/
def orbitOf (n : Nat) : List Nat :=
  match FoldTable.groups.find? (·.contains n) with
  | some group => group
  | none =>
    n :: FoldTable.pairs.filterMap fun (first, last, step, other) =>
      if Text.inRun n (first, last, step) then some (other + (n - first))
      else if Text.inRun n (other, other + (last - first), step) then some (first + (n - other))
      else none

/-- The code points that differ from a character only in case, as far as the repertoire knows. -/
def Repertoire.orbit (known : Repertoire) (c : Char) : List Nat :=
  match known with
  | .ascii => [c.toNat, c.toLower.toNat, c.toUpper.toNat]
  | .unicode => orbitOf c.toNat

/-! ## Sets -/

/-- A set of characters. -/
inductive CharSet where
  /-- Ranges of code points, both ends included. -/
  | ranges (rows : List (Nat × Nat))
  | union (a b : CharSet)
  | inter (a b : CharSet)
  | diff (a b : CharSet)
  | symDiff (a b : CharSet)
  | compl (a : CharSet)
  | folded (known : Repertoire) (a : CharSet)
deriving Repr, Inhabited

namespace CharSet

/-- The set holds the code point. -/
def memCode : CharSet → Nat → Bool
  | .ranges rows, n => rows.any fun (low, high) => low ≤ n && n ≤ high
  | .union a b, n => a.memCode n || b.memCode n
  | .inter a b, n => a.memCode n && b.memCode n
  | .diff a b, n => a.memCode n && !b.memCode n
  | .symDiff a b, n => a.memCode n != b.memCode n
  | .compl a, n => !a.memCode n
  | .folded known a, n => (known.orbit (Char.ofNat n)).any a.memCode

/-- The set holds the character. -/
def mem (s : CharSet) (c : Char) : Bool := s.memCode c.toNat

def empty : CharSet := .ranges []

def single (c : Char) : CharSet := .ranges [(c.toNat, c.toNat)]

/-- The members of a list of sets. -/
def unions (sets : List CharSet) : CharSet := sets.foldr .union .empty

/-! ## Ranges -/

/-- Ranges in the order of their first members, each joined with those that overlap or follow it. -/
def joined : Nat × Nat → List (Nat × Nat) → List (Nat × Nat)
  | row, [] => [row]
  | (low, high), (first, last) :: rest =>
    if first ≤ high + 1 then joined (low, Nat.max high last) rest
    else (low, high) :: joined (first, last) rest

/-- The fewest ranges that hold the same code points, in increasing order. -/
def fewest (rows : List (Nat × Nat)) : List (Nat × Nat) :=
  match rows.mergeSort fun a b => a.1 ≤ b.1 with
  | [] => []
  | row :: rest => joined row rest

/-- The ranges of the code points from `start` on that ranges in increasing order leave out. -/
def gaps (start : Nat) : List (Nat × Nat) → List (Nat × Nat)
  | [] => if start ≤ 0x10ffff then [(start, 0x10ffff)] else []
  | (low, high) :: rest =>
    (if start < low then [(start, low - 1)] else []) ++ gaps (high + 1) rest

/-- Each code point that has another case, with one that differs from it only in case. -/
def casePairs (known : Repertoire) : List (Nat × Nat) :=
  match known with
  | .ascii => (List.range 26).map fun k => (0x41 + k, 0x61 + k)
  | .unicode =>
    (FoldTable.pairs.flatMap fun (first, last, step, other) =>
      (List.range ((last - first) / step + 1)).map fun k => (first + step * k, other + step * k)) ++
    FoldTable.groups.flatMap fun group => group.flatMap fun n => group.map fun m => (n, m)

/-- The ranges of the code points that differ only in case from a member of the ranges. -/
def otherCases (known : Repertoire) (rows : List (Nat × Nat)) : List (Nat × Nat) :=
  let held (n : Nat) : Bool := rows.any fun (low, high) => low ≤ n && n ≤ high
  (casePairs known).flatMap fun (n, m) =>
    (if held n then [(m, m)] else []) ++ if held m then [(n, n)] else []

/-- The members of the set, as the fewest ranges in increasing order. -/
def toRanges : CharSet → List (Nat × Nat)
  | .ranges rows => fewest rows
  | .union a b => fewest (a.toRanges ++ b.toRanges)
  | .inter a b => gaps 0 (fewest (gaps 0 a.toRanges ++ gaps 0 b.toRanges))
  | .diff a b => gaps 0 (fewest (gaps 0 a.toRanges ++ b.toRanges))
  | .symDiff a b =>
    let left := a.toRanges
    let right := b.toRanges
    fewest (gaps 0 (fewest (gaps 0 left ++ right)) ++ gaps 0 (fewest (gaps 0 right ++ left)))
  | .compl a => gaps 0 a.toRanges
  | .folded known a =>
    let rows := a.toRanges
    fewest (rows ++ otherCases known rows)

/-! ## Tables -/

/-- The ranges that a word of a table stands for: one code point, all from one to another, or with a
step behind a slash the first of every so many. -/
def rangesOf (word : List Char) : List (Nat × Nat) :=
  match (Text.pieces (fun c => c = '-' || c = '/') word).map (Text.numeral 16) with
  | [first] => [(first, first)]
  | [first, last] => [(first, last)]
  | [first, last, step] =>
    (List.range ((last - first) / step + 1)).map fun k => (first + step * k, first + step * k)
  | _ => []

/-- The set a table is the text of: code points and ranges, separated by blanks. -/
def ofTable (text : String) : CharSet := .ranges ((Text.words text.toList).flatMap rangesOf)

/-! ## Laws -/

theorem mem_single (c d : Char) : (single c).mem d = (d == c) := by
  rw [Bool.eq_iff_iff]
  simp only [mem, single, memCode, List.any_cons, List.any_nil, Bool.or_false,
    Bool.and_eq_true, decide_eq_true_eq, beq_iff_eq]
  constructor
  · intro h
    exact Char.ext (UInt32.toNat_inj.1 (Nat.le_antisymm h.2 h.1))
  · rintro rfl
    exact ⟨Nat.le_refl _, Nat.le_refl _⟩

theorem mem_compl (s : CharSet) (c : Char) : (compl s).mem c = !s.mem c := rfl

theorem mem_unions (sets : List CharSet) (c : Char) :
    (unions sets).mem c = sets.any (·.mem c) := by
  induction sets with
  | nil => rfl
  | cons s rest ih =>
    show (s.memCode c.toNat || (unions rest).memCode c.toNat) = _
    rw [List.any_cons, ← ih]
    rfl

end CharSet

end JniBridge.Pattern
