import JniBridge.Pattern.CharSet
/-
Regular expressions and where they match.

An expression is read as a relation between positions of a text: for each position, the positions at
which a match from there can end.  The relation is computed once for every part of an expression, so
the work grows with the length of the pattern and not with the number of ways to match.  A match never
goes backwards, hence a repetition that has no upper bound is settled by one pass from the end of the
text, and a counted one needs no more rounds than the text has positions.
-/

namespace JniBridge.Pattern

/-! ## Assertions -/

/-- A condition on the letters before and after a position. -/
inductive WordEdge where
  | boundary | inside | start | stop | startHalf | stopHalf
deriving DecidableEq, Repr

/-- The condition, given whether a word letter stands before and whether one stands after. -/
def WordEdge.holds : WordEdge → Bool → Bool → Bool
  | .boundary, before, after => before != after
  | .inside, before, after => before == after
  | .start, before, after => !before && after
  | .stop, before, after => before && !after
  | .startHalf, before, _ => !before
  | .stopHalf, _, after => !after

/-- A condition on a position of a text. -/
inductive Assertion where
  | textStart | textEnd
  /-- The start of a line; with `crlf`, a carriage return ends a line too, unless a line feed follows. -/
  | lineStart (crlf : Bool)
  | lineEnd (crlf : Bool)
  | word (edge : WordEdge) (letters : CharSet)
deriving Repr

/-- A position of a text, as the characters next to it. -/
structure Spot where
  before : Option Char
  after : Option Char

/-- The condition holds at the position. -/
def Assertion.holds (a : Assertion) (spot : Spot) : Bool :=
  match a with
  | .textStart => spot.before.isNone
  | .textEnd => spot.after.isNone
  | .lineStart false => spot.before.all (· = '\n')
  | .lineEnd false => spot.after.all (· = '\n')
  | .lineStart true => spot.before.all fun c => c = '\n' || (c = '\r' && spot.after != some '\n')
  | .lineEnd true => spot.after.all fun c => c = '\r' || (c = '\n' && spot.before != some '\r')
  | .word edge letters => edge.holds (spot.before.any letters.mem) (spot.after.any letters.mem)

/-! ## Expressions -/

/-- A regular expression. -/
inductive Regex where
  /-- Matches the empty text. -/
  | empty
  | look (a : Assertion)
  | set (s : CharSet)
  | seq (r s : Regex)
  | alt (r s : Regex)
  /-- At least `min` times, and at most `max` times if it is given. -/
  | iterate (r : Regex) (min : Nat) (max : Option Nat)
deriving Repr, Inhabited

/-! ## Positions -/

/-- A set of positions: position `p` belongs to it if bit `p` is set. -/
abbrev Places := Nat

/-- For each position in order, the positions that can be reached from it. -/
abbrev Reach := List Places

/-- The set with one position. -/
def Places.single (p : Nat) : Places := 1 <<< p

/-- What can be reached from the members of a set; the first row belongs to position `p`. -/
def Places.through (ends : Places) (p : Nat) : Reach → Places
  | [] => 0
  | row :: rows => (if ends.testBit p then row else 0) ||| ends.through (p + 1) rows

namespace Reach

/-- Stays at the position. -/
def stay (size : Nat) : Reach := (List.range size).map Places.single

/-- One way after the other. -/
def andThen (a b : Reach) : Reach := a.map fun ends => ends.through 0 b

/-- Either way. -/
def orElse (a b : Reach) : Reach := List.zipWith (· ||| ·) a b

/-- Any number of times; the first row belongs to position `p`. -/
def closureFrom (p : Nat) : Reach → Reach
  | [] => []
  | row :: rows =>
    let later := closureFrom (p + 1) rows
    (Places.single p ||| row.through (p + 1) later) :: later

/-- A number of times. -/
def times (a : Reach) : Nat → Reach
  | 0 => stay a.length
  | k + 1 => (a.times k).andThen a

/-- At least `min` times, and at most `max` times if it is given.  More rounds than positions lead
nowhere else. -/
def repeated (a : Reach) (min : Nat) (max : Option Nat) : Reach :=
  let first := a.times (Nat.min min a.length)
  match max with
  | none => first.andThen (a.closureFrom 0)
  | some max =>
    let optional := (stay a.length).orElse a
    first.andThen (optional.times (Nat.min (max - min) a.length))

end Reach

/-! ## Matching -/

/-- The positions of a text, its end included. -/
def spots (before : Option Char) : List Char → List Spot
  | [] => [⟨before, none⟩]
  | c :: cs => ⟨before, some c⟩ :: spots (some c) cs

namespace Regex

/-- Where a match of the expression can end, from each position of a text. -/
def reach (text : List Spot) : Regex → Reach
  | .empty => Reach.stay text.length
  | .look a => text.zipIdx.map fun (spot, p) => if a.holds spot then Places.single p else 0
  | .set s =>
    text.zipIdx.map fun (spot, p) => if spot.after.any s.mem then Places.single (p + 1) else 0
  | .seq r s => (r.reach text).andThen (s.reach text)
  | .alt r s => (r.reach text).orElse (s.reach text)
  | .iterate r min max => (r.reach text).repeated min max

/-- The expression matches some part of the text. -/
def matches? (r : Regex) (text : List Char) : Bool := (r.reach (spots none text)).any (· != 0)

end Regex

end JniBridge.Pattern
