import JniBridge.Pattern.Escape
/-
Sets of characters in brackets.

Between brackets stand characters, ranges, escapes, named ASCII classes and further brackets; `&&`, `--`
and `~~` join what stands before and after them, all with the same strength and from the left.  A
hyphen is a character where it cannot make a range, and so is a closing bracket that comes first.
-/

namespace JniBridge.Pattern

/-- A set that was read and how deep its brackets nest. -/
structure NestedSet where
  set : CharSet
  depth : Nat := 0

namespace Bracket

open Reader

/-! ## Joining sets -/

/-- A way to join two sets. -/
inductive Joint where
  | inter | diff | symDiff

def Joint.join : Joint → CharSet → CharSet → CharSet
  | .inter => .inter
  | .diff => .diff
  | .symDiff => .symDiff

/-- What was listed: one item is itself, several nest one level deeper. -/
def listed : List NestedSet → NestedSet
  | [] => ⟨.empty, 0⟩
  | [item] => item
  | items => ⟨.unions (items.map (·.set)), 1 + (items.map (·.depth)).foldl Nat.max 0⟩

/-- What stands before a joint, joined to what was listed after it. -/
def joined (m : Mode) (before : Option (NestedSet × Joint)) (items : List NestedSet) : NestedSet :=
  let after := listed items
  match before with
  | none => after
  | some (left, joint) =>
    ⟨joint.join (m.fold left.set) (m.fold after.set), 1 + Nat.max left.depth after.depth⟩

/-! ## Items -/

/-- A character by itself must be ASCII if only ASCII letters are known. -/
def checked (c : Char) : Reader Char := do
  require (c.toNat < 128 ∨ (← mode).letters = .unicode)
  return c

/-- An escape, or a character that stands for itself. -/
def item : Reader Escape := do
  let c ← need
  if c = '\\' then Escape.read
  else
    advance
    return .char c

/-- The character that shows whether the hyphen before it makes a range. -/
def peekPastHyphen : Reader (Option Char) := do
  let s ← get
  let next := s.rest.drop 1
  if s.mode.freeSpacing then
    let bare := next.dropWhile Text.isBlank
    let shown := match bare with
      | '#' :: comment => comment.dropWhile Text.isBlank
      | _ => bare
    return (shown.head?).or next.head?
  else return next.head?

/-- The hyphen that is next makes a range. -/
def rangeFollows : Reader Bool := do
  let c ← need
  let past ← peekPastHyphen
  return c = '-' && past != some ']' && past != some '-'

/-- The end of a range, which must be a character. -/
def rangeEnd : Escape → Reader Char
  | .char c => checked c
  | _ => failure

/-- An item, or a range of two. -/
def itemOrRange : Reader CharSet := do
  let first ← item
  skip
  if ← rangeFollows then
    step
    let last ← item
    let low ← rangeEnd first
    let high ← rangeEnd last
    require (low.toNat ≤ high.toNat)
    return .ranges [(low.toNat, high.toNat)]
  else
    match first with
    | .char c => return .single (← checked c)
    | .charSet s => return s
    | .look _ => failure

/-- A named ASCII class, if one is next.  Anything else is left alone. -/
def asciiClass? : Reader (Option CharSet) := do
  let start ← get
  match start.rest with
  | '[' :: ':' :: inner =>
    let negated := inner.head? = some '^'
    let word := (if negated then inner.drop 1 else inner).takeWhile (· != ':')
    let after := (if negated then inner.drop 1 else inner).drop word.length
    match Property.asciiClass? word, after with
    | some s, ':' :: ']' :: rest =>
      set { start with rest }
      return some (← Escape.complementIf negated ((← mode).fold s))
    | _, _ => return none
  | _ => return none

/-! ## Brackets -/

/-- The hyphens that stand for themselves at the start of a bracket. -/
def hyphens : Nat → Reader (List NestedSet)
  | 0 => return []
  | limit + 1 => do
    if (← need) = '-' then
      step
      return ⟨.single '-', 0⟩ :: (← hyphens limit)
    else return []

/-- Opens a bracket: whether it is negated, and what stands for itself at its start. -/
def opening : Reader (Bool × List NestedSet) := do
  step
  let negated := (← need) = '^'
  if negated then step
  let items ← hyphens ((← get).rest.length + 1)
  if items.isEmpty && (← need) = ']' then
    step
    discard need
    return (negated, [⟨.single ']', 0⟩])
  else return (negated, items)

/-- The joint that is next. -/
def joint? : Reader (Option Joint) := do
  if ← accept "&&" then return some .inter
  else if ← accept "--" then return some .diff
  else if ← accept "~~" then return some .symDiff
  else return none

/-- Closes a bracket. -/
def closed (negated : Bool) (inside : NestedSet) : Reader NestedSet := do
  advance
  return ⟨← Escape.complementIf negated ((← mode).fold inside.set), inside.depth + 1⟩

/-- The rest of a bracket: `before` is what stands before the last joint, `items` what was listed
since.  Every call reads a character, so the first argument only has to exceed what is left. -/
def members : Nat → Bool → Option (NestedSet × Joint) → List NestedSet → Reader NestedSet
  | 0, _, _, _ => failure
  | limit + 1, negated, before, items => do
    skip
    match ← need with
    | '[' =>
      match ← asciiClass? with
      | some s => members limit negated before (⟨s, 0⟩ :: items)
      | none =>
        let (innerNegated, innerItems) ← opening
        let inner ← members limit innerNegated none innerItems
        members limit negated before (inner :: items)
    | ']' => closed negated (joined (← mode) before items)
    | _ =>
      match ← joint? with
      | some joint => members limit negated (some (joined (← mode) before items, joint)) []
      | none => members limit negated before (⟨← itemOrRange, 0⟩ :: items)

/-- Reads a bracket from its opening on. -/
def read : Reader NestedSet := do
  let (negated, items) ← opening
  members ((← get).rest.length + 1) negated none items

end Bracket

end JniBridge.Pattern
