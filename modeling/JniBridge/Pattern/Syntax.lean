import JniBridge.Pattern.Bracket
import JniBridge.Pattern.Footprint
/-
The syntax of patterns.

A pattern is a choice of sequences of items; an item is a character, a set, an assertion or a group, and
may be repeated.  Flags hold to the end of the group they stand in, across the branches of a choice.
A pattern is refused if it nests too deeply or would take too large an automaton.
-/

namespace JniBridge.Pattern

/-- A part of a pattern that was read. -/
structure Item where
  regex : Regex
  footprint : Footprint
  /-- How deep the part nests. -/
  depth : Nat := 0
  /-- The part can be repeated. -/
  repeatable : Bool := true

namespace Item

open Reader

/-! ## Putting items together -/

/-- Items in a row: one is itself, several nest one level deeper. -/
def sequence : List Item → Item
  | [] => { regex := .empty, footprint := .empty }
  | [item] => item
  | items =>
    { regex := (items.map (·.regex)).foldr .seq .empty
      footprint := .row (items.map (·.footprint))
      depth := 1 + (items.map (·.depth)).foldl Nat.max 0 }

/-- A choice of branches: one is itself, several nest one level deeper. -/
def choice (first : Item) : List Item → Item
  | [] => first
  | rest =>
    { regex := rest.foldl (fun r branch => .alt r branch.regex) first.regex
      footprint := .choice ((first :: rest).map (·.footprint))
      depth := 1 + (rest.map (·.depth)).foldl Nat.max first.depth }

/-- An item repeated. -/
def repeated (item : Item) (min : Nat) (max : Option Nat) : Item :=
  { regex := .iterate item.regex min max
    footprint := item.footprint.repeated min max
    depth := item.depth + 1 }

/-- An item in a group. -/
def grouped (item : Item) : Item := { item with depth := item.depth + 1, repeatable := true }

/-- An item in a group whose place in the text is noted. -/
def captured (item : Item) : Item := { item.grouped with footprint := item.footprint.captured }

/-! ## Single items -/

/-- One character out of a set. -/
def ofSet (s : CharSet) : Item := { regex := .set s, footprint := .ofSet s }

/-- An assertion. -/
def ofLook (a : Assertion) : Item := { regex := .look a, footprint := .look }

/-- A character by itself. -/
def literal (c : Char) : Reader Item :=
  return ofSet ((← mode).fold (.single c))

/-- The dot: any character but the end of a line. -/
def dot : Reader Item := do
  let m ← mode
  require (m.letters = .unicode)
  let lineEnds : CharSet :=
    if m.dotAll then .empty
    else if m.crlf then .ranges [(10, 10), (13, 13)]
    else .single '\n'
  return ofSet (.compl lineEnds)

/-- The start or the end of the text, or with multiple lines of a line. -/
def lineEdge (text : Assertion) (line : Bool → Assertion) : Reader Item := do
  let m ← mode
  return ofLook (if m.multiLine then line m.crlf else text)

/-- What an escape stands for. -/
def ofEscape : Escape → Reader Item
  | .char c => literal c
  | .charSet s => return ofSet s
  | .look a => return ofLook a

/-- An item that is no group and no repetition. -/
def primitive (c : Char) : Reader Item := do
  if c = '[' then
    let bracket ← Bracket.read
    return { ofSet bracket.set with depth := bracket.depth }
  else if c = '\\' then ofEscape (← Escape.read)
  else
    advance
    match c with
    | '.' => dot
    | '^' => lineEdge .textStart .lineStart
    | '$' => lineEdge .textEnd .lineEnd
    | _ => literal c

/-! ## Counts -/

/-- The largest count: 32 bits. -/
def maxCount : Nat := 4294967295

/-- A decimal number, blanks around it. -/
def count : Reader Nat := do
  dropBlanks
  let digits ← gather Char.isDigit
  dropBlanks
  require (digits ≠ [])
  let n := Text.numeral 10 digits
  require (n ≤ maxCount)
  return n

/-- A count in braces: a number, a least number, or both a least and a largest one. -/
def counts : Reader (Nat × Option Nat) := do
  step
  let min ← count
  let bounds ←
    if (← need) = ',' then do
      step
      if (← need) = '\x7d' then pure (min, none)
      else do
        let max ← count
        require (min ≤ max)
        pure (min, some max)
    else pure (min, some min)
  expect '\x7d'
  skip
  return bounds

/-- The repetition that a character asks for.  A question mark after it would choose between matches
and is passed over. -/
def repetition (c : Char) : Reader (Nat × Option Nat) := do
  let bounds ←
    if c = '\x7b' then counts
    else do
      advance
      pure (if c = '?' then (0, some 1) else if c = '*' then (0, none) else (1, none))
  if (← peek) = some '?' then advance
  return bounds

/-! ## Groups -/

/-- What an opening parenthesis begins. -/
inductive Opening where
  | group
  /-- A group whose place in the text is noted. -/
  | capture
  /-- Flags for the rest of the group around them. -/
  | flags

/-- A character of a group's name. -/
def isNameChar (first : Bool) (c : Char) : Bool :=
  if first then c = '_' || Property.alphabetic.mem c
  else c = '_' || c = '.' || c = '[' || c = ']' || Property.alphabetic.mem c ||
    ["nd", "nl", "no"].any fun key => (Property.category key).mem c

/-- Reads the name of a group, which no other group has. -/
def groupName : Reader Unit := do
  let name ← Reader.upTo (· = '>')
  advance
  match name with
  | [] => failure
  | c :: cs =>
    require (isNameChar true c ∧ cs.all (isNameChar false))
    let s ← get
    require (name ∉ s.groupNames)
    set { s with groupNames := name :: s.groupNames }

/-- Reads flags up to the end of the parenthesis or to the colon before a group.  No flag may come
twice, and a hyphen needs one after it. -/
def flags : Reader Opening := do
  let listed ← Reader.upTo fun c => c = ':' || c = ')'
  require (listed.Nodup ∧ listed.getLast? ≠ some '-')
  let s ← get
  set { s with mode := ← orFail (s.mode.apply true listed) }
  let stop ← need
  advance
  if stop = ':' then return .group
  else
    require (listed ≠ [])
    return .flags

/-- Reads an opening parenthesis and what says how the group is meant. -/
def opening : Reader Opening := do
  step
  let rest := (← get).rest
  require (∀ look ∈ ["?=", "?!", "?<=", "?<!"], ¬look.toList.isPrefixOf rest)
  if (← accept "?P<") || (← accept "?<") then
    groupName
    return .capture
  else if ← accept "?" then flags
  else return .capture

/-! ## Patterns -/

/-- The rest of a choice: `done` are its finished branches and `row` the items of the branch at hand,
both last first.  Every call reads a character, so the first argument only has to exceed what is left. -/
def read : Nat → List Item → List Item → Reader Item
  | 0, _, _ => failure
  | limit + 1, done, row => do
    skip
    let finished : Unit → Item := fun _ =>
      match (sequence row.reverse :: done).reverse with
      | first :: rest => choice first rest
      | [] => sequence []
    match ← peek with
    | none | some ')' => return finished ()
    | some '|' =>
      advance
      read limit (sequence row.reverse :: done) []
    | some '(' =>
      let outer ← mode
      match ← opening with
      | .flags =>
        read limit done ({ regex := .empty, footprint := .empty, repeatable := false } :: row)
      | kind =>
        let inner ← read limit [] []
        expect ')'
        modify fun s => { s with mode := outer }
        let item := if kind matches .capture then inner.captured else inner.grouped
        read limit done (item :: row)
    | some c =>
      if c = '?' ∨ c = '*' ∨ c = '+' ∨ c = '\x7b' then
        match row with
        | last :: before =>
          require last.repeatable
          let (min, max) ← repetition c
          read limit done (last.repeated min max :: before)
        | [] => failure
      else read limit done ((← primitive c) :: row)

end Item

/-- How deep a pattern may nest. -/
def maxDepth : Nat := 250

/-- The expression that a pattern stands for, if it is a pattern. -/
def Regex.ofPattern? (pattern : String) : Option Regex := do
  let text := pattern.toList
  let (item, reading) ← (Item.read (text.length + 1) [] []).run { rest := text }
  if reading.rest.isEmpty && item.depth ≤ maxDepth && item.footprint.fits then
    some item.regex
  else none

end JniBridge.Pattern
