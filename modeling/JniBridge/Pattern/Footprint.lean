import JniBridge.Pattern.CharSet
/-
How much room the automata for a pattern take.

A pattern is run by two automata that read bytes of UTF-8, one forward and one backward.  A part of a
pattern becomes some states of each, and a counted repetition as many copies as it may make, so a short
pattern can take much room.  A pattern is refused when one of the two outgrows a fixed limit.
-/

namespace JniBridge.Pattern

/-! ## Characters as bytes -/

/-- A sequence of bytes, each from a range.  A byte after the first is given by its six low bits. -/
abbrev ByteRun := List (Nat × Nat)

/-- Code points from `low` to `high` as byte runs, where `k` bytes follow the first one. -/
def byteRuns : Nat → Nat → Nat → List ByteRun
  | 0, low, high => [[(low, high)]]
  | k + 1, low, high =>
    let unit := 64 ^ (k + 1)
    let first := low / unit
    let last := high / unit
    if first = last then
      (byteRuns k (low % unit) (high % unit)).map ((first, first) :: ·)
    else
      let fromStart := low % unit = 0
      let toEnd := high % unit = unit - 1
      let start := if fromStart then first else first + 1
      let stop := if toEnd then last else last - 1
      let head :=
        if fromStart then []
        else (byteRuns k (low % unit) (unit - 1)).map ((first, first) :: ·)
      let middle := if start ≤ stop then [(start, stop) :: List.replicate (k + 1) (0, 63)] else []
      let tail :=
        if toEnd then [] else (byteRuns k 0 (high % unit)).map ((last, last) :: ·)
      head ++ middle ++ tail

/-- The ranges of code points that are encoded alike, with the number of bytes after the first. -/
def encodings : List (Nat × Nat × Nat) :=
  [(0, 0, 0x7f), (1, 0x80, 0x7ff), (2, 0x800, 0xd7ff), (2, 0xe000, 0xffff), (3, 0x10000, 0x10ffff)]

/-- Ranges of code points as byte runs. -/
def runsOf (rows : List (Nat × Nat)) : List ByteRun :=
  rows.flatMap fun (low, high) => encodings.flatMap fun (k, first, last) =>
    let low := Nat.max low first
    let high := Nat.min high last
    if low ≤ high then byteRuns k low high else []

/-- How many members two lists have in common at their beginnings. -/
def sharedStart {α : Type} [BEq α] : List α → List α → Nat
  | a :: as, b :: bs => if a == b then 1 + sharedStart as bs else 0
  | _, _ => 0

/-- The number of members that lists have in all, where each list leaves out the beginning that it
shares with the one before. -/
def treeSize {α : Type} [BEq α] (before : List α) : List (List α) → Nat
  | [] => 0
  | run :: rest => run.length - sharedStart before run + treeSize run rest

/-! ## Footprints -/

/-- What a part of a pattern is, as far as it is made smaller for that. -/
inductive Form where
  | empty
  | word (cs : List Char)
  | set (rows : List (Nat × Nat))
  | other
deriving Repr

/-- The room that a part of a pattern takes. -/
structure Footprint where
  form : Form
  /-- Bytes in the automaton that reads forward. -/
  forward : Nat
  /-- Bytes in the automaton that reads backward. -/
  backward : Nat
  /-- The part matches the empty text. -/
  optional : Bool
  /-- The part matches a text that is not empty. -/
  consumes : Bool
deriving Repr

namespace Footprint

/-- A state of an automaton. -/
def state : Nat := 32

/-- A way from a state that has many to another. -/
def way : Nat := 4

/-- A way that only some bytes go. -/
def byteWay : Nat := 8

/-- What parts come to in all. -/
def total (room : Footprint → Nat) (parts : List Footprint) : Nat :=
  parts.foldl (fun sum part => sum + room part) 0

/-- A part without anything in it. -/
def empty : Footprint := ⟨.empty, state, state, true, false⟩

/-- The part has something in it. -/
def isPresent (part : Footprint) : Bool :=
  match part.form with
  | .empty => false
  | _ => true

/-- The word that the part is. -/
def word? (part : Footprint) : Option (List Char) :=
  match part.form with
  | .word cs => some cs
  | _ => none

/-- The ranges of the set that the part is. -/
def set? (part : Footprint) : Option (List (Nat × Nat)) :=
  match part.form with
  | .set rows => some rows
  | _ => none

/-- An assertion. -/
def look : Footprint := ⟨.other, state, state, true, false⟩

/-- Characters in a row: a state for each byte. -/
def ofWord (cs : List Char) : Footprint :=
  let size := state * (cs.flatMap String.utf8EncodeChar).length
  ⟨.word cs, size, size, false, true⟩

/-- One character out of two or more, or out of none.  An ASCII set is a single state; any other set is
a tree of its byte runs, which the automaton that reads backward has to spell out. -/
def ofMany (rows : List (Nat × Nat)) : Footprint :=
  if rows.all fun (_, high) => high < 128 then
    let size := 2 * state + byteWay * rows.length
    ⟨.set rows, size, size, false, true⟩
  else
    let runs := runsOf rows
    let edges := treeSize [] runs
    let inner := 1 + (edges - runs.length)
    ⟨.set rows, state + state * inner + byteWay * edges,
      2 * state + way * runs.length + state * edges, false, true⟩

/-- One character out of some ranges. -/
def ofRanges (rows : List (Nat × Nat)) : Footprint :=
  match rows with
  | [(low, high)] => if low = high then ofWord [Char.ofNat low] else ofMany rows
  | _ => ofMany rows

/-- One character out of a set. -/
def ofSet (s : CharSet) : Footprint := ofRanges s.toRanges

/-- Parts in a row; empty ones vanish. -/
def row (parts : List Footprint) : Footprint :=
  match parts.filter isPresent with
  | [] => empty
  | [part] => part
  | parts =>
    ⟨match parts.mapM word? with
      | some words => .word words.flatten
      | none => .other,
      total forward parts, total backward parts,
      parts.all (·.optional), parts.any (·.consumes)⟩

/-- The room for a tree of words, each a list of bytes. -/
def treeRoom (words : List (List UInt8)) : Nat :=
  let edges := treeSize [] (words.mergeSort (· ≤ ·))
  state + (2 * state + way) * (1 + (edges - words.length)) + byteWay * words.length

/-- A choice of two or more parts.  Single characters make one set, and so do sets; words make a tree. -/
def choice (parts : List Footprint) : Footprint :=
  match parts.mapM word?, parts.mapM set? with
  | some words, _ =>
    if words.all (·.length == 1) then
      ofRanges (CharSet.fewest (words.flatten.map fun c => (c.toNat, c.toNat)))
    else
      let bytes := words.map fun cs => cs.flatMap String.utf8EncodeChar
      ⟨.other, treeRoom bytes, treeRoom (bytes.map List.reverse), false, true⟩
  | none, some sets => ofRanges (CharSet.fewest sets.flatten)
  | none, none =>
    let fork := 2 * state + way * parts.length
    ⟨.other, fork + total forward parts, fork + total backward parts,
      parts.any (·.optional), parts.any (·.consumes)⟩

/-- A part written out some times with further states around it. -/
def copied (part : Footprint) (copies extra : Nat) (optional : Bool) : Footprint :=
  ⟨.other, copies * part.forward + extra, copies * part.backward + extra,
    optional || part.optional, part.consumes⟩

/-- At least `min` times, and at most `max` times if it is given.  What matches no text but the empty
one need not be tried twice. -/
def repeated (part : Footprint) (min : Nat) (max : Option Nat) : Footprint :=
  let once := !part.consumes
  let min := if once then Nat.min min 1 else min
  let max := if once then some (max.elim 1 (Nat.min · 1)) else max
  let fork := state + 2 * way
  match max with
  | none =>
    if min = 0 then part.copied 1 (if part.optional then 2 * fork + state else fork) true
    else part.copied min fork false
  | some max =>
    if max = 0 then empty
    else if max = 1 && min = 1 then part
    else if min = max then part.copied min 0 false
    else
      let start := if min = 0 && max > 1 then state else 0
      part.copied max ((max - min) * fork + state + start) (min = 0)

/-- A part whose place in the text is noted, which only the automaton that reads forward does. -/
def captured (part : Footprint) : Footprint :=
  { part with form := .other, forward := part.forward + 2 * state }

/-- The most bytes that an automaton may take: ten mebibytes. -/
def limit : Nat := 10 * 1024 * 1024

/-- Both automata keep the limit.  Each has a loop in front, which passes over the text before a match,
and a final state; the one that reads forward notes the place of the whole match. -/
def fits (whole : Footprint) : Bool :=
  let loop := 3 * state + byteWay + 2 * way
  loop + state + whole.captured.forward ≤ limit && loop + state + whole.backward ≤ limit

end Footprint

end JniBridge.Pattern
