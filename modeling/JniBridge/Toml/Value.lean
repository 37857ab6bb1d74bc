/-
Values of TOML documents, and how tables grow while a document is read.

A table can be written in several places, and what may be added to it later depends on how it came
about: a header may come after tables inside it, but each table has at most one header; dotted keys
extend only what dotted keys began; an inline table is finished where it stands.
-/

namespace JniBridge.Toml

/-- How a table came about. -/
inductive Origin where
  /-- It has a header, or is the document or a member of an array of tables. -/
  | header
  /-- A header below it named it on the way. -/
  | implied
  /-- Dotted keys named it. -/
  | dotted
  /-- It stands between braces. -/
  | inline
deriving DecidableEq, Repr

/-- A value of a document. -/
inductive Value where
  | text (s : String)
  | boolean (b : Bool)
  | integer (n : Int)
  /-- A number with a fraction or an exponent, as it was written. -/
  | float (written : String)
  /-- A date, a time or both, as it was written. -/
  | moment (written : String)
  /-- An array; with `ofTables`, one that headers make and extend. -/
  | array (ofTables : Bool) (items : List Value)
  | table (origin : Origin) (entries : List (String × Value))
deriving Repr, Inhabited

/-- The entries of a table, each key once. -/
abbrev Entries := List (String × Value)

/-- A key with its dots: the keys before the last one, and the last one. -/
structure Path where
  before : List String
  last : String

namespace Entries

/-- Replaces the value of a key, or adds it at the end. -/
def put (key : String) (v : Value) : Entries → Entries
  | [] => [(key, v)]
  | (k, w) :: rest => if k = key then (key, v) :: rest else (k, w) :: put key v rest

/-- Changes the table that keys lead to, with those on the way made if they are missing.  With
`dotted`, the keys stand before an equals sign, otherwise in a header, which also leads into the last
table of an array of tables. -/
def within (dotted : Bool) (change : Origin → Entries → Option Entries) :
    List String → Origin → Entries → Option Entries
  | [], origin, t => change origin t
  | key :: keys, _, t =>
    match t.lookup key with
    | none => do
      let origin := if dotted then Origin.dotted else .implied
      let inner ← within dotted change keys origin []
      return t.put key (.table origin inner)
    | some (.table origin inner) =>
      if origin = .inline ∨ (dotted ∧ origin = .header) then none
      else do return t.put key (.table origin (← within dotted change keys origin inner))
    | some (.array true items) =>
      match items.getLast? with
      | some (.table origin inner) => do
        let changed := Value.table origin (← within dotted change keys origin inner)
        return t.put key (.array true (items.dropLast ++ [changed]))
      | _ => none
    | some _ => none

/-- Adds a key and its value.  Dotted keys add only to tables that dotted keys began. -/
def add (path : Path) (v : Value) (t : Entries) : Option Entries :=
  t.within (!path.before.isEmpty) (fun origin parent =>
    if !path.before.isEmpty ∧ origin ≠ .dotted then none
    else if (parent.lookup path.last).isSome then none
    else some (parent ++ [(path.last, v)])) path.before .header

/-- Adds keys and values one after the other. -/
def addAll (pairs : List (Path × Value)) (t : Entries) : Option Entries :=
  pairs.foldlM (fun t (path, v) => t.add path v) t

/-- Adds a table under its header. -/
def addTable (path : Path) (pairs : List (Path × Value)) (t : Entries) : Option Entries :=
  t.within false (fun _ parent =>
    match parent.lookup path.last with
    | none => do return parent.put path.last (.table .header (← addAll pairs []))
    | some (.table .implied inner) => do
      return parent.put path.last (.table .header (← addAll pairs inner))
    | some _ => none) path.before .header

/-- Adds a table to an array of tables. -/
def addMember (path : Path) (pairs : List (Path × Value)) (t : Entries) : Option Entries :=
  t.within false (fun _ parent =>
    match parent.lookup path.last with
    | none => do return parent.put path.last (.array true [.table .header (← addAll pairs [])])
    | some (.array true items) => do
      return parent.put path.last (.array true (items ++ [.table .header (← addAll pairs [])]))
    | some _ => none) path.before .header

/-! ## Laws -/

theorem lookup_put (key : String) (v : Value) (t : Entries) :
    (t.put key v).lookup key = some v := by
  induction t with
  | nil => simp [put]
  | cons entry rest ih =>
    obtain ⟨k, w⟩ := entry
    by_cases h : k = key
    · simp [put, h]
    · have hk : (key == k) = false := by simpa using fun e => h e.symm
      simp only [put, if_neg h, List.lookup_cons, hk]
      exact ih

end Entries

end JniBridge.Toml
