import JniBridge.Toml.Quoted
import JniBridge.Toml.Scalar
/-
Reading a TOML document.

A document is a list of sections: keys and values, under no header at first, then under the header of a
table or of a member of an array of tables.  The sections are read first and then put into one table, so
the syntax and the rules on what may be written twice stand apart.  Reading fails without saying where.
-/

namespace JniBridge.Toml

/-- A step of reading. -/
abbrev Reader := StateT (List Char) Option

namespace Reader

def peek : Reader (Option Char) := return (← get).head?

/-- Reads a character if it is next. -/
def accept (c : Char) : Reader Bool := do
  if (← peek) = some c then
    modify (·.drop 1)
    return true
  else return false

/-- Reads a character, which must be next. -/
def expect (c : Char) : Reader Unit := do
  if ← accept c then return else failure

/-- Reads with a function that also says what is left. -/
def taking {α : Type} (f : List Char → Option (α × List Char)) : Reader α := f

/-- The characters from here on that satisfy a test. -/
def takeWhile (test : Char → Bool) : Reader (List Char) :=
  taking fun s => some (s.takeWhile test, s.dropWhile test)

/-! ## Blanks -/

/-- Blanks within a line. -/
def skipBlanks : Reader Unit := modify (·.dropWhile Quoted.isBlank)

/-- What is left after a comment, if one is next. -/
def afterComment : List Char → List Char
  | '#' :: rest => rest.dropWhile Quoted.isPrintable
  | s => s

/-- What is left after a line end, if one is next. -/
def afterLineEnd? : List Char → Option (List Char)
  | '\n' :: rest => some rest
  | '\r' :: '\n' :: rest => some rest
  | _ => none

/-- Blanks and a comment up to the end of the line, which must come. -/
def endLine : Reader Unit := taking fun s =>
  match afterComment (s.dropWhile Quoted.isBlank) with
  | [] => some ((), [])
  | rest => (afterLineEnd? rest).map ((), ·)

/-- What is left after blanks, comments and line ends.  Every round ends a line, so the first argument
only has to exceed what there is. -/
def afterLines : Nat → List Char → List Char
  | 0, s => s
  | limit + 1, s =>
    let bare := s.dropWhile Quoted.isBlank
    match afterComment bare with
    | [] => []
    | rest =>
      match afterLineEnd? rest with
      | some next => afterLines limit next
      | none => bare

/-- Blanks, comments and line ends. -/
def skipLines : Reader Unit := modify fun s => afterLines (s.length + 1) s

/-- How many keys a path may have, and how deep arrays and inline tables may nest. -/
def maxDepth : Nat := 80

/-! ## Keys -/

def isBareKeyChar (c : Char) : Bool := c.isAlphanum || c = '-' || c = '_'

/-- A key without dots: bare or quoted. -/
def key : Reader String := do
  match ← peek with
  | some '"' | some '\'' => return String.ofList (← taking Quoted.inLine)
  | _ =>
    let bare ← takeWhile isBareKeyChar
    if bare.isEmpty then failure else return String.ofList bare

/-- The keys after the first one of a path; each call reads a dot. -/
def moreKeys : Nat → Reader (List String)
  | 0 => failure
  | limit + 1 => do
    skipBlanks
    if ← accept '.' then
      skipBlanks
      let k ← key
      return k :: (← moreKeys limit)
    else return []

/-- A key with its dots, and the blanks after it. -/
def path : Reader Path := do
  let first ← key
  let more ← moreKeys ((← get).length + 1)
  if more.length < maxDepth then
    match more.reverse with
    | [] => return ⟨[], first⟩
    | last :: before => return ⟨first :: before.reverse, last⟩
  else failure

/-! ## Values -/

/-- A character of a word without quotes. -/
def isWordChar (c : Char) : Bool :=
  c.isAlphanum || c = '+' || c = '-' || c = '_' || c = '.' || c = ':'

/-- A word without quotes.  A blank after a date may stand before a time. -/
def word : Reader (List Char) := do
  let first ← takeWhile isWordChar
  match ← get with
  | ' ' :: c :: _ =>
    if Scalar.isDate first && c.isDigit then
      modify (·.drop 1)
      return first ++ ' ' :: (← takeWhile isWordChar)
    else return first
  | _ => return first

mutual

/-- A value inside `depth` brackets.  Every call of the three readers reads a character or is followed
by one that does, so the first argument only has to exceed twice what is left. -/
def value : Nat → Nat → Reader Value
  | 0, _ => failure
  | limit + 1, depth => do
    match ← peek with
    | some '[' =>
      if depth < maxDepth then
        expect '['
        arrayItems limit (depth + 1) []
      else failure
    | some '\x7b' =>
      if depth < maxDepth then
        expect '\x7b'
        inlinePairs limit (depth + 1) []
      else failure
    | some '"' | some '\'' => return .text (String.ofList (← taking Quoted.read))
    | _ =>
      let w ← word
      StateT.lift (Scalar.ofWord? w)

/-- The rest of an array; `done` is what came before, last first. -/
def arrayItems : Nat → Nat → List Value → Reader Value
  | 0, _, _ => failure
  | limit + 1, depth, done => do
    skipLines
    if ← accept ']' then return .array false done.reverse
    else
      let v ← value limit depth
      skipLines
      if ← accept ',' then arrayItems limit depth (v :: done)
      else
        expect ']'
        return .array false (v :: done).reverse

/-- The rest of an inline table; `done` are the pairs before, last first.  Lines may end anywhere but
inside a path. -/
def inlinePairs : Nat → Nat → List (Path × Value) → Reader Value
  | 0, _, _ => failure
  | limit + 1, depth, done => do
    skipLines
    if ← accept '\x7d' then
      return .table .inline (← StateT.lift (Entries.addAll done.reverse []))
    else
      let p ← path
      skipLines
      expect '='
      skipLines
      let v ← value limit depth
      skipLines
      if ← accept ',' then inlinePairs limit depth ((p, v) :: done)
      else
        expect '\x7d'
        return .table .inline (← StateT.lift (Entries.addAll ((p, v) :: done).reverse []))

end

/-! ## Sections -/

/-- What stands on a line of its own. -/
inductive Statement where
  | pair (path : Path) (v : Value)
  | table (path : Path)
  | member (path : Path)

/-- A statement up to the end of its line. -/
def statement : Reader Statement := do
  if ← accept '[' then
    let several ← accept '['
    skipBlanks
    let p ← path
    expect ']'
    if several then
      expect ']'
      endLine
      return .member p
    else
      endLine
      return .table p
  else
    let p ← path
    expect '='
    skipBlanks
    let v ← value (2 * (← get).length + 2) 0
    endLine
    return .pair p v

/-- The statements up to the end; each call reads one. -/
def statements : Nat → Reader (List Statement)
  | 0 => failure
  | limit + 1 => do
    skipLines
    if (← get).isEmpty then return []
    else
      let s ← statement
      return s :: (← statements limit)

end Reader

/-! ## Documents -/

open Reader

/-- Puts the sections of a document into its table, given the statements last first: `pairs` are those
of the section whose header comes next. -/
def assemble : List Statement → List (Path × Value) → Option Entries
  | [], pairs => Entries.addAll pairs []
  | .pair p v :: earlier, pairs => assemble earlier ((p, v) :: pairs)
  | .table p :: earlier, pairs => do (← assemble earlier []).addTable p pairs
  | .member p :: earlier, pairs => do (← assemble earlier []).addMember p pairs

/-- Drops the mark that a text file may begin with. -/
def dropByteOrderMark : List Char → List Char
  | '\ufeff' :: rest => rest
  | s => s

/-- The table that a document describes. -/
def read (text : String) : Option Entries := do
  let s := dropByteOrderMark text.toList
  let (found, _) ← (statements (s.length + 1)).run s
  assemble found.reverse []

end JniBridge.Toml
