import JniBridge.Pattern.Property
/-
Reading a pattern character by character.

What is read depends on the mode, which flags inside a pattern change: with free spacing, blanks and
comments between the parts of a pattern are skipped.  All mistakes are alike, so reading just fails.
-/

namespace JniBridge.Pattern

/-! ## Mode -/

/-- What the flags of a pattern say. -/
structure Mode where
  ignoreCase : Bool := false
  /-- Line ends count as ends of the text. -/
  multiLine : Bool := false
  /-- The dot matches line ends. -/
  dotAll : Bool := false
  /-- Blanks and comments are skipped. -/
  freeSpacing : Bool := false
  /-- A carriage return ends a line too. -/
  crlf : Bool := false
  letters : Repertoire := .unicode
deriving Repr

namespace Mode

/-- The mode with one flag switched; none if there is no such flag. -/
def switch (m : Mode) (flag : Char) (on : Bool) : Option Mode :=
  match flag with
  | 'i' => some { m with ignoreCase := on }
  | 'm' => some { m with multiLine := on }
  | 's' => some { m with dotAll := on }
  | 'x' => some { m with freeSpacing := on }
  | 'R' => some { m with crlf := on }
  | 'u' => some { m with letters := if on then .unicode else .ascii }
  | 'U' => some m
  | _ => none

/-- The mode after a list of flags, in which a hyphen stands before those that are switched off. -/
def apply (m : Mode) (on : Bool) : List Char → Option Mode
  | [] => some m
  | '-' :: flags => m.apply false flags
  | flag :: flags => (m.switch flag on).bind (·.apply on flags)

/-- The set, with its other-case characters if the mode asks for them. -/
def fold (m : Mode) (s : CharSet) : CharSet := if m.ignoreCase then .folded m.letters s else s

end Mode

/-! ## Reader -/

/-- What is left of the pattern, and what has been said about it. -/
structure Reading where
  rest : List Char
  mode : Mode := {}
  groupNames : List (List Char) := []

/-- A step of reading. -/
abbrev Reader := StateT Reading Option

/-- Skips blanks, and comments from a number sign to the end of the line. -/
def skipBlanks : Bool → List Char → List Char
  | _, [] => []
  | true, c :: cs => skipBlanks (c != '\n') cs
  | false, c :: cs =>
    if Text.isBlank c then skipBlanks false cs
    else if c = '#' then skipBlanks true cs
    else c :: cs

namespace Reader

def mode : Reader Mode := return (← get).mode

def peek : Reader (Option Char) := return (← get).rest.head?

/-- The character after the next one. -/
def peekSecond : Reader (Option Char) := return (← get).rest[1]?

/-- The next character, which must be there. -/
def need : Reader Char := do
  match ← peek with
  | some c => return c
  | none => failure

def advance : Reader Unit := modify fun s => { s with rest := s.rest.drop 1 }

/-- With free spacing, goes on to the next character that counts. -/
def skip : Reader Unit := modify fun s =>
  if s.mode.freeSpacing then { s with rest := skipBlanks false s.rest } else s

/-- Past a character, and on to the next one that counts. -/
def step : Reader Unit := do advance; skip

/-- Reads a text if it is next. -/
def accept (text : String) : Reader Bool := do
  let s ← get
  if text.toList.isPrefixOf s.rest then
    set { s with rest := s.rest.drop text.length }
    return true
  else return false

/-- Reads a character, which must be next. -/
def expect (c : Char) : Reader Unit := do
  if (← need) = c then advance else failure

/-- Characters as long as they satisfy a test; between them, what does not count is skipped. -/
def gatherUpTo (test : Char → Bool) : Nat → Reader (List Char)
  | 0 => return []
  | limit + 1 => do
    match ← peek with
    | some c =>
      if test c then
        step
        return c :: (← gatherUpTo test limit)
      else return []
    | none => return []

/-- All characters from here that satisfy a test. -/
def gather (test : Char → Bool) : Reader (List Char) := do
  gatherUpTo test (← get).rest.length

/-- Blanks, whatever the mode. -/
def dropBlanks : Reader Unit := modify fun s => { s with rest := s.rest.dropWhile Text.isBlank }

/-- Reads up to a character, which must come; nothing is skipped. -/
def upTo (stop : Char → Bool) : Reader (List Char) := do
  let s ← get
  set { s with rest := s.rest.dropWhile (!stop ·) }
  discard need
  return s.rest.takeWhile (!stop ·)

/-- Goes on only if something holds. -/
def require (p : Prop) [Decidable p] : Reader Unit := if p then return else failure

/-- A value that must be there. -/
def orFail {α : Type} (value : Option α) : Reader α := StateT.lift value

end Reader

end JniBridge.Pattern
