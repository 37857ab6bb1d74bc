import JniBridge.Pattern.Reader
import JniBridge.Pattern.Regex
/-
Escapes: what a backslash makes of the characters after it.

An escape is a character, a set of characters or an assertion.  Punctuation stands for itself; letters
and digits have a meaning or are refused, so that new meanings can be given to them.
-/

namespace JniBridge.Pattern

/-- What an escape stands for. -/
inductive Escape where
  | char (c : Char)
  | charSet (s : CharSet)
  | look (a : Assertion)

namespace Escape

open Reader

/-! ## Characters by number -/

/-- A fixed number of hexadecimal digits. -/
def hexDigits : Nat → Reader (List Char)
  | 0 => return []
  | k + 1 => do
    let c ← need
    require (Text.isHexDigit c)
    step
    return c :: (← hexDigits k)

/-- A character by its number: in braces, or with a fixed number of digits.  Two digits stand for an
octet, which is a character by itself only in ASCII or when letters are Unicode's. -/
def numbered (width : Nat) : Reader Escape := do
  step
  if (← need) = '\x7b' then
    step
    let digits ← gather (· != '\x7d')
    require ((← need) = '\x7d')
    step
    require (digits ≠ [] ∧ digits.all Text.isHexDigit)
    return .char (← orFail (Text.charOf? (Text.numeral 16 digits)))
  else
    let c ← orFail (Text.charOf? (Text.numeral 16 (← hexDigits width)))
    require (width ≠ 2 ∨ c.toNat < 128 ∨ (← mode).letters = .unicode)
    return .char c

/-! ## Sets -/

/-- Cuts a list at the first place where another one stands. -/
def cutAt (mark : List Char) : List Char → Option (List Char × List Char)
  | [] => none
  | c :: cs =>
    if mark.isPrefixOf (c :: cs) then some ([], (c :: cs).drop mark.length)
    else (cutAt mark cs).map fun (before, after) => (c :: before, after)

/-- What the braces of a property hold: a name, or a property and its value.  The answer says too
whether the property is denied. -/
def describedSet? (text : List Char) : Option (Bool × CharSet) :=
  match cutAt ['!', '='] text with
  | some (property, value) => (Property.valued? property value).map (true, ·)
  | none =>
    match (cutAt [':'] text).or (cutAt ['='] text) with
    | some (property, value) => (Property.valued? property value).map (false, ·)
    | none => (Property.named? text).map (false, ·)

/-- A set, or what it leaves out.  Beyond ASCII nothing can be left out that is not known. -/
def complementIf (negated : Bool) (s : CharSet) : Reader CharSet := do
  if negated then
    require ((← mode).letters = .unicode)
    return .compl s
  else return s

/-- A property, by one letter or in braces. -/
def property (negated : Bool) : Reader Escape := do
  step
  let m ← mode
  require (m.letters = .unicode)
  let c ← need
  let (denied, s) ←
    if c = '\x7b' then do
      step
      let text ← gather (· != '\x7d')
      expect '\x7d'
      orFail (describedSet? text)
    else do
      require (c ≠ '\\')
      step
      orFail ((Property.named? [c]).map (false, ·))
  return .charSet (← complementIf (negated != denied) (m.fold s))

/-- One of the classes with a letter of their own. -/
def lettered (s : Repertoire → CharSet) (negated : Bool) : Reader Escape := do
  advance
  return .charSet (← complementIf negated (s (← mode).letters))

/-! ## Assertions -/

/-- The words that can follow a word boundary in braces. -/
def edgeOf? (word : String) : Option WordEdge :=
  match word with
  | "start" => some .start
  | "end" => some .stop
  | "start-half" => some .startHalf
  | "end-half" => some .stopHalf
  | _ => none

def isEdgeLetter (c : Char) : Bool := c.isAlpha || c = '-'

/-- The kind of word boundary that braces ask for.  Braces that hold no word belong to a repetition
and are left alone. -/
def wordEdge : Reader WordEdge := do
  let start ← get
  if (← peek) = some '\x7b' then
    step
    if isEdgeLetter (← need) then
      let word ← gather isEdgeLetter
      expect '\x7d'
      orFail (edgeOf? (String.ofList word))
    else
      set start
      return .boundary
  else return .boundary

/-- An assertion on the word letters around a position. -/
def wordAssertion (edge : WordEdge) : Reader Escape :=
  return .look (.word edge (Property.wordLetters (← mode).letters))

/-! ## All escapes -/

/-- An ASCII character that stands for itself after a backslash. -/
def isPlain (c : Char) : Bool := c.toNat < 128 && !c.isAlphanum && c != '<' && c != '>'

/-- The meaning of a letter that stands for a control character. -/
def control? (c : Char) : Option Char :=
  match c with
  | 'a' => some '\x07'
  | 'f' => some '\x0c'
  | 't' => some '\t'
  | 'n' => some '\n'
  | 'r' => some '\r'
  | 'v' => some '\x0b'
  | _ => none

/-- An escape without arguments. -/
def simple (c : Char) : Reader Escape := do
  advance
  match c with
  | 'A' => return .look .textStart
  | 'z' => return .look .textEnd
  | 'b' => wordAssertion (← wordEdge)
  | 'B' => wordAssertion .inside
  | '<' => wordAssertion .start
  | '>' => wordAssertion .stop
  | _ =>
    if isPlain c then return .char c
    else return .char (← orFail (control? c))

/-- Reads an escape from its backslash on. -/
def read : Reader Escape := do
  advance
  let c ← need
  match c with
  | 'x' => numbered 2
  | 'u' => numbered 4
  | 'U' => numbered 8
  | 'p' => property false
  | 'P' => property true
  | 'd' => lettered Property.digits false
  | 'D' => lettered Property.digits true
  | 's' => lettered Property.blanks false
  | 'S' => lettered Property.blanks true
  | 'w' => lettered Property.wordLetters false
  | 'W' => lettered Property.wordLetters true
  | _ => simple c

end Escape

end JniBridge.Pattern
