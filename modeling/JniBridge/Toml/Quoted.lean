import JniBridge.Text.Digit
/-
Quoted text: the four ways to write a string.

Between double quotes a backslash begins an escape; between single quotes every character stands for
itself.  With three quotes the text may go over several lines: a line end right after the opening is
dropped, up to two quotes may stand right before the closing, and between double quotes a backslash at
the end of a line takes away all blanks and line ends up to the next character.
-/

namespace JniBridge.Toml.Quoted

/-! ## Characters -/

/-- A character that may be written as it is: no control character but the tab. -/
def isPrintable (c : Char) : Bool := c = '\t' || (32 ≤ c.toNat && c.toNat != 127)

/-- A blank within a line. -/
def isBlank (c : Char) : Bool := c = ' ' || c = '\t'

/-- What a backslash makes of one letter. -/
def letterEscape? (c : Char) : Option Char :=
  match c with
  | 'b' => some '\x08'
  | 't' => some '\t'
  | 'n' => some '\n'
  | 'f' => some '\x0c'
  | 'r' => some '\r'
  | 'e' => some '\x1b'
  | '"' => some '"'
  | '\\' => some '\\'
  | _ => none

/-- The character whose code point hexadecimal digits write. -/
def hexEscape? (digits : List Char) : Option Char :=
  if digits.all Text.isHexDigit then Text.charOf? (Text.numeral 16 digits) else none

/-- What stands after a quoted text, and the text before it. -/
abbrev Taken := Option (List Char × List Char)

/-- Puts a character in front of the text. -/
def Taken.cons (c : Char) (t : Taken) : Taken := t.map fun (text, rest) => (c :: text, rest)

/-- Puts the character of an escape in front of the text. -/
def Taken.escaped (c : Option Char) (t : Taken) : Taken := c.bind fun c => t.cons c

/-! ## Within a line -/

/-- The text up to a double quote. -/
def basic : List Char → Taken
  | [] => none
  | '"' :: rest => some ([], rest)
  | '\\' :: 'x' :: a :: b :: rest => (basic rest).escaped (hexEscape? [a, b])
  | '\\' :: 'u' :: a :: b :: c :: d :: rest => (basic rest).escaped (hexEscape? [a, b, c, d])
  | '\\' :: 'U' :: a :: b :: c :: d :: e :: f :: g :: h :: rest =>
    (basic rest).escaped (hexEscape? [a, b, c, d, e, f, g, h])
  | '\\' :: c :: rest => (basic rest).escaped (letterEscape? c)
  | c :: rest => if isPrintable c then (basic rest).cons c else none

/-- The text up to a single quote. -/
def raw : List Char → Taken
  | [] => none
  | '\'' :: rest => some ([], rest)
  | c :: rest => if isPrintable c then (raw rest).cons c else none

/-! ## Over several lines -/

/-- The end of a text over several lines: after three quotes, up to two more belong to the text. -/
def closing (quote : Char) (rest : List Char) : Taken :=
  let more := (rest.take 2).takeWhile (· = quote)
  some (more, rest.drop more.length)

/-- Blanks up to the end of the line are next. -/
def endsLine (s : List Char) : Bool :=
  match s.dropWhile isBlank with
  | '\n' :: _ | '\r' :: '\n' :: _ => true
  | _ => false

/-- The text up to three double quotes.  With `gap`, blanks and line ends are taken away first. -/
def basicLines (gap : Bool) : List Char → Taken
  | [] => none
  | '"' :: '"' :: '"' :: rest => closing '"' rest
  | '\r' :: '\n' :: rest =>
    if gap then basicLines true rest
    else Taken.cons '\r' (Taken.cons '\n' (basicLines false rest))
  | '\n' :: rest => if gap then basicLines true rest else (basicLines false rest).cons '\n'
  | '\\' :: 'x' :: a :: b :: rest => (basicLines false rest).escaped (hexEscape? [a, b])
  | '\\' :: 'u' :: a :: b :: c :: d :: rest =>
    (basicLines false rest).escaped (hexEscape? [a, b, c, d])
  | '\\' :: 'U' :: a :: b :: c :: d :: e :: f :: g :: h :: rest =>
    (basicLines false rest).escaped (hexEscape? [a, b, c, d, e, f, g, h])
  | '\\' :: c :: rest =>
    if endsLine (c :: rest) then basicLines true (c :: rest)
    else (basicLines false rest).escaped (letterEscape? c)
  | c :: rest =>
    if gap && isBlank c then basicLines true rest
    else if isPrintable c then (basicLines false rest).cons c
    else none

/-- The text up to three single quotes. -/
def rawLines : List Char → Taken
  | [] => none
  | '\'' :: '\'' :: '\'' :: rest => closing '\'' rest
  | '\r' :: '\n' :: rest => Taken.cons '\r' ((rawLines rest).cons '\n')
  | '\n' :: rest => (rawLines rest).cons '\n'
  | c :: rest => if isPrintable c then (rawLines rest).cons c else none

/-- Drops the line end that may follow the opening quotes. -/
def dropLineEnd : List Char → List Char
  | '\n' :: rest => rest
  | '\r' :: '\n' :: rest => rest
  | s => s

/-! ## All forms -/

/-- Reads a quoted text within a line, if one is next. -/
def inLine : List Char → Taken
  | '"' :: rest => basic rest
  | '\'' :: rest => raw rest
  | _ => none

/-- Reads a quoted text, if one is next. -/
def read : List Char → Taken
  | '"' :: '"' :: '"' :: rest => basicLines false (dropLineEnd rest)
  | '\'' :: '\'' :: '\'' :: rest => rawLines (dropLineEnd rest)
  | s => inLine s

end JniBridge.Toml.Quoted
