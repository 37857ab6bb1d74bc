import JniBridge.Text.Digit
import JniBridge.Toml.Value
/-
Scalars that stand without quotes: numbers, truth values, dates and times.

The rules are predicates on the characters of a word, part by part.  Underscores may stand between
digits; a decimal number has no zeros in front; dates exist in the calendar, and the seconds of a time
may be left out.
-/

namespace JniBridge.Toml.Scalar

/-! ## Digits -/

/-- The value of digits in a base, without the underscores between them. -/
def numeral (base : Nat) (digits : List Char) : Nat :=
  Text.numeral base (digits.filter (· != '_'))

/-- Digits, with single underscores between them. -/
def isDigits (isDigit : Char → Bool) : List Char → Bool
  | [] => false
  | [c] => isDigit c
  | c :: '_' :: rest => isDigit c && isDigits isDigit rest
  | c :: rest => isDigit c && isDigits isDigit rest

/-- Decimal digits without a zero in front. -/
def isWhole (s : List Char) : Bool :=
  isDigits Char.isDigit s && (s.head? != some '0' || s.length == 1)

/-! ## Integers -/

/-- Whether there is a minus in front, and what follows the sign. -/
def dropSign : List Char → Bool × List Char
  | '-' :: rest => (true, rest)
  | '+' :: rest => (false, rest)
  | s => (false, s)

/-- The numbers that an integer may have: what 128 bits hold, with or without a sign. -/
def inRange (n : Int) : Bool :=
  -(Nat.pow 2 127 : Nat) ≤ n && n < (Nat.pow 2 128 : Nat)

/-- An integer in one of the four notations. -/
def integer? (s : List Char) : Option Int :=
  let based (base : Nat) (isDigit : Char → Bool) (digits : List Char) : Option Int :=
    if isDigits isDigit digits then some (numeral base digits) else none
  let n? := match s with
    | '0' :: 'x' :: digits => based 16 Text.isHexDigit digits
    | '0' :: 'o' :: digits => based 8 (fun c => '0' ≤ c && c ≤ '7') digits
    | '0' :: 'b' :: digits => based 2 (fun c => c = '0' || c = '1') digits
    | _ =>
      let (negative, digits) := dropSign s
      if isWhole digits then
        some (if negative then -(numeral 10 digits : Int) else numeral 10 digits)
      else none
  n?.filter inRange

/-! ## Numbers with a fraction or an exponent -/

/-- A number whose value is too large: at least half a step above the largest finite one. -/
def overflows (whole fraction exponent : List Char) : Bool :=
  let (negative, power) := dropSign exponent
  let digits := (whole ++ fraction).filter (· != '_')
  let significant := digits.dropWhile (· = '0')
  let scale : Int := (if negative then -(numeral 10 power : Int) else numeral 10 power)
    - (fraction.filter (· != '_')).length
  let bound := Nat.pow 2 1024 - Nat.pow 2 970
  if significant.isEmpty then false
  else if significant.length + scale ≤ 308 then false
  else if significant.length + scale > 310 then true
  else if scale < 0 then bound * Nat.pow 10 scale.natAbs ≤ numeral 10 significant
    else bound ≤ numeral 10 significant * Nat.pow 10 scale.toNat

/-- An exponent after its letter. -/
def isExponent (s : List Char) : Bool := isDigits Char.isDigit (dropSign s).2

/-- A number with a fraction, an exponent or both, or one of the two special ones. -/
def isFloat (s : List Char) : Bool :=
  let bare := (dropSign s).2
  if bare = "inf".toList ∨ bare = "nan".toList then true
  else
    let isMark (c : Char) : Bool := c = 'e' || c = 'E'
    let mantissa := bare.takeWhile (!isMark ·)
    let power := bare.drop (mantissa.length + 1)
    let whole := mantissa.takeWhile (· != '.')
    let fraction := mantissa.drop (whole.length + 1)
    let hasPower := mantissa.length < bare.length
    let hasFraction := whole.length < mantissa.length
    (hasPower || hasFraction) && isWhole whole &&
      (!hasFraction || isDigits Char.isDigit fraction) && (!hasPower || isExponent power) &&
      !overflows whole fraction power

/-! ## Dates and times -/

/-- Two digits with a value up to a limit. -/
def isTwo (limit : Nat) (a b : Char) : Bool :=
  a.isDigit && b.isDigit && numeral 10 [a, b] ≤ limit

/-- The days of a month. -/
def daysIn (year month : Nat) : Nat :=
  if month = 2 then
    if year % 4 = 0 ∧ (year % 100 ≠ 0 ∨ year % 400 = 0) then 29 else 28
  else if [4, 6, 9, 11].contains month then 30
  else 31

/-- A day of the calendar. -/
def isDate : List Char → Bool
  | [y1, y2, y3, y4, '-', m1, m2, '-', d1, d2] =>
    let month := numeral 10 [m1, m2]
    let day := numeral 10 [d1, d2]
    [y1, y2, y3, y4, m1, m2, d1, d2].all Char.isDigit && 1 ≤ month && month ≤ 12 && 1 ≤ day &&
      day ≤ daysIn (numeral 10 [y1, y2, y3, y4]) month
  | _ => false

/-- Seconds, which may be a leap second and may have a fraction. -/
def isSeconds : List Char → Bool
  | [s1, s2] => isTwo 60 s1 s2
  | s1 :: s2 :: '.' :: fraction => isTwo 60 s1 s2 && !fraction.isEmpty && fraction.all Char.isDigit
  | _ => false

/-- A time of day. -/
def isTime : List Char → Bool
  | [h1, h2, ':', m1, m2] => isTwo 23 h1 h2 && isTwo 59 m1 m2
  | h1 :: h2 :: ':' :: m1 :: m2 :: ':' :: seconds =>
    isTwo 23 h1 h2 && isTwo 59 m1 m2 && isSeconds seconds
  | _ => false

/-- The distance from universal time, or none. -/
def isOffset : List Char → Bool
  | [] => true
  | [z] => z = 'Z' || z = 'z'
  | [sign, h1, h2, ':', m1, m2] => (sign = '+' || sign = '-') && isTwo 23 h1 h2 && isTwo 59 m1 m2
  | _ => false

/-- A character that a time of day is written with. -/
def isTimeChar (c : Char) : Bool := c.isDigit || c = ':' || c = '.'

/-- A date, a time, or both and an offset. -/
def isMoment (s : List Char) : Bool :=
  isTime s || isDate s ||
    match s.drop 10 with
    | mark :: rest =>
      isDate (s.take 10) && (mark = 'T' || mark = 't' || mark = ' ') &&
        isTime (rest.takeWhile isTimeChar) && isOffset (rest.dropWhile isTimeChar)
    | [] => false

/-! ## Words -/

/-- The value a word without quotes stands for. -/
def ofWord? (s : List Char) : Option Value :=
  if s = "true".toList then some (.boolean true)
  else if s = "false".toList then some (.boolean false)
  else if isFloat s then some (.float (String.ofList s))
  else if isMoment s then some (.moment (String.ofList s))
  else (integer? s).map .integer

end JniBridge.Toml.Scalar
