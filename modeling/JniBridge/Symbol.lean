import JniBridge.Naming
/-
Exported symbols: how the virtual machine finds the native function behind a method.

A component of the symbol keeps ASCII letters and digits; an underscore separates, and everything
else is escaped behind one.

| character             | written            |
|-----------------------|--------------------|
| letter or digit       | itself             |
| `/` or `.`            | `_`                |
| `_`                   | `_1`               |
| `;`                   | `_2`               |
| `[`                   | `_3`               |
| anything else         | `_0xxxx` for each of its UTF-16 units, in hexadecimal |
-/

namespace JniBridge.Symbol

/-! ## UTF-16 units -/

/-- The one or two UTF-16 units of a character. -/
def units (c : Char) : List Nat :=
  let n := c.toNat
  if n < 0x10000 then [n]
  else [0xd800 + (n - 0x10000) / 0x400, 0xdc00 + (n - 0x10000) % 0x400]

/-- A hexadecimal digit, in lower case. -/
def hexDigit (n : Nat) : Char :=
  if n < 10 then Char.ofNat (48 + n) else Char.ofNat (87 + n)

/-- Four hexadecimal digits. -/
def hex4 (n : Nat) : List Char :=
  [hexDigit (n / 0x1000 % 16), hexDigit (n / 0x100 % 16), hexDigit (n / 0x10 % 16),
   hexDigit (n % 16)]

/-! ## Mangling -/

/-- An ASCII letter or digit. -/
def isPlain (c : Char) : Bool := c.isAlphanum

/-- What stands for one character. -/
def mangleChar (c : Char) : List Char :=
  if isPlain c then [c]
  else match c with
    | '/' | '.' => ['_']
    | '_' => ['_', '1']
    | ';' => ['_', '2']
    | '[' => ['_', '3']
    | c => (units c).flatMap fun u => '_' :: '0' :: hex4 u

/-- One component of a symbol. -/
def mangle (name : String) : String := String.ofList (name.toList.flatMap mangleChar)

/-- The symbol of the function behind a method of a class. -/
def glueName (owner : JavaType) (method : String) : String :=
  "Java_" ++ mangle (owner.className?.getD "") ++ "_" ++ mangle method

end JniBridge.Symbol
