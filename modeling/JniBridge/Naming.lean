import JniBridge.Text.Case
import JniBridge.Text.Split
import JniBridge.Vocabulary
/-
Names that generated Java declares, made from names that a header declares.

The rules on single names: reserved words, accessors, constants in capitals, and a string spelled as
a list of characters, which is how the native support library keys its caches.
-/

namespace JniBridge.Naming

/-! ## Identifiers -/

/-- The words Java reserves. -/
def reserved : List String :=
  ["abstract", "assert", "boolean", "break", "byte", "case", "catch", "char", "class", "const",
   "continue", "default", "do", "double", "else", "enum", "extends", "false", "final", "finally",
   "float", "for", "goto", "if", "implements", "import", "instanceof", "int", "interface", "long",
   "native", "new", "null", "package", "private", "protected", "public", "return", "short",
   "static", "strictfp", "super", "switch", "synchronized", "this", "throw", "throws",
   "transient", "true", "try", "void", "volatile", "while"]

/-- The text without the at sign it may start with. -/
def dropAt (name : String) : String :=
  match name.toList with
  | '@' :: rest => String.ofList rest
  | _ => name

/-- The name as a Java identifier: without a leading at sign, and a reserved word with a final
underscore. -/
def escape (name : String) : String :=
  let bare := dropAt name
  if reserved.contains bare then bare ++ "_" else bare

/-! ## Accessors -/

/-- The name with its first letter in upper case. -/
def capitalized (name : String) : String := String.ofList (Text.capitalized name.toList)

/-- Spellings of the truth type, on any layer. -/
def truthTypes : List String := ["bool", "_Bool", "jboolean", "boolean"]

/-- The getter of a field, which must not be called like the wrapper's own `getHandle`. -/
def getter (field type : String) : String :=
  let name := (if truthTypes.contains type then "is" else "get") ++ capitalized field
  if name = "getHandle" then "getHandleField" else name

def setter (field : String) : String := "set" ++ capitalized field

/-! ## Capitals -/

/-- Writes capitals, with an underscore before a capital that follows a small letter or a digit. -/
def screamFrom (afterLower : Bool) : List Char → List Char
  | [] => []
  | c :: cs =>
    (if Text.isUpper c && afterLower then ['_'] else []) ++ Text.upper c ++
      screamFrom (Text.isLower c || c.isDigit) cs

/-- `fieldName` and `field_name` both become `FIELD_NAME`. -/
def screaming (name : String) : String := String.ofList (screamFrom false name.toList)

/-! ## Packages -/

/-- A package as a C++ name. -/
def cPackage (package : String) : String := Text.replaceChar '.' '_' package

/-- A package as a path. -/
def packagePath (package : String) : String := Text.replaceChar '.' '/' package

/-! ## Strings as character lists -/

/-- A character literal. -/
def quotedChar (c : Char) : String :=
  match c with
  | '\'' => "'\\''"
  | '\\' => "'\\\\'"
  | c => "'" ++ c.toString ++ "'"

/-- A string as the argument list of the support library's string template. -/
def templateString (value : String) : String :=
  Vocabulary.helper "TemplateString" ++ "<" ++ ", ".intercalate (value.toList.map quotedChar) ++ ">"

/-! ## Numbering -/

/-- A name requested for the `n`-th time: the first keeps it, later ones append their number. -/
def numbered (base : String) (n : Nat) : String := if n = 1 then base else base ++ toString n

end JniBridge.Naming
