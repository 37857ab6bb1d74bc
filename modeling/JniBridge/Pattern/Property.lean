import JniBridge.Pattern.AgeTable
import JniBridge.Pattern.BreakTable
import JniBridge.Pattern.CategoryTable
import JniBridge.Pattern.CharSet
import JniBridge.Pattern.ScriptTable
/-
Sets of characters that have a name in the Unicode standard.

A name is looked up among the yes-or-no properties, the general categories and the scripts, in this
order.  Names are compared without regard to case, blanks, hyphens and underscores.
-/

namespace JniBridge.Pattern.Property

open CharSet

/-! ## Names -/

/-- A name without the letters `is` in front. -/
def dropIs : List Char → List Char
  | i :: s :: rest => if i.toLower = 'i' ∧ s.toLower = 's' then rest else i :: s :: rest
  | short => short

/-- The form in which names are compared.  The letters `is` in front do not count, except in `isc`,
which would otherwise be taken for the category `c`. -/
def normalize (name : List Char) : List Char :=
  let bare := dropIs name
  let kept := ((bare.filter fun c => !(c = ' ' || c = '_' || c = '-') && c.toNat < 128)).map
    Char.toLower
  if bare.length < name.length ∧ kept = ['c'] then "isc".toList else kept

/-! ## General categories -/

/-- The members of a two-letter category. -/
def category (key : String) : CharSet := ofTable ((CategoryTable.members.lookup key).getD "")

/-- All characters that a category holds. -/
def assigned : CharSet := unions (CategoryTable.members.map fun (_, table) => ofTable table)

def any : CharSet := .ranges [(0, 0x10ffff)]

def ascii : CharSet := .ranges [(0, 0x7f)]

/-- Names of categories, each with the two-letter categories it is made of. -/
def categoryNames : List (List String × List String) :=
  [(["cc", "control", "cntrl"], ["cc"]),
   (["cf", "format"], ["cf"]), (["co", "privateuse"], ["co"]),
   (["l", "letter"], ["ll", "lm", "lo", "lt", "lu"]), (["lc", "casedletter"], ["ll", "lt", "lu"]),
   (["ll", "lowercaseletter"], ["ll"]), (["lm", "modifierletter"], ["lm"]),
   (["lo", "otherletter"], ["lo"]), (["lt", "titlecaseletter"], ["lt"]),
   (["lu", "uppercaseletter"], ["lu"]), (["m", "mark", "combiningmark"], ["mc", "me", "mn"]),
   (["mc", "spacingmark"], ["mc"]), (["me", "enclosingmark"], ["me"]),
   (["mn", "nonspacingmark"], ["mn"]), (["n", "number"], ["nd", "nl", "no"]),
   (["nd", "decimalnumber", "digit"], ["nd"]), (["nl", "letternumber"], ["nl"]),
   (["no", "othernumber"], ["no"]),
   (["p", "punctuation", "punct"], ["pc", "pd", "pe", "pf", "pi", "po", "ps"]),
   (["pc", "connectorpunctuation"], ["pc"]), (["pd", "dashpunctuation"], ["pd"]),
   (["pe", "closepunctuation"], ["pe"]), (["pf", "finalpunctuation"], ["pf"]),
   (["pi", "initialpunctuation"], ["pi"]), (["po", "otherpunctuation"], ["po"]),
   (["ps", "openpunctuation"], ["ps"]), (["s", "symbol"], ["sc", "sk", "sm", "so"]),
   (["sc", "currencysymbol"], ["sc"]), (["sk", "modifiersymbol"], ["sk"]),
   (["sm", "mathsymbol"], ["sm"]), (["so", "othersymbol"], ["so"]),
   (["z", "separator"], ["zl", "zp", "zs"]), (["zl", "lineseparator"], ["zl"]),
   (["zp", "paragraphseparator"], ["zp"]), (["zs", "spaceseparator"], ["zs"])]

/-- The category of a name. -/
def category? (name : String) : Option CharSet :=
  if name = "any" then some any
  else if name = "ascii" then some ascii
  else if name = "assigned" then some assigned
  else if name = "cn" ∨ name = "unassigned" then some (.compl assigned)
  else if name = "c" ∨ name = "other" then
    some (.union (.compl assigned) (unions (["cc", "cf", "co"].map category)))
  else (categoryNames.find? (·.1.contains name)).map fun (_, keys) => unions (keys.map category)

/-! ## Scripts -/

/-- The script of a name: the characters that are its own. -/
def script? (name : String) : Option CharSet :=
  (ScriptTable.rows.find? (·.names.contains name)).map fun row => ofTable row.own

/-- The script of a name, with the characters it uses besides. -/
def scriptExtensions? (name : String) : Option CharSet :=
  (ScriptTable.rows.find? (·.names.contains name)).map fun row =>
    .diff (.union (ofTable row.own) (ofTable row.added)) (ofTable row.removed)

/-! ## Properties -/

/-- The members of a set that has names. -/
def ofNamedSet (s : NamedSet) : CharSet :=
  .diff (.union (unions (s.categories.map category)) (ofTable s.added)) (ofTable s.removed)

/-- The set of a name among several. -/
def among? (sets : List NamedSet) (name : String) : Option CharSet :=
  (sets.find? (·.names.contains name)).map ofNamedSet

/-- The yes-or-no property of a name. -/
def property? (name : String) : Option CharSet := among? PropertyTable.rows name

def alphabetic : CharSet := (property? "alphabetic").getD empty

/-- The characters that were in the standard when a version of it came out, whichever version they
came with. -/
def age? (version : String) : Option CharSet :=
  match AgeTable.versions.findIdx? (·.1.contains version) with
  | none => none
  | some k => some (unions ((AgeTable.versions.take (k + 1)).map fun (_, table) => ofTable table))

/-! ## Looking up -/

/-- The set a name stands for.  Three short names stand for a category although a property has the
same one. -/
def named? (name : List Char) : Option CharSet :=
  let key := String.ofList (normalize name)
  let property := if ["cf", "sc", "lc"].contains key then none else property? key
  (property.or (category? key)).or (script? key)

/-- The set of characters for which a property has a value. -/
def valued? (property value : List Char) : Option CharSet :=
  let value := String.ofList (normalize value)
  match String.ofList (normalize property) with
  | "gc" | "generalcategory" => category? value
  | "sc" | "script" => script? value
  | "scx" | "scriptextensions" => scriptExtensions? value
  | "age" => age? value
  | "gcb" | "graphemeclusterbreak" => among? BreakTable.grapheme value
  | "wb" | "wordbreak" => among? BreakTable.word value
  | "sb" | "sentencebreak" => among? BreakTable.sentence value
  | _ => none

/-! ## Classes with a letter or a word of their own -/

/-- What `\d` stands for. -/
def digits : Repertoire → CharSet
  | .ascii => .ranges [(0x30, 0x39)]
  | .unicode => category "nd"

/-- What `\s` stands for. -/
def blanks : Repertoire → CharSet
  | .ascii => .ranges [(0x09, 0x0d), (0x20, 0x20)]
  | .unicode => (property? "whitespace").getD empty

/-- What `\w` stands for. -/
def wordLetters : Repertoire → CharSet
  | .ascii => .ranges [(0x30, 0x39), (0x41, 0x5a), (0x5f, 0x5f), (0x61, 0x7a)]
  | .unicode =>
    .union alphabetic
      (.union (unions (["nd", "pc", "mn", "mc", "me"].map category))
        ((property? "joincontrol").getD empty))

/-- The classes of ASCII characters that a bracket can name. -/
def asciiClasses : List (String × List (Nat × Nat)) :=
  [("alnum", [(0x30, 0x39), (0x41, 0x5a), (0x61, 0x7a)]), ("alpha", [(0x41, 0x5a), (0x61, 0x7a)]),
   ("ascii", [(0, 0x7f)]), ("blank", [(0x09, 0x09), (0x20, 0x20)]),
   ("cntrl", [(0, 0x1f), (0x7f, 0x7f)]), ("digit", [(0x30, 0x39)]), ("graph", [(0x21, 0x7e)]),
   ("lower", [(0x61, 0x7a)]), ("print", [(0x20, 0x7e)]),
   ("punct", [(0x21, 0x2f), (0x3a, 0x40), (0x5b, 0x60), (0x7b, 0x7e)]),
   ("space", [(0x09, 0x0d), (0x20, 0x20)]), ("upper", [(0x41, 0x5a)]),
   ("word", [(0x30, 0x39), (0x41, 0x5a), (0x5f, 0x5f), (0x61, 0x7a)]),
   ("xdigit", [(0x30, 0x39), (0x41, 0x46), (0x61, 0x66)])]

/-- The ASCII class of a word. -/
def asciiClass? (word : List Char) : Option CharSet :=
  (asciiClasses.lookup (String.ofList word)).map .ranges

end JniBridge.Pattern.Property
