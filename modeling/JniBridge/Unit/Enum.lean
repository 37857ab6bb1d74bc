import JniBridge.Declarations
import JniBridge.LinkError
import JniBridge.Naming
/-
Enum classes: one `int` constant for each constant of an enum.

Signed values are written in decimal.  Unsigned ones are written in hexadecimal, which Java reads as a
bit pattern, so that every 32-bit value keeps its bits.
-/

namespace JniBridge

/-- A constant of an enum class. -/
structure EnumField where
  name : String
  type : JavaType
  value : String

structure EnumUnit where
  nativeName : String
  javaName : String
  fields : List EnumField

namespace EnumUnit

/-- The hexadecimal digits of a number, in capitals. -/
def hexDigits (n : Nat) : String := String.ofList ((Nat.toDigits 16 n).map Char.toUpper)

/-- The type and the literal of a constant, if its value is known and fits. -/
def literal (enumeration constant : String) : Option EnumValue → Except LinkError (JavaType × String)
  | some (.signed v) =>
    if -2147483648 ≤ v ∧ v < 2147483648 then .ok (.ofScalar .int, toString v)
    else .error (.constantTooWide enumeration constant)
  | some (.unsigned v) =>
    if v < 4294967296 then
      .ok ((JavaType.ofScalar .int).annotated Vocabulary.unsignedAnnotation, "0x" ++ hexDigits v)
    else .error (.constantTooWide enumeration constant)
  | none => .error (.constantUnknown enumeration constant)

def field (enumeration : String) (c : EnumConstant) : Except LinkError EnumField :=
  (literal enumeration c.name c.value).map fun (type, value) =>
    ⟨Naming.escape c.name, type, value⟩

/-- The class of an enum; the first constant that cannot be written fails it. -/
def ofDecl (decl : EnumDecl) : Except LinkError EnumUnit :=
  (decl.constants.mapM (field decl.name)).map fun fields =>
    ⟨decl.name, Naming.escape decl.name, fields⟩

end EnumUnit

end JniBridge
