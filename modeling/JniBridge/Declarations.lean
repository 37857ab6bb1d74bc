import JniBridge.CType
/-
What a header declares: functions, structs and enums, in the order of the header.
-/

namespace JniBridge

/-- A parameter of a function or a field of a struct. -/
structure NamedType where
  name : String
  type : CType

structure FunctionDecl where
  name : String
  returns : CType
  params : List NamedType

structure StructDecl where
  name : String
  fields : List NamedType

/-- The type of values of the struct. -/
def StructDecl.recordType (decl : StructDecl) : CType := CType.ofRecord decl.name

/-- The value of an enum constant, by the signedness of the enum's own integer type. -/
inductive EnumValue where
  | signed (value : Int)
  | unsigned (value : Nat)
deriving DecidableEq, Repr

/-- A constant; without a value when the header's expression could not be evaluated. -/
structure EnumConstant where
  name : String
  value : Option EnumValue
deriving DecidableEq, Repr

structure EnumDecl where
  name : String
  constants : List EnumConstant
deriving DecidableEq, Repr

/-- Everything that is declared. -/
structure Declarations where
  functions : List FunctionDecl := []
  structs : List StructDecl := []
  enums : List EnumDecl := []

/-- The declarations of two headers, one after the other. -/
instance : Append Declarations where
  append a b := ⟨a.functions ++ b.functions, a.structs ++ b.structs, a.enums ++ b.enums⟩

end JniBridge
