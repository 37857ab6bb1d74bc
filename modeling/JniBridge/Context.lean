import JniBridge.Naming
import JniBridge.Registry
import JniBridge.Rule
/-
What all declarations of one run share: where generated classes go, what their members are called,
the rules, and the wrappers and enums that types can refer to.
-/

namespace JniBridge

/-- The names of generated members that a configuration can choose. -/
structure MemberNames where
  /-- The method a callback interface declares. -/
  callbackMethod : String := "execute"
  /-- The static method by which native code gets into a callback. -/
  callerMethod : String := "runCallback"
  /-- The name of an offset constant; every `{}` stands for the field in capitals. -/
  offsetField : String := "OFFSET_\x7b\x7d"
  layoutField : String := "LAYOUT"
  sizeField : String := "SIZE"
deriving DecidableEq, Repr, Inhabited

/-- Puts a text in the place of every pair of braces. -/
def fillBraces (image : List Char) : List Char → List Char
  | [] => []
  | '\x7b' :: '\x7d' :: rest => image ++ fillBraces image rest
  | c :: rest => c :: fillBraces image rest

/-- The offset constant of a field. -/
def MemberNames.offsetOf (names : MemberNames) (field : String) : String :=
  String.ofList (fillBraces (Naming.screaming field).toList names.offsetField.toList)

/-- A struct's wrapper class. -/
structure Wrapper where
  javaType : JavaType
  /-- The wrapper declares the layout of its struct. -/
  layout : Bool

/-- The state of a run. -/
structure Context where
  package : String
  /-- The class that holds the native methods and all nested types. -/
  container : String
  names : MemberNames := {}
  rules : RuleBook := {}
  structs : Registry Wrapper := .empty
  enums : List String := []
  /-- The method names asked for so far, each with the class it was asked for. -/
  requested : List (String × String) := []

namespace Context

/-- The class that holds the native methods. -/
def containerType (ctx : Context) : JavaType := JavaType.ofClass ctx.package ctx.container

/-- A class nested in the container. -/
def nestedType (ctx : Context) (name : String) : JavaType :=
  JavaType.ofClass ctx.package (ctx.container ++ "." ++ name)

def wrapper? (ctx : Context) (record : String) : Option Wrapper := ctx.structs.get? record

def registerStruct (ctx : Context) (record : String) (w : Wrapper) : Context :=
  { ctx with structs := ctx.structs.insert record w }

def unregisterStruct (ctx : Context) (record : String) : Context :=
  { ctx with structs := ctx.structs.erase record }

def hasEnum (ctx : Context) (enumeration : String) : Bool := ctx.enums.contains enumeration

def registerEnum (ctx : Context) (enumeration : String) : Context :=
  { ctx with enums := enumeration :: ctx.enums }

/-- A name for a method of a class, numbered from the second time it is asked for. -/
def requestName (ctx : Context) (scope base : String) : String × Context :=
  (Naming.numbered base (ctx.requested.count (scope, base) + 1),
    { ctx with requested := (scope, base) :: ctx.requested })

end Context

end JniBridge
