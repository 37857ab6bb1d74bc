import JniBridge.JavaType
/-
The layer between: the C types through which native code and the virtual machine talk.

Every type but the opaque references has exactly one Java counterpart (`asJava?`), which is what a raw
native method declares; the suffix picks the member of the family of call functions that returns it.
-/

namespace JniBridge

/-- A type of the native interface. -/
inductive JniType where
  | void
  | object | classObject | string | throwable
  | methodId
  | scalar (kind : JavaScalar)
  | objectArray
  | scalarArray (kind : JavaScalar)
deriving DecidableEq, Repr

namespace JniType

/-- The name in C. -/
def cName : JniType → String
  | void => "void"
  | object => "jobject"
  | classObject => "jclass"
  | string => "jstring"
  | throwable => "jthrowable"
  | methodId => "jmethodID"
  | scalar k => "j" ++ k.keyword
  | objectArray => "jobjectArray"
  | scalarArray k => "j" ++ k.keyword ++ "Array"

instance : ToString JniType := ⟨cName⟩

/-- The Java type that a raw native method declares, unless the type is an opaque reference. -/
def asJava? : JniType → Option JavaType
  | void => some JavaType.nothing
  | scalar k => some (.ofScalar k)
  | string => some JavaType.string
  | scalarArray k => some (.arrayOf (.ofScalar k))
  | object | classObject | throwable | methodId | objectArray => none

/-- The middle of the name of the functions that call a method returning this type. -/
def callSuffix : JniType → String
  | void => "Void"
  | scalar .boolean => "Boolean"
  | scalar .byte => "Byte"
  | scalar .char => "Char"
  | scalar .short => "Short"
  | scalar .int => "Int"
  | scalar .long => "Long"
  | scalar .float => "Float"
  | scalar .double => "Double"
  | _ => "Object"

/-- All types, in the order in which the native interface introduces them. -/
def all : List JniType :=
  let kinds : List JavaScalar := [.boolean, .byte, .char, .short, .int, .long, .float, .double]
  [void, object, classObject, string, throwable, methodId] ++ kinds.map scalar ++
    objectArray :: kinds.map scalarArray

/-- The type of a given name. -/
def ofCName? (name : String) : Option JniType := all.find? fun t => t.cName == name

theorem mem_all (t : JniType) : t ∈ all := by
  cases t with
  | scalar k => cases k <;> decide
  | scalarArray k => cases k <;> decide
  | _ => decide

end JniType

end JniBridge
