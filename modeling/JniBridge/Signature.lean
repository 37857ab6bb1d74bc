import JniBridge.CType
import JniBridge.JniType
import JniBridge.Vocabulary
/-
Signatures of generated methods on the three layers, and how they are written.
-/

namespace JniBridge

/-- A parameter of a signature. -/
structure Param (τ : Type) where
  type : τ
  name : String
deriving DecidableEq

/-- Parameters separated by a comma and a blank. -/
def Param.list {τ : Type} (shown : τ → String) (params : List (Param τ)) : String :=
  ", ".intercalate (params.map fun p => shown p.type ++ " " ++ p.name)

/-- A method on the Java layer. -/
structure JavaMethod where
  name : String
  returns : JavaType
  params : List (Param JavaType)
  isPublic : Bool := true
  isStatic : Bool
  /-- The method has no body and is bound to a glue function. -/
  isNative : Bool := false

namespace JavaMethod

/-- The descriptor, by which the virtual machine tells methods of one name apart. -/
def descriptor (m : JavaMethod) : String :=
  "(" ++ String.join (m.params.map fun p => p.type.descriptor) ++ ")" ++ m.returns.descriptor

def display (m : JavaMethod) : String :=
  (if m.isPublic then "public " else "private ") ++ (if m.isStatic then "static " else "") ++
    (if m.isNative then "native " else "") ++ m.returns.display ++ " " ++ m.name ++ "(" ++
    Param.list JavaType.display m.params ++ ")"

end JavaMethod

/-- A glue function; the environment and the class come before its parameters. -/
structure GlueMethod where
  name : String
  returns : JniType
  params : List (Param JniType)

def GlueMethod.display (m : GlueMethod) : String :=
  "JNIEXPORT " ++ m.returns.cName ++ " JNICALL " ++ m.name ++ "(JNIEnv* " ++ Vocabulary.env ++
    ", jclass" ++ String.join (m.params.map fun p => ", " ++ p.type.cName ++ " " ++ p.name) ++ ")"

/-- A native function or closure. -/
structure NativeMethod where
  name : String
  returns : CType
  params : List (Param CType)

def NativeMethod.display (m : NativeMethod) : String :=
  m.returns.sourceSpelling ++ " " ++ m.name ++ "(" ++
    Param.list CType.sourceSpelling m.params ++ ")"

end JniBridge
