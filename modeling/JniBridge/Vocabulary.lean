import JniBridge.JavaType
import JniBridge.Edge
/-
The fixed names of generated code, shared with the library that the code is run against.

Every generated variable, flag and annotation that code on both sides must agree on is named here, and
nowhere else.
-/

namespace JniBridge.Vocabulary

/-! ## Where the support library lives -/

/-- The namespace of its native half. -/
def nativeNamespace : String := "bndjni"

/-- The package of its Java half. -/
def javaPackage : String := "io.github.bnd.jni.runtime"

/-- A function or class template of the native half. -/
def helper (name : String) : String := nativeNamespace ++ "::" ++ name

/-! ## Variables -/

/-- The environment parameter of every glue function. -/
def env : String := "env"

def structPointer : String := "struct$ptr"

/-- The variable that holds a raw result until it is converted. -/
def returnValue : String := "returnValue$int"

def callbackContext : String := "func$$context"

def callbackClassId : String := "func$$classId"

def callbackMethodId : String := "func$$methodId"

/-- The parameter by which a callback receives the object it was registered with. -/
def callbackObject : String := "func$callbackObject"

/-- The name a closure's signature is shown under. -/
def callbackLambda : String := "*lambda_function*"

/-- The receiver of a field accessor. -/
def handle : String := "handle"

/-- The value parameter of a setter. -/
def newValue : String := "newValue"

/-- The flag that says whether a returned native string is released. -/
def returnDeletion : String := "returnValueDeletionBehaviour"

/-- The flag that says whether an overwritten native string is released. -/
def overwriteDeletion : String := "overwrittenValueDeletionBehaviour"

/-- The receiver of the calls that lay a struct out. -/
def arranger : String := "$structArranger"

/-- The variable that holds the converted value of a parameter. -/
def intermediate (name : String) : String := name ++ "$int"

/-- The name of a callback's parameter at a position. -/
def proxyParameter (index : Nat) : String := "proxyParam" ++ toString index

/-- How native code gets at the environment: glue is given it, a closure asks its context. -/
def environment : Direction → String
  | .downcall => env
  | .upcall => callbackContext ++ "->getEnv()"

/-! ## Annotations and classes -/

def magicConstant : String := "@org.intellij.lang.annotations.MagicConstant"

/-- Marks a number that is unsigned in native code. -/
def unsignedAnnotation : String := "@" ++ javaPackage ++ ".Unsigned"

/-- Marks a number that is a native pointer, with the pointer's type. -/
def pointerAnnotation (spelling : String) : String :=
  "@" ++ javaPackage ++ ".Pointer(\"" ++ spelling ++ "\")"

/-- The Java handle of a registered callback. -/
def functionPointer (callback : JavaType) : JavaType :=
  JavaType.generic javaPackage "FunctionPointer" [callback]

def deletionBehaviour : JavaType := JavaType.ofClass javaPackage "StringDeletionBehaviour"

end JniBridge.Vocabulary
