import JniBridge.CType
import JniBridge.JniType
import JniBridge.Edge
/-
Why a declaration cannot be linked.

Most causes cost only the declaration at hand.  The last group (`isFatal`) says that linking itself
went wrong: a value was left without a type or an edge that it needs.
-/

namespace JniBridge

inductive LinkError where
  /-- No layer has a representation for the type. -/
  | unsupportedType (spelling : String)
  /-- An action has no expression for an edge. -/
  | unsupportedEdge (action : String) (edge : Edge) (verb : String)
  /-- A function pointer's prototype does not end in a context parameter. -/
  | contextNotTaken (pointer : String)
  /-- A function pointer parameter is not followed by its context parameter. -/
  | contextNotPassed (parameter : String)
  /-- A function pointer stands in return position. -/
  | callbackReturned
  /-- A function pointer is passed into a callback. -/
  | callbackInCallback (pointer : String)
  /-- A struct without layout metadata is laid out inside another one. -/
  | layoutMissing (record : String)
  /-- The value of an enum constant needs more than 32 bits. -/
  | constantTooWide (enumeration constant : String)
  /-- An enum constant has no value. -/
  | constantUnknown (enumeration constant : String)
  /-- A return value lacks a type on some layer. -/
  | returnUntyped (action : String)
  /-- A return value has a native-interface type that no raw method can declare. -/
  | returnOpaque (jni : JniType)
  /-- A parameter is to be converted on an edge that lacks a type on one side. -/
  | edgeUntyped (parameter : String) (edge : Edge)
  /-- A parameter does not reach its callee. -/
  | edgeMissing (parameter action : String) (edge : Edge)
  /-- A position beyond an operation's parameters. -/
  | indexOutOfRange (index : Nat) (operation : String) (count : Nat)
  /-- The receiver of a field access is not a pointer to a struct. -/
  | handleNotStruct (spelling : String)
  | getterWithoutHandle
  | setterArity
  | callbackWithoutReceiver
  | structNotRegistered (name : String)
deriving DecidableEq, Repr

namespace LinkError

/-- The two kinds of failure that cost one declaration, and the one that ends a run. -/
inductive Severity where
  | unsupportedType | unsupportedScenario | incompleteLinkage
deriving DecidableEq, Repr

def severity : LinkError → Severity
  | unsupportedType _ => .unsupportedType
  | unsupportedEdge .. | contextNotTaken _ | contextNotPassed _ | callbackReturned
  | callbackInCallback _ | layoutMissing _ | constantTooWide .. | constantUnknown .. =>
    .unsupportedScenario
  | returnUntyped _ | returnOpaque _ | edgeUntyped .. | edgeMissing .. | indexOutOfRange ..
  | handleNotStruct _ | getterWithoutHandle | setterArity | callbackWithoutReceiver
  | structNotRegistered _ => .incompleteLinkage

/-- The failure ends the whole run. -/
def isFatal (e : LinkError) : Bool := e.severity == .incompleteLinkage

/-- The cause in words, without the heading of its severity. -/
def cause : LinkError → String
  | unsupportedType s => "type `" ++ s ++ "` has no boundary representation"
  | unsupportedEdge action edge verb =>
    action ++ " cannot " ++ verb ++ " a value on the " ++ edge.display ++ " edge"
  | contextNotTaken p =>
    "the function pointer " ++ p ++ " does not have a void* context parameter"
  | contextNotPassed p =>
    "the function pointer parameter '" ++ p ++ "' does not have a trailing void* context parameter"
  | callbackReturned => "passing function pointers by return type is not supported"
  | callbackInCallback p => "the function pointer " ++ p ++ " cannot be passed into a callback"
  | layoutMissing r =>
    "can't resolve field offsets for struct " ++ r ++ ": it is not generated with layout metadata"
  | constantTooWide e c => "enum constant " ++ e ++ "::" ++ c ++ " does not fit in a Java int"
  | constantUnknown e c =>
    "enum constant " ++ e ++ "::" ++ c ++ " has neither a signed nor an unsigned value"
  | returnUntyped action =>
    "return value classified as " ++ action ++ " lacks a Java, JNI or native type"
  | returnOpaque jni => "return value of JNI type " ++ jni.cName ++ " has no raw Java type"
  | edgeUntyped p edge =>
    "parameter '" ++ p ++ "' transits on the " ++ edge.display ++
      " edge without types on both layers"
  | edgeMissing p action edge =>
    "parameter '" ++ p ++ "' (" ++ action ++ ") never reaches the " ++ edge.display ++ " edge"
  | indexOutOfRange i op n =>
    "parameter " ++ toString i ++ " is out of range for " ++ op ++ " (" ++ toString n ++
      " parameters)"
  | handleNotStruct s => "struct handle of type " ++ s ++ " is not a struct pointer"
  | getterWithoutHandle => "field getter has no struct handle"
  | setterArity => "field setter needs a struct handle and a value"
  | callbackWithoutReceiver => "callback unit has no callback object"
  | structNotRegistered n => "struct " ++ n ++ " is not registered"

/-- The cause, with a heading if it is fatal. -/
def message (e : LinkError) : String :=
  if e.isFatal then "incomplete linkage: " ++ e.cause else e.cause

instance : ToString LinkError := ⟨message⟩

end LinkError

end JniBridge
