/-
The boundary: three layers, four edges between them, two directions across.

The arguments of a downcall go from Java over the native interface into native code, those of an
upcall the other way; a return value takes the edges back.  What happens to a value on each edge is a
`Behaviors`, a total map from the four edges, whose laws are those of a map updated at a point.
-/

namespace JniBridge

/-- A directed edge between two neighbouring layers. -/
inductive Edge where
  | javaToJni
  | jniToNative
  | nativeToJni
  | jniToJava
deriving DecidableEq, Repr

namespace Edge

def all : List Edge := [javaToJni, jniToNative, nativeToJni, jniToJava]

theorem mem_all (e : Edge) : e ∈ all := by cases e <;> decide

/-- The Java layer is one end of the edge. -/
def touchesJava : Edge → Bool
  | javaToJni | jniToJava => true
  | jniToNative | nativeToJni => false

def display : Edge → String
  | javaToJni => "Java -> JNI"
  | jniToNative => "JNI -> native"
  | nativeToJni => "native -> JNI"
  | jniToJava => "JNI -> Java"

instance : ToString Edge := ⟨display⟩

end Edge

/-- Which way a call crosses the boundary. -/
inductive Direction where
  /-- Java calls native code. -/
  | downcall
  /-- Native code calls back into Java. -/
  | upcall
deriving DecidableEq, Repr

namespace Direction

/-- The edge a parameter takes at the Java layer. -/
def javaEdge : Direction → Edge
  | downcall => .javaToJni
  | upcall => .jniToJava

/-- The edge a parameter takes at the native layer. -/
def nativeEdge : Direction → Edge
  | downcall => .jniToNative
  | upcall => .nativeToJni

/-- The edge a parameter must have taken for the callee to receive it. -/
def finalEdge : Direction → Edge
  | downcall => .jniToNative
  | upcall => .jniToJava

/-- The edge a return value takes at the native layer. -/
def nativeReturnEdge : Direction → Edge
  | downcall => .nativeToJni
  | upcall => .jniToNative

/-- The edge a return value takes at the Java layer. -/
def javaReturnEdge : Direction → Edge
  | downcall => .jniToJava
  | upcall => .javaToJni

end Direction

/-! ## Behaviours -/

/-- What happens to a value on one edge. -/
inductive Behavior where
  /-- The value does not take the edge. -/
  | none
  /-- The incoming expression is converted. -/
  | transit
  /-- The value is made up, without an incoming expression. -/
  | generate
deriving DecidableEq, Repr, Inhabited

/-- What happens to a value on each of the four edges. -/
structure Behaviors where
  javaToJni : Behavior := .none
  jniToNative : Behavior := .none
  nativeToJni : Behavior := .none
  jniToJava : Behavior := .none
deriving DecidableEq, Repr, Inhabited

namespace Behaviors

/-- The value takes no edge. -/
def absent : Behaviors := {}

def get (bs : Behaviors) : Edge → Behavior
  | .javaToJni => bs.javaToJni
  | .jniToNative => bs.jniToNative
  | .nativeToJni => bs.nativeToJni
  | .jniToJava => bs.jniToJava

/-- Changes what happens on one edge. -/
def set (bs : Behaviors) (e : Edge) (b : Behavior) : Behaviors :=
  match e with
  | .javaToJni => { bs with javaToJni := b }
  | .jniToNative => { bs with jniToNative := b }
  | .nativeToJni => { bs with nativeToJni := b }
  | .jniToJava => { bs with jniToJava := b }

/-- The value takes the edge. -/
def supports (bs : Behaviors) (e : Edge) : Bool := bs.get e != .none

/-- Transit on the two parameter edges of the direction, each where both of its layers have a type. -/
def usual (d : Direction) (javaSide nativeSide : Bool) : Behaviors :=
  let transitIf (present : Bool) : Behavior := if present then .transit else .none
  (absent.set d.javaEdge (transitIf javaSide)).set d.nativeEdge (transitIf nativeSide)

@[simp]
theorem get_set (bs : Behaviors) (e f : Edge) (b : Behavior) :
    (bs.set e b).get f = if f = e then b else bs.get f := by
  cases e <;> cases f <;> rfl

@[simp]
theorem get_absent (e : Edge) : absent.get e = .none := by cases e <;> rfl

end Behaviors

end JniBridge
