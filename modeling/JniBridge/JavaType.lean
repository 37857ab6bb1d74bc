import JniBridge.Text.Split
/-
The Java side: types as generated declarations write them.

A type carries its annotations, which stand before it wherever it is written in full, inside type
arguments and before array brackets too.  `display` is the full form, `plain` leaves out the
annotations of the type itself.  The descriptor, by which the virtual machine looks methods up, knows
neither annotations nor type arguments.
-/

namespace JniBridge

/-- The eight primitive types that hold a value. -/
inductive JavaScalar where
  | boolean | byte | char | short | int | long | float | double
deriving DecidableEq, Repr, Inhabited

namespace JavaScalar

/-- The keyword. -/
def keyword : JavaScalar → String
  | boolean => "boolean"
  | byte => "byte"
  | char => "char"
  | short => "short"
  | int => "int"
  | long => "long"
  | float => "float"
  | double => "double"

/-- The letter in a descriptor. -/
def descriptor : JavaScalar → String
  | boolean => "Z"
  | byte => "B"
  | char => "C"
  | short => "S"
  | int => "I"
  | long => "J"
  | float => "F"
  | double => "D"

end JavaScalar

/-- A Java type with its annotations, the outermost first. -/
inductive JavaType where
  | void (annotations : List String)
  | scalar (kind : JavaScalar) (annotations : List String)
  /-- A class; the names of nested classes are joined by a full stop. -/
  | object (package name : String) (arguments : List JavaType) (annotations : List String)
  | array (element : JavaType) (annotations : List String)

namespace JavaType

/-! ## Equality -/

mutual
/-- Equality of types, their annotations included. -/
def decEq : (s t : JavaType) → Decidable (s = t)
  | void as, void bs => decidable_of_iff (as = bs) (by simp)
  | scalar k as, scalar l bs => decidable_of_iff (k = l ∧ as = bs) (by simp)
  | object p m gs as, object q n hs bs =>
    have := decEqAll gs hs
    decidable_of_iff (p = q ∧ m = n ∧ gs = hs ∧ as = bs) (by simp)
  | array e as, array f bs =>
    have := decEq e f
    decidable_of_iff (e = f ∧ as = bs) (by simp)
  | void _, scalar _ _ | void _, object _ _ _ _ | void _, array _ _ => .isFalse nofun
  | scalar _ _, void _ | scalar _ _, object _ _ _ _ | scalar _ _, array _ _ => .isFalse nofun
  | object _ _ _ _, void _ | object _ _ _ _, scalar _ _ | object _ _ _ _, array _ _ =>
    .isFalse nofun
  | array _ _, void _ | array _ _, scalar _ _ | array _ _, object _ _ _ _ => .isFalse nofun

def decEqAll : (ss ts : List JavaType) → Decidable (ss = ts)
  | [], [] => .isTrue rfl
  | s :: ss, t :: ts =>
    have := decEq s t
    have := decEqAll ss ts
    decidable_of_iff (s = t ∧ ss = ts) (by simp)
  | [], _ :: _ | _ :: _, [] => .isFalse nofun
end

instance : DecidableEq JavaType := decEq

/-! ## Construction -/

/-- The return type of a method that returns nothing. -/
def nothing : JavaType := void []

def ofScalar (kind : JavaScalar) : JavaType := scalar kind []

/-- A class without type arguments. -/
def ofClass (package name : String) : JavaType := object package name [] []

/-- A class with type arguments. -/
def generic (package name : String) (arguments : List JavaType) : JavaType :=
  object package name arguments []

def arrayOf (element : JavaType) : JavaType := array element []

/-- The string class. -/
def string : JavaType := ofClass "java.lang" "String"

/-- The type with one more annotation, innermost. -/
def annotated (note : String) : JavaType → JavaType
  | void as => void (as ++ [note])
  | scalar k as => scalar k (as ++ [note])
  | object p n args as => object p n args (as ++ [note])
  | array e as => array e (as ++ [note])

/-! ## Queries -/

def annotations : JavaType → List String
  | void as => as
  | scalar _ as => as
  | object _ _ _ as => as
  | array _ as => as

def isVoid : JavaType → Bool
  | void _ => true
  | _ => false

/-- The simple name of a class, that of its outer class before it. -/
def name? : JavaType → Option String
  | object _ n _ _ => some n
  | _ => none

def package? : JavaType → Option String
  | object p _ _ _ => some p
  | _ => none

/-- The name by which the virtual machine knows a class: folders, then nested names. -/
def binaryName (package name : String) : String :=
  let nested := Text.replaceChar '.' '$' name
  if package.isEmpty then nested else Text.replaceChar '.' '/' package ++ "/" ++ nested

def className? : JavaType → Option String
  | object p n _ _ => some (binaryName p n)
  | _ => none

/-- The descriptor of a value of this type. -/
def descriptor : JavaType → String
  | void _ => "V"
  | scalar k _ => k.descriptor
  | object p n _ _ => "L" ++ binaryName p n ++ ";"
  | array e _ => "[" ++ e.descriptor

/-! ## Source form -/

/-- Annotations, each followed by a blank. -/
def lead (annotations : List String) : String :=
  String.join (annotations.map fun a => a ++ " ")

/-- A class name behind its package, if it is in one. -/
def qualified (package name : String) : String :=
  if package.isEmpty then name else package ++ "." ++ name

/-- Type arguments in angle brackets, or nothing when there are none. -/
def bracketed (arguments : List String) : String :=
  if arguments.isEmpty then "" else "<" ++ ", ".intercalate arguments ++ ">"

mutual
/-- The source form without the annotations of the type itself. -/
def plain : JavaType → String
  | void _ => "void"
  | scalar k _ => k.keyword
  | object p n args _ => qualified p n ++ bracketed (displays args)
  | array e _ => lead e.annotations ++ plain e ++ "[]"

def displays : List JavaType → List String
  | [] => []
  | t :: ts => (lead t.annotations ++ plain t) :: displays ts
end

/-- The source form, annotations first. -/
def display (t : JavaType) : String := lead t.annotations ++ t.plain

instance : ToString JavaType := ⟨display⟩

end JavaType

end JniBridge
