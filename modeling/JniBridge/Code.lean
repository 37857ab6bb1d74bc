import JniBridge.JavaType
/-
Generated code as data: what the body of a method binds, in order, and how it ends.

An expression is text, or a native closure written out in place, whose body is a sequence again; so
closures nest to any depth.  Nothing here knows how the code is printed.
-/

namespace JniBridge

/-- A local variable and its value, declared with a type on the Java layer and without one on the
native layer. -/
structure Binding (ε : Type) where
  type : Option JavaType
  name : String
  value : ε

/-- How a body ends once everything is bound. -/
inductive Completion (ε : Type) where
  /-- The expression runs as a statement and nothing is returned. -/
  | statement (run : String)
  /-- A value is returned; the raw result may be captured first. -/
  | answer (capture : Option (Binding ε)) (value : ε)

/-- A body in execution order. -/
structure Steps (ε : Type) where
  bindings : List (Binding ε)
  completion : Completion ε

/-- A native closure; parameters are spelled type and name. -/
structure Closure (ε : Type) where
  params : List (String × String)
  returns : String
  body : Steps ε

/-- A value of the generated code. -/
inductive Expression where
  | literal (text : String)
  | closure (code : Closure Expression)

/-- The body of a generated method. -/
abbrev Body := Steps Expression

namespace Expression

/-- The text of an expression that is no closure. -/
def literal? : Expression → Option String
  | literal s => some s
  | closure _ => none

end Expression

/-- The first value bound to a name. -/
def Steps.binding? {ε : Type} (body : Steps ε) (name : String) : Option ε :=
  (body.bindings.find? fun b => b.name == name).map Binding.value

end JniBridge
