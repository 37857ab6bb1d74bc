import JniBridge.Generation
/-
The plan: everything a run generates, written out for a reader.

It shows signatures and bodies in execution order; it is neither Java nor C++ source.  A body is written
at a depth, four blanks to a level, and a closure inside it one level deeper.  The members of a struct are
written flush and then indented line by line.
-/

namespace JniBridge.Plan

/-- Four blanks for each level. -/
def indent : Nat → String
  | 0 => ""
  | depth + 1 => "    " ++ indent depth

/-- A text with a line feed behind it. -/
def line (text : String) : String := text ++ "\n"

/-! ## Bodies -/

/-- The start of a variable's declaration. -/
def declared (type : Option JavaType) (name : String) : String :=
  match type with
  | some t => t.display ++ " " ++ name ++ " = "
  | none => "auto&& " ++ name ++ " = "

/-- The first line of a closure. -/
def closureHead (params : List (String × String)) (returns : String) : String :=
  line ("[&](" ++ ", ".intercalate (params.map fun (type, name) => type ++ " " ++ name) ++ ") -> " ++
    returns ++ " \x7b")

mutual
/-- An expression whose statement starts at a depth. -/
def expression (depth : Nat) : Expression → String
  | .literal s => s
  | .closure ⟨params, returns, body⟩ =>
    closureHead params returns ++ steps (depth + 1) body ++ indent depth ++ "\x7d"

def steps (depth : Nat) : Steps Expression → String
  | ⟨bound, ending⟩ => bindings depth bound ++ completion depth ending

def bindings (depth : Nat) : List (Binding Expression) → String
  | [] => ""
  | b :: bs => binding depth b ++ bindings depth bs

def binding (depth : Nat) : Binding Expression → String
  | ⟨type, name, value⟩ =>
    indent depth ++ declared type name ++ expression depth value ++ ";\n"

def completion (depth : Nat) : Completion Expression → String
  | .statement run => line (indent depth ++ run ++ ";")
  | .answer capture value =>
    captured depth capture ++ indent depth ++ "return " ++ expression depth value ++ ";\n"

def captured (depth : Nat) : Option (Binding Expression) → String
  | none => ""
  | some b => binding depth b
end

/-- A body, one level deep. -/
def body (b : Body) : String := steps 1 b

/-! ## Units -/

/-- A method with its body. -/
def method (signature : String) (b : Body) : String :=
  line (signature ++ " \x7b") ++ body b ++ line "\x7d"

def downcall (u : DowncallUnit) : String :=
  method u.javaMethod.display u.javaBody ++ line (u.rawMethod.display ++ ";") ++
    method u.glueMethod.display u.glueBody

def upcall (u : UpcallUnit) : String :=
  line (u.callback.display ++ ";") ++ method u.caller.display u.javaBody ++
    method u.lambda.display u.nativeBody

def callback (c : CallbackInterface) : String :=
  line ("interface " ++ c.type.display ++ " \x7b") ++ upcall c.method ++ line "\x7d"

/-- The first line of a class made from a declaration. -/
def classHead (name nativeName : String) : String :=
  line ("class " ++ name ++ " \x7b // " ++ nativeName)

/-- A constant of a class. -/
def constant (text : String) : String := line (indent 1 ++ "public static final " ++ text)

def enumUnit (e : EnumUnit) : String :=
  classHead e.javaName e.nativeName ++
    String.join (e.fields.map fun f =>
      constant (f.type.display ++ " " ++ f.name ++ " = " ++ f.value ++ ";")) ++
    line "\x7d"

def layout (l : StructLayout) : String :=
  String.join (l.fields.map fun f =>
    constant ("long " ++ f.offsetField ++ "; // " ++ f.arrangement)) ++
    constant ("long " ++ l.sizeField ++ ";") ++ constant ("Layout " ++ l.layoutField ++ ";")

/-- Every line of a text one level deeper. -/
def indented (text : String) : String :=
  String.join ((Text.lines text).map fun l => line (indent 1 ++ l))

def structUnit (s : StructUnit) : String :=
  classHead s.javaType.display s.nativeName ++ (s.layout.map layout).getD "" ++
    String.join (s.accessors.map fun a => indented (downcall a.getter ++ downcall a.setter)) ++
    line "\x7d"

def skipped (s : Skipped) : String :=
  line ("// skipped " ++ s.kind.display ++ " " ++ s.name ++ ": " ++ s.reason.message)

/-- The whole run. -/
def generation (g : Generation) : String :=
  String.join (g.enums.map fun e => line (enumUnit e)) ++
    String.join (g.structs.map fun s => line (structUnit s)) ++
    String.join (g.callbacks.map fun c => line (callback c)) ++
    String.join (g.functions.map fun f =>
      line ("// " ++ f.nativeName) ++ line (downcall f.method)) ++
    String.join (g.skipped.map skipped)

end JniBridge.Plan
