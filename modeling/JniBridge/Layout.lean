import JniBridge.Context
import JniBridge.Shape
import JniBridge.Declarations
/-
Struct layouts: the calls by which generated Java computes where a field lies.

Offsets depend on the target's C rules, so they are not computed here; each field becomes a call on the
arranger, which knows those rules.
-/

namespace JniBridge

/-- The offset constant of a field and the call that places the field. -/
structure FieldLayout where
  field : String
  offsetField : String
  arrangement : String
deriving DecidableEq, Repr

structure StructLayout where
  layoutField : String
  sizeField : String
  fields : List FieldLayout
deriving DecidableEq, Repr

namespace Layout

/-- The member of the arranger's family of calls that places a scalar. -/
def scalarCall? : Scalar → Option String
  | .bool => some "addCBoolField()"
  | .charSigned | .charUnsigned | .signedChar | .unsignedChar => some "addCCharField()"
  | .short | .unsignedShort | .char16 => some "addCShortField()"
  | .int | .unsignedInt | .char32 | .wideChar => some "addCIntField()"
  | .long | .unsignedLong => some "addCLongField()"
  | .longLong | .unsignedLongLong => some "addCLongLongField()"
  | .float => some "addCFloatField()"
  | .double => some "addCDoubleField()"
  | .void | .int128 | .unsignedInt128 | .half | .longDouble | .nullPointer => none

/-- The class whose layout a field of the struct's type repeats. -/
def layoutClass? (ctx : Context) (record : String) : Option String :=
  (ctx.wrapper? record).bind fun w => if w.layout then w.javaType.name? else none

/-- The call that places a field of a type that is neither pointer-like nor of fixed width. -/
def resolvedCall (ctx : Context) (t : CType) : Except LinkError String :=
  match t.desugared with
  | .record s _ =>
    match layoutClass? ctx (tagName s) with
    | some javaClass => .ok ("addField(" ++ javaClass ++ "." ++ ctx.names.layoutField ++ ")")
    | none => .error (.layoutMissing (tagName s))
  | .enumeration .. => .ok "addCIntField()"
  | .scalar k _ _ =>
    match scalarCall? k with
    | some call => .ok call
    | none => .error (.unsupportedType t.spelling)
  | _ => .error (.unsupportedType t.spelling)

/-- The arranger's call that places a field of the type. -/
def call (ctx : Context) (t : CType) : Except LinkError String :=
  if t.isPointerLike then .ok "addCPointerField()"
  else match t.fixedWidth? with
    | some w => .ok ("addFixedField(" ++ toString (w.bits / 8) ++ ")")
    | none => resolvedCall ctx t

/-- The call, on its receiver. -/
def arrangement (ctx : Context) (t : CType) : Except LinkError String :=
  (call ctx t).map fun c => Vocabulary.arranger ++ "." ++ c

def fieldLayout (ctx : Context) (field : NamedType) : Except LinkError FieldLayout :=
  (arrangement ctx field.type).map fun a => ⟨field.name, ctx.names.offsetOf field.name, a⟩

/-- The layout of a struct, every field in order. -/
def ofDecl (ctx : Context) (decl : StructDecl) : Except LinkError StructLayout :=
  (decl.fields.mapM (fieldLayout ctx)).map fun fields =>
    ⟨ctx.names.layoutField, ctx.names.sizeField, fields⟩

end Layout

end JniBridge
