import JniBridge.LinkError
/-
Shapes: how a native type crosses the boundary, decided by the type alone.

Typedefs are looked through, with one exception: the integer typedefs whose names promise a width are
recognised wherever they occur on a type's chain of names, and win over the scalar they stand for.
-/

namespace JniBridge

/-! ## Integer typedefs -/

/-- The typedefs that are as wide as a pointer. -/
def pointerSizedNames : List String :=
  ["size_t", "ssize_t", "usize_t", "intptr_t", "uintptr_t", "ptrdiff_t"]

/-- Those of them that are unsigned by name. -/
def unsignedPointerSizedNames : List String := ["usize_t", "uintptr_t"]

/-- An integer typedef that says how many bits it has. -/
structure FixedWidth where
  bits : Nat
  unsigned : Bool
deriving DecidableEq, Repr

/-- The typedefs that say their width, signed and unsigned. -/
def fixedWidthNames : List (String × FixedWidth) :=
  [("int8_t", ⟨8, false⟩), ("int16_t", ⟨16, false⟩), ("int32_t", ⟨32, false⟩),
   ("int64_t", ⟨64, false⟩), ("uint8_t", ⟨8, true⟩), ("uint16_t", ⟨16, true⟩),
   ("uint32_t", ⟨32, true⟩), ("uint64_t", ⟨64, true⟩)]

/-- How a scalar is carried. -/
structure PrimitiveShape where
  jni : JniType
  /-- The native value is unsigned and travels in a signed type. -/
  unsigned : Bool
deriving DecidableEq, Repr

namespace Scalar

/-- The scalars that are unsigned by themselves. -/
def isUnsigned : Scalar → Bool
  | unsignedChar | charUnsigned | unsignedInt | unsignedLong | unsignedLongLong | char32 => true
  | _ => false

/-- The native-interface type that carries the scalar, if there is one. -/
def carrier? : Scalar → Option JavaScalar
  | bool => some .boolean
  | charSigned | charUnsigned | signedChar | unsignedChar => some .byte
  | short => some .short
  | unsignedShort | char16 => some .char
  | int | unsignedInt | char32 | wideChar => some .int
  | long | unsignedLong | longLong | unsignedLongLong => some .long
  | float => some .float
  | double => some .double
  | void | int128 | unsignedInt128 | half | longDouble | nullPointer => none

end Scalar

/-- The kind is an unsigned scalar. -/
def CKind.isUnsigned : CKind → Bool
  | .scalar s => s.isUnsigned
  | _ => false

namespace FixedWidth

/-- The type that carries the integer: sixteen unsigned bits are a character. -/
def carrier (w : FixedWidth) : JavaScalar :=
  if w.bits = 8 then .byte
  else if w.bits = 16 then (if w.unsigned then .char else .short)
  else if w.bits = 32 then .int
  else .long

end FixedWidth

/-- How a value crosses the boundary. -/
inductive Shape where
  | primitive
  /-- A pointer to plain characters, however qualified. -/
  | nativeString
  | functionPointer (proto : CType)
  /-- Any other pointer. -/
  | pointer (pointee : CType)
  | record (name : String)
  | enumeration (name : String)

namespace CType

/-- The first pointer-sized typedef among the names of the type. -/
def pointerSized? (t : CType) : Option String :=
  t.sugarNames.find? pointerSizedNames.contains

/-- The first typedef that says its width among the names of the type. -/
def fixedWidth? (t : CType) : Option FixedWidth :=
  t.sugarNames.findSome? fun name => fixedWidthNames.lookup name

/-- Carried like a pointer: a pointer, or an integer as wide as one. -/
def isPointerLike (t : CType) : Bool := t.isPointer || t.pointerSized?.isSome

/-- How a scalar is carried; a recognised typedef decides before the kind does. -/
def primitiveShape (t : CType) : Except LinkError PrimitiveShape :=
  let kind := t.desugared.kind
  match t.pointerSized? with
  | some name => .ok ⟨.scalar .long, unsignedPointerSizedNames.contains name || kind.isUnsigned⟩
  | none =>
    match t.fixedWidth? with
    | some w => .ok ⟨.scalar w.carrier, w.unsigned && w.bits != 16⟩
    | none =>
      match kind with
      | .scalar s =>
        match s.carrier? with
        | some k => .ok ⟨.scalar k, s.isUnsigned⟩
        | none => .error (.unsupportedType t.spelling)
      | _ => .error (.unsupportedType t.spelling)

/-- The shape of a pointer, by what it points at. -/
def pointerShape (pointee : CType) : Shape :=
  match pointee.desugared with
  | scalar .charSigned _ _ | scalar .charUnsigned _ _ => .nativeString
  | proto@(prototype ..) => .functionPointer proto
  | _ => .pointer pointee

/-- The shape of a value of the type. -/
def shape (t : CType) : Except LinkError Shape :=
  match t.desugared with
  | scalar .void _ _ => .error (.unsupportedType t.spelling)
  | scalar _ _ _ => .ok .primitive
  | pointer pointee _ _ => .ok (pointerShape pointee)
  | record s _ => .ok (.record (tagName s))
  | enumeration s _ => .ok (.enumeration (tagName s))
  | _ => .error (.unsupportedType t.spelling)

end CType

end JniBridge
