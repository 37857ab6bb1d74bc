import JniBridge.Text.Split
/-
The native side: types as a C front end hands them over.

A type is a tree.  Every node has a spelling of its own, because qualifiers and pointer declarators
are written there and nowhere else; two types count as the same when their kinds and spellings agree,
whatever lies below.  A node also remembers how the source wrote it (`Pairing`): the front end
resolves typedefs, and `pairWith` lays the tree that the source wrote beside the resolved one.

`desugared` looks through typedefs, and every question about what a type *is* goes through it.
-/

namespace JniBridge

/-! ## Kinds -/

/-- The scalar kinds of a C compiler, `void` and the type of the null pointer among them. -/
inductive Scalar where
  | void | bool
  | charSigned
  | charUnsigned
  | signedChar | unsignedChar
  | char16 | char32 | wideChar
  | short | unsignedShort
  | int | unsignedInt
  | long | unsignedLong
  | longLong | unsignedLongLong
  | int128 | unsignedInt128
  | half | float | double | longDouble
  | nullPointer
deriving DecidableEq, Repr, Inhabited

/-- The kind of a type: a scalar, or how the type is built. -/
inductive CKind where
  | scalar (s : Scalar)
  | pointer | record | enumeration | prototype | typedef | constantArray | incompleteArray
deriving DecidableEq, Repr

/-- Scalars are the kinds that are not built from anything. -/
def CKind.isScalar : CKind → Bool
  | .scalar _ => true
  | _ => false

/-! ## Types -/

/-- How the source wrote a type: not known, spelled the same, or written as another tree. -/
inductive Pairing (τ : Type) where
  | unpaired
  | same
  | written (tree : τ)

/-- A native type. -/
inductive CType where
  | scalar (kind : Scalar) (spelling : String) (source : Pairing CType)
  | pointer (pointee : CType) (spelling : String) (source : Pairing CType)
  | record (spelling : String) (source : Pairing CType)
  | enumeration (spelling : String) (source : Pairing CType)
  | prototype (returns : CType) (params : List CType) (spelling : String) (source : Pairing CType)
  | typedef (name : String) (defined : CType) (source : Pairing CType)
  | array (element : CType) (length : Option Nat) (spelling : String) (source : Pairing CType)

/-- Leading words that qualify a type or say which tag space its name is in. -/
def qualifiers : List String :=
  ["const", "volatile", "restrict", "struct", "union", "enum", "class"]

/-- The name in a tagged spelling: its words from the first that is no qualifier, one blank apart. -/
def tagName (spelling : String) : String :=
  " ".intercalate <|
    ((Text.words spelling.toList).map String.ofList).dropWhile fun word => qualifiers.contains word

namespace CType

/-- The canonical spelling. -/
def spelling : CType → String
  | scalar _ s _ => s
  | pointer _ s _ => s
  | record s _ => s
  | enumeration s _ => s
  | prototype _ _ s _ => s
  | typedef name _ _ => name
  | array _ _ s _ => s

def source : CType → Pairing CType
  | scalar _ _ p => p
  | pointer _ _ p => p
  | record _ p => p
  | enumeration _ p => p
  | prototype _ _ _ p => p
  | typedef _ _ p => p
  | array _ _ _ p => p

def kind : CType → CKind
  | scalar k _ _ => .scalar k
  | pointer .. => .pointer
  | record .. => .record
  | enumeration .. => .enumeration
  | prototype .. => .prototype
  | typedef .. => .typedef
  | array _ (some _) _ _ => .constantArray
  | array _ none _ _ => .incompleteArray

/-- Two types are the same when their kinds and spellings are. -/
instance : BEq CType where
  beq a b := a.kind == b.kind && a.spelling == b.spelling

/-! ## Construction -/

/-- A scalar; the spelling may carry qualifiers. -/
def ofScalar (kind : Scalar) (spelling : String) : CType := scalar kind spelling .unpaired

/-- The type `void`. -/
def void : CType := ofScalar .void "void"

/-- Spellings separated by a comma and a blank. -/
def spellings (types : List CType) : String := ", ".intercalate (types.map spelling)

/-- A pointer with a spelling of its own, such as one that is itself `const`. -/
def pointerSpelled (spelling : String) (pointee : CType) : CType :=
  pointer pointee spelling .unpaired

/-- A pointer, spelled with the declarator where C puts it. -/
def pointerTo (pointee : CType) : CType :=
  match pointee with
  | prototype returns params _ _ =>
    pointerSpelled (returns.spelling ++ " (*)(" ++ spellings params ++ ")") pointee
  | _ => pointerSpelled (pointee.spelling ++ " *") pointee

/-- The pointer type of a callback's context slot. -/
def voidPointer : CType := pointerTo void

/-- A struct or union. -/
def ofRecord (spelling : String) : CType := record spelling .unpaired

/-- An enum. -/
def ofEnumeration (spelling : String) : CType := enumeration spelling .unpaired

/-- A function prototype. -/
def function (returns : CType) (params : List CType) : CType :=
  prototype returns params (returns.spelling ++ " (" ++ spellings params ++ ")") .unpaired

/-- A typedef name and the type it stands for. -/
def typedefOf (name : String) (defined : CType) : CType := typedef name defined .unpaired

/-- An array, incomplete when no length is given. -/
def arrayOf (element : CType) (length : Option Nat) : CType :=
  array element length
    (element.spelling ++ "[" ++ (length.map toString).getD "" ++ "]") .unpaired

/-! ## Queries -/

/-- The first type on the chain that is no typedef. -/
def desugared : CType → CType
  | typedef _ defined _ => defined.desugared
  | t => t

/-- The spelling the source used, or the canonical one when none is known to differ. -/
def sourceSpelling (t : CType) : String :=
  match t.source with
  | .written tree => tree.spelling
  | _ => t.spelling

/-- The typedef names on the chain, outermost first. -/
def typedefNames : CType → List String
  | typedef name defined _ => name :: defined.typedefNames
  | _ => []

/-- The typedef names of the type, then those of the tree the source wrote. -/
def sugarNames (t : CType) : List String :=
  t.typedefNames ++
    match t.source with
    | .written tree => tree.typedefNames
    | _ => []

def pointee? (t : CType) : Option CType :=
  match t.desugared with
  | pointer p _ _ => some p
  | _ => none

def isVoid (t : CType) : Bool := t.desugared.kind == .scalar .void

def isPointer (t : CType) : Bool := t.pointee?.isSome

/-- A pointer to `void`, however qualified. -/
def isVoidPointer (t : CType) : Bool := t.pointee?.any isVoid

/-- A pointer to `void` whose pointee bears no qualifier. -/
def isBareVoidPointer (t : CType) : Bool :=
  t.isVoidPointer && t.pointee?.any fun p => p.desugared.spelling == "void"

def recordName? (t : CType) : Option String :=
  match t.desugared with
  | record s _ => some (tagName s)
  | _ => none

def enumName? (t : CType) : Option String :=
  match t.desugared with
  | enumeration s _ => some (tagName s)
  | _ => none

/-- Return and parameter types of a prototype, through typedefs. -/
def prototype? (t : CType) : Option (CType × List CType) :=
  match t.desugared with
  | prototype returns params _ _ => some (returns, params)
  | _ => none

/-! ## Pairing -/

/-- What a node of this spelling remembers of the tree the source wrote for it. -/
def pairing (spelling : String) (tree : CType) : Pairing CType :=
  if spelling = tree.spelling then .same else .written tree

mutual
/--
The canonical tree with every node paired with its counterpart in the tree the source wrote.

Typedefs of the written tree are looked through before each descent; below a node whose counterpart
is built differently, or takes another number of parameters, nothing is paired.
-/
def pairWith : CType → CType → CType
  | scalar k s _, tree => scalar k s (pairing s tree)
  | pointer p s _, tree =>
    pointer (match tree.desugared with
      | pointer q _ _ => p.pairWith q
      | _ => p) s (pairing s tree)
  | record s _, tree => record s (pairing s tree)
  | enumeration s _, tree => enumeration s (pairing s tree)
  | prototype r ps s _, tree =>
    match tree.desugared with
    | prototype r' ps' _ _ =>
      if ps.length = ps'.length then
        prototype (r.pairWith r') (pairAll ps ps') s (pairing s tree)
      else prototype r ps s (pairing s tree)
    | _ => prototype r ps s (pairing s tree)
  | typedef name d _, tree => typedef name d (pairing name tree)
  | array e n s _, tree =>
    array (match tree.desugared with
      | array e' _ _ _ => e.pairWith e'
      | _ => e) n s (pairing s tree)

/-- Pairs types position by position. -/
def pairAll : List CType → List CType → List CType
  | t :: ts, tree :: trees => t.pairWith tree :: pairAll ts trees
  | ts, _ => ts
end

end CType

end JniBridge
