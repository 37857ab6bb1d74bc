import JniBridge.FileSystem
/-
Header files: where they are found, and the one file that a set of them is read through.

A relative header is looked for in the base folder and then in each include folder; one that is nowhere
is taken to be in the base folder, so that whoever reads it can say what is missing.  A single header is
read directly, several through a wrapper file that includes them all.
-/

namespace JniBridge

/-- Headers that are read together. -/
structure Partition where
  headers : List String
  /-- The files whose declarations are taken; all headers, when none is named. -/
  traverse : List String := []
  clangArgs : List String := []
deriving DecidableEq, Repr

namespace Header

/-- Where a header is found. -/
def resolve (fs : FileSystem) (base : String) (includes : List String) (path : String) : String :=
  if FileSystem.isAbsolute path then path
  else
    let tried := (base :: includes).map fun folder => FileSystem.join folder path
    (tried.find? fs.pathExists).getD (FileSystem.join base path)

/-- The line that includes a header. -/
def includeLine (path : String) : String := "#include \"" ++ path ++ "\"\n"

/-- The folder of all wrapper files. -/
def wrapperFolder (temporary : String) : String := FileSystem.join temporary "bnd_jni_wrappers"

/-- The wrapper file of the partition at an index. -/
def wrapperPath (temporary : String) (index : Nat) : String :=
  FileSystem.join (wrapperFolder temporary) ("partition" ++ toString index ++ "_wrapper.c")

/-- Why a wrapper file could not be made. -/
inductive WrapperError where
  | folder | file
deriving DecidableEq, Repr

end Header

namespace Partition

open Header

/-- The files whose declarations are taken. -/
def traverseFiles (p : Partition) : List String :=
  if p.traverse.isEmpty then p.headers else p.traverse

/-- What the wrapper file includes. -/
def wrapperContent (p : Partition) (fs : FileSystem) (base : String) (includes : List String) :
    String :=
  String.join (p.headers.map fun h => includeLine (resolve fs base includes h))

/-- The file to read, and the file system with the wrapper file in it if one is needed. -/
def inputFile (p : Partition) (fs : FileSystem) (temporary : String) (index : Nat)
    (base : String) (includes : List String) : Except WrapperError (String × FileSystem) :=
  match p.headers with
  | [single] => .ok (resolve fs base includes single, fs)
  | _ =>
    match fs.makeFolders (wrapperFolder temporary) with
    | none => .error .folder
    | some fs' =>
      let path := wrapperPath temporary index
      match fs'.write path (p.wrapperContent fs' base includes) with
      | none => .error .file
      | some fs'' => .ok (path, fs'')

end Partition

end JniBridge
