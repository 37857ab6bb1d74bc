import JniBridge.Text.Split
/-
A small file system as a value: folders and files under one root, named by lists of components.

Paths are texts.  One that starts with a slash is absolute; the others are joined behind one.  Looking a
path up walks its components: an empty one or a full stop stays where it is, two full stops go up, and
every step starts in a folder that exists.  There are no links.
-/

namespace JniBridge

/-- A place in the tree, from the root down. -/
abbrev Place := List String

structure FileSystem where
  folders : List Place
  files : List (Place × String)

namespace FileSystem

/-- Only the root. -/
def empty : FileSystem := ⟨[[]], []⟩

def isFolder (fs : FileSystem) (p : Place) : Bool := fs.folders.contains p

def isFile (fs : FileSystem) (p : Place) : Bool := fs.files.any fun f => f.1 == p

/-! ## Paths -/

/-- The path starts at the root. -/
def isAbsolute (path : String) : Bool := path.toList.head? == some '/'

/-- The components of a path, empty ones included. -/
def components (path : String) : List String :=
  (Text.pieces (· == '/') path.toList).map String.ofList

/-- A path behind another; an absolute one stands by itself. -/
def join (base path : String) : String :=
  if isAbsolute path then path
  else if base.isEmpty || base.toList.getLast? == some '/' then base ++ path
  else base ++ "/" ++ path

/-! ## Looking up -/

/-- One step from a folder. -/
def step (p : Place) (component : String) : Place :=
  if component = "" ∨ component = "." then p
  else if component = ".." then p.dropLast
  else p ++ [component]

/-- Follows components; every step needs a folder to start in. -/
def walk (fs : FileSystem) (start : Place) : List String → Option Place
  | [] => some start
  | c :: cs => if fs.isFolder start then walk fs (step start c) cs else none

/-- Where a path leads, whether or not something is there. -/
def locate (fs : FileSystem) (path : String) : Option Place := fs.walk [] (components path)

/-- A file or a folder is there. -/
def pathExists (fs : FileSystem) (path : String) : Bool :=
  (fs.locate path).any fun p => fs.isFolder p || fs.isFile p

/-- The content of a file. -/
def read? (fs : FileSystem) (path : String) : Option String :=
  (fs.locate path).bind fun p => fs.files.lookup p

/-! ## Changing -/

/-- Makes the folder at a place, unless a file is there. -/
def makeFolder (fs : FileSystem) (p : Place) : Option FileSystem :=
  if fs.isFolder p then some fs
  else if fs.isFile p then none
  else some { fs with folders := p :: fs.folders }

/-- Makes all folders on the way along components. -/
def makeFoldersFrom (fs : FileSystem) (start : Place) : List String → Option FileSystem
  | [] => some fs
  | c :: cs => do
    let fs' ← fs.makeFolder (step start c)
    makeFoldersFrom fs' (step start c) cs

/-- Makes a folder and those above it. -/
def makeFolders (fs : FileSystem) (path : String) : Option FileSystem :=
  fs.makeFoldersFrom [] (components path)

/-- Writes a file in a folder that exists, over the content it had. -/
def write (fs : FileSystem) (path content : String) : Option FileSystem := do
  let p ← fs.locate path
  if fs.isFolder p || !fs.isFolder p.dropLast then none
  else some { fs with files := (p, content) :: fs.files.filter fun f => f.1 != p }

/-- The path without its last component. -/
def parent (path : String) : String := "/".intercalate (components path).dropLast

/-- Makes an empty file and the folders above it. -/
def makeFile (fs : FileSystem) (path : String) : Option FileSystem := do
  let fs' ← fs.makeFolders (parent path)
  fs'.write path ""

end FileSystem

end JniBridge
