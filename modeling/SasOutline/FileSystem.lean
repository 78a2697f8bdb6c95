import SasOutline.SourcePath

/-!
# File systems

What a program needs from a file system are three questions about a path: the
bytes of the file, the canonical path and the time of the last change.  A file
tree held in memory answers them by walking its directories component by
component.
-/

namespace SasOutline

inductive FileError where
  | notFound
  | notDirectory
  | isDirectory
  /-- Any other failure, in the words of the system. -/
  | other (message : String)
  deriving DecidableEq, Repr

def FileError.message : FileError → String
  | notFound => "No such file or directory (os error 2)"
  | notDirectory => "Not a directory (os error 20)"
  | isDirectory => "Is a directory (os error 21)"
  | other message => message

/-- `lastEdit` is counted in seconds. -/
structure FileSystem where
  read : String → Except FileError ByteArray
  canonicalPath : String → Option String
  lastEdit : String → Option Nat

/-- The files below a directory with the canonical path `root`.  Each file is
given by the names that lead to it; the directories are those the files need. -/
structure FileTree where
  root : String
  files : List (List String × ByteArray)

namespace FileTree

/-- The components of a path that name something. -/
def names (path : String) : List String :=
  ((path.toList.splitOn '/').map String.ofList).filter fun name => name != "" && name != "."

def ofFiles (root : String) (files : List (String × ByteArray)) : FileTree :=
  ⟨root, files.map fun (path, bytes) => (names path, bytes)⟩

def bytes? (tree : FileTree) (place : List String) : Option ByteArray :=
  (tree.files.find? fun file => file.1 == place).map Prod.snd

def isDirectory (tree : FileTree) (place : List String) : Bool :=
  place.isEmpty || tree.files.any fun file => place.isPrefixOf file.1 && place != file.1

/-- One step from a place in the tree.  Only a directory can be left, also by a
component that leads nowhere else. -/
def enter (tree : FileTree) (place : List String) (component : String) :
    Except FileError (List String) :=
  if !tree.isDirectory place then .error .notDirectory
  else if component = "" ∨ component = "." then .ok place
  else if component = ".." then .ok place.dropLast
  else
    let target := place ++ [component]
    if tree.isDirectory target || (tree.bytes? target).isSome then .ok target
    else .error .notFound

/-- An absolute path that names no directory below the root of the system. -/
def isSystemRoot (path : String) : Bool :=
  path.toList.head? == some '/' && (names path).all (· == "..")

/-- The place a relative path leads to.  The tree holds nothing at absolute
paths. -/
def locate (tree : FileTree) (path : String) : Except FileError (List String) :=
  if path = "" ∨ path.toList.head? = some '/' then .error .notFound
  else ((path.toList.splitOn '/').map String.ofList).foldlM (enter tree) []

def read (tree : FileTree) (path : String) : Except FileError ByteArray :=
  if isSystemRoot path then .error .isDirectory
  else do
    let place ← tree.locate path
    if tree.isDirectory place then .error .isDirectory
    else
      match tree.bytes? place with
      | some bytes => .ok bytes
      | none => .error .notFound

def canonicalPath (tree : FileTree) (path : String) : Option String :=
  if isSystemRoot path then some "/"
  else
    match tree.locate path with
    | .ok place => some ("/".intercalate (tree.root :: place))
    | .error _ => none

/-- The file system of a tree, where every file was last changed at the start of
the epoch. -/
def toFileSystem (tree : FileTree) : FileSystem where
  read := tree.read
  canonicalPath := tree.canonicalPath
  lastEdit := fun path =>
    match tree.locate path with
    | .ok _ => some 0
    | .error _ => none

end FileTree

end SasOutline
