/-!
# Paths as text

Paths are taken apart by their slashes alone.  Repeated slashes, slashes at the
end and the component `.` anywhere but in front add nothing to a path and are
skipped when its last component is looked for.

The functions work on the path read backwards, where the last component comes
first.
-/

namespace SasOutline.SourcePath

/-- Drop what adds nothing at the end of a path.  The slash of the root and a
leading `.` stay. -/
def trimReversed : List Char → List Char
  | '/' :: ch :: rest => trimReversed (ch :: rest)
  | '.' :: '/' :: rest => trimReversed ('/' :: rest)
  | reversed => reversed
termination_by reversed => reversed.length

def reversedPath (path : String) : List Char := trimReversed path.toList.reverse

/-- The last component, unless the path ends in `.`, in `..` or at the root. -/
def fileName? (path : String) : Option String :=
  let name := String.ofList ((reversedPath path).takeWhile (· != '/')).reverse
  if name = "" ∨ name = "." ∨ name = ".." then none else some name

/-- A file name without its extension.  A dot at the front of a name opens no
extension. -/
def stemOf (name : String) : String :=
  match (name.toList.reverse.dropWhile (· != '.')).drop 1 with
  | [] => name
  | stem => String.ofList stem.reverse

def fileStem? (path : String) : Option String :=
  (fileName? path).map stemOf

/-- The path without its last component; the empty path and the root have
none. -/
def parent? (path : String) : Option String :=
  let reversed := reversedPath path
  if reversed = [] ∨ reversed = ['/'] then none
  else some (String.ofList (trimReversed (reversed.dropWhile (· != '/'))).reverse)

/-- A location relative to a directory.  An absolute location stands for
itself. -/
def join (directory location : String) : String :=
  if location.toList.head? = some '/' ∨ directory = "" then location
  else if directory.toList.getLast? = some '/' then directory ++ location
  else directory ++ "/" ++ location

/-- A location relative to the directory of the file at `path`. -/
def beside (path location : String) : String :=
  join ((parent? path).getD ".") location

end SasOutline.SourcePath
