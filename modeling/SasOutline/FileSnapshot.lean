import SasOutline.CommandLine

/-!
# Snapshots of a file system

A command asks only about the files it is given and about the locations their
programs mention.  A snapshot records the answers to these questions, so that a
run can be decided without looking at the file system again.
-/

namespace SasOutline

/-- The answers recorded for some paths. -/
structure FileSnapshot where
  contents : List (String × Except FileError ByteArray)
  canonicalPaths : List (String × String)
  edits : List (String × Nat)

/-- A path without a record is answered as if nothing were there. -/
def FileSnapshot.toFileSystem (snapshot : FileSnapshot) : FileSystem where
  read := fun path => (snapshot.contents.lookup path).getD (.error .notFound)
  canonicalPath := fun path => snapshot.canonicalPaths.lookup path
  lastEdit := fun path => snapshot.edits.lookup path

/-- The location that a node mentions. -/
def mentionedLocation? (item : Spanned Node) : Option String :=
  match item.node with
  | .inclusion statement => some statement.path
  | .libraryBinding binding =>
      match binding.target with
      | .path location => some location
      | .pointer _ => none
  | _ => none

/-- The paths that a file with the given contents asks to be resolved. -/
def mentionedPaths (grammar : Grammar) (path : String) (bytes : ByteArray) : List String :=
  match String.fromUTF8? bytes with
  | none => []
  | some text =>
      (Program.parse grammar text none).objects.filterMap fun item =>
        (mentionedLocation? item).map (SourcePath.beside path)

end SasOutline
