import SasOutline.Coverage
import SasOutline.FileSystem
import SasOutline.LineageGraph
import SasOutline.MacroFolding

/-!
# Programs

A program is a text that was scanned and folded into a tree.  A program loaded
from a file also knows its path, and the paths inside it that lead somewhere are
resolved relative to the directory of the file.
-/

namespace SasOutline

structure Program where
  name : Option String
  path : Option String
  /-- The number of line feeds. -/
  lines : Nat
  lastEdit : Option Nat
  contents : List (Spanned Node)
  counts : ScanCounts
  deriving DecidableEq

inductive ProgramError where
  | unreadable (path : String) (cause : FileError)
  | invalidUtf8 (path : String)
  deriving DecidableEq, Repr

namespace ProgramError

def message : ProgramError → String
  | unreadable path cause => "Cannot read " ++ path ++ ": " ++ cause.message
  | invalidUtf8 path => path ++ " is not valid UTF-8"

/-- The messages of the errors behind this one. -/
def causes : ProgramError → List String
  | unreadable _ cause => [cause.message]
  | invalidUtf8 _ => []

end ProgramError

/-- Fill in where inclusions and path libraries lead. -/
def resolveNodes (resolve : String → Option String) :
    List (Spanned Node) → List (Spanned Node)
  | [] => []
  | ⟨.inclusion statement, span⟩ :: rest =>
      ⟨.inclusion { statement with resolved := resolve statement.path }, span⟩ ::
        resolveNodes resolve rest
  | ⟨.libraryBinding binding, span⟩ :: rest =>
      let resolved :=
        match binding.target with
        | .path location => resolve location
        | .pointer _ => none
      ⟨.libraryBinding { binding with resolved := resolved }, span⟩ ::
        resolveNodes resolve rest
  | ⟨.macroDefinition heading contents terminated, span⟩ :: rest =>
      ⟨.macroDefinition heading (resolveNodes resolve contents) terminated, span⟩ ::
        resolveNodes resolve rest
  | item :: rest => item :: resolveNodes resolve rest

namespace Program

def parse (grammar : Grammar) (text : String) (name : Option String) : Program :=
  let scan := grammar.scan text
  { name := name
    path := none
    lines := text.toList.count '\n'
    lastEdit := none
    contents := foldMacros scan.nodes
    counts := scan.counts }

/-- Where a location inside the program at `path` leads. -/
def resolveFrom (system : FileSystem) (path location : String) : Option String :=
  system.canonicalPath (SourcePath.beside path location)

def load (system : FileSystem) (grammar : Grammar) (path : String) :
    Except ProgramError Program :=
  match system.read path with
  | .error cause => .error (.unreadable path cause)
  | .ok bytes =>
      match String.fromUTF8? bytes with
      | none => .error (.invalidUtf8 path)
      | some text =>
          let program := parse grammar text (SourcePath.fileStem? path)
          .ok { program with
            path := some path
            lastEdit := system.lastEdit path
            contents := resolveNodes (resolveFrom system path) program.contents }

def objects (program : Program) : List (Spanned Node) :=
  SasOutline.objects program.contents

def objectsOf (program : Program) (kind : NodeKind) : List (Spanned Node) :=
  program.objects.filter fun item => item.kind == kind

def macroDefinitions (program : Program) : List (Spanned Node) :=
  SasOutline.macroDefinitions program.contents

def summary (program : Program) : List (NodeKind × Nat) :=
  countKinds program.contents

def lineage (program : Program) : LineageGraph :=
  .ofNodes program.contents

end Program

end SasOutline
