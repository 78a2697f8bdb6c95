import SasOutline.ProgramReport

/-!
# Commands

Each command reads one or more programs and prints one JSON value.  A command
fails as a whole: the first program that cannot be loaded decides the error, and
an unknown kind is reported before any program is read.
-/

namespace SasOutline

/-- The programs a command works on.  The text from standard input is used when
no files are named. -/
structure CommandInput where
  files : List String
  stdin : Option String
  noMacros : Bool
  pretty : Bool
  deriving DecidableEq, Repr

inductive CommandError where
  | program (cause : ProgramError)
  | input (message : String)
  | noInput
  | unknownKind (name : String)
  deriving DecidableEq, Repr

namespace CommandError

def message : CommandError → String
  | program cause => cause.message
  | input message => "IO error: " ++ message
  | noInput => "No input provided. Pass SAS files or pipe a program to stdin."
  | unknownKind name =>
      "Unknown kind: '" ++ name ++ "'\nExpected one of: " ++
        ", ".intercalate (NodeKind.all.map NodeKind.name)

/-- The messages of the errors behind this one, nearest first. -/
def causes : CommandError → List String
  | program cause => cause.message :: cause.causes
  | input message => [message]
  | noInput => []
  | unknownKind _ => []

end CommandError

/-- The outcome of the lineage command: the printed graph and the statements
left out of it. -/
structure LineageReport where
  printed : String
  defects : List LineageDefect
  deriving DecidableEq, Repr

namespace CommandInput

def grammar (input : CommandInput) : Grammar :=
  if input.noMacros then .withoutMacros else .full

def loadFile (input : CommandInput) (system : FileSystem) (path : String) :
    Except CommandError Program :=
  (Program.load system input.grammar path).mapError .program

/-- The programs in the order of the files, or the one from standard input. -/
def programs (input : CommandInput) (system : FileSystem) :
    Except CommandError (List Program) :=
  if input.files.isEmpty then
    match input.stdin with
    | some text => .ok [.parse input.grammar text (some "<stdin>")]
    | none => .error .noInput
  else input.files.mapM (input.loadFile system)

def summary (input : CommandInput) (system : FileSystem) : Except CommandError String := do
  let programs ← input.programs system
  return (Json.ofList Program.infoJson programs).print input.pretty

def tree (input : CommandInput) (system : FileSystem) : Except CommandError String := do
  let programs ← input.programs system
  return (Json.ofList Program.treeJson programs).print input.pretty

/-- The kind named by an option, which must exist when it is given. -/
def kindFilter : Option String → Except CommandError (Option NodeKind)
  | none => .ok none
  | some name =>
      match NodeKind.ofName? name with
      | some kind => .ok (some kind)
      | none => .error (.unknownKind name)

/-- The objects of a program, of one kind when a kind is given. -/
def selected (kind : Option NodeKind) (program : Program) : List (Spanned Node) :=
  match kind with
  | none => program.objects
  | some kind => program.objectsOf kind

def objects (input : CommandInput) (system : FileSystem) (kindName : Option String) :
    Except CommandError String := do
  let kind ← kindFilter kindName
  let programs ← input.programs system
  return (nodesJson (programs.flatMap (selected kind))).print input.pretty

def combinedLineage (programs : List Program) : LineageGraph :=
  programs.foldl (fun graph program => graph.addNodes program.contents) LineageGraph.empty

def lineage (input : CommandInput) (system : FileSystem) :
    Except CommandError LineageReport := do
  let programs ← input.programs system
  let graph := combinedLineage programs
  return ⟨graph.toJson.print input.pretty, graph.defects⟩

end CommandInput

end SasOutline
