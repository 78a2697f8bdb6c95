import SasOutline.Command

/-!
# The command line

The first argument names a command, the others are files and options in any
order.  Short options may be written together, the value of an option may follow
in the same argument or in the next one, and everything behind `--` is a file.
An option must not be given twice.

An invocation that cannot be understood ends with exit code 2, a command that
fails with exit code 1.
-/

namespace SasOutline

inductive CommandName where
  | summary
  | parse
  | objects
  | lineage
  deriving DecidableEq, Repr

def CommandName.ofText? : String → Option CommandName
  | "summary" => some .summary
  | "parse" => some .parse
  | "objects" => some .objects
  | "lineage" => some .lineage
  | _ => none

/-- What the arguments behind the command say. -/
structure CommandArguments where
  files : List String
  noMacros : Bool
  pretty : Bool
  kind : Option String
  deriving DecidableEq, Repr

/-- Why arguments do not make a command, or make a request for help. -/
inductive ArgumentStop where
  | usageError
  | help
  | version
  deriving DecidableEq, Repr

structure Invocation where
  command : CommandName
  arguments : CommandArguments
  deriving DecidableEq, Repr

namespace CommandArguments

def empty : CommandArguments := ⟨[], false, false, none⟩

def addFile (arguments : CommandArguments) (file : String) :
    Except ArgumentStop CommandArguments :=
  if file = "" then .error .usageError
  else .ok { arguments with files := arguments.files ++ [file] }

def setPretty (arguments : CommandArguments) : Except ArgumentStop CommandArguments :=
  if arguments.pretty then .error .usageError else .ok { arguments with pretty := true }

def setNoMacros (arguments : CommandArguments) : Except ArgumentStop CommandArguments :=
  if arguments.noMacros then .error .usageError else .ok { arguments with noMacros := true }

def setKind (arguments : CommandArguments) (kind : String) :
    Except ArgumentStop CommandArguments :=
  if arguments.kind.isSome then .error .usageError
  else .ok { arguments with kind := some kind }

end CommandArguments

/-- How an argument changes the ones before it. -/
inductive ArgumentEffect where
  | done (arguments : CommandArguments)
  /-- The next argument is the value of the kind option. -/
  | needsKind (arguments : CommandArguments)

/-- The options of an argument with a single dash.  Only the objects command
knows the kind option, which takes the rest of the argument as its value. -/
def readShortOptions (command : CommandName) (arguments : CommandArguments) :
    List Char → Except ArgumentStop ArgumentEffect
  | [] => .ok (.done arguments)
  | 'p' :: rest =>
      match arguments.setPretty with
      | .ok arguments => readShortOptions command arguments rest
      | .error stop => .error stop
  | 'h' :: _ => .error .help
  | 'k' :: rest =>
      if command = .objects then
        match rest with
        | [] => .ok (.needsKind arguments)
        | '=' :: value => .done <$> arguments.setKind (String.ofList value)
        | value => .done <$> arguments.setKind (String.ofList value)
      else .error .usageError
  | _ :: _ => .error .usageError

def readLongOption (command : CommandName) (arguments : CommandArguments)
    (option : List Char) : Except ArgumentStop ArgumentEffect :=
  let name := String.ofList (option.takeWhile (· != '='))
  match name, option.dropWhile (· != '=') with
  | "pretty", [] => .done <$> arguments.setPretty
  | "no-macros", [] => .done <$> arguments.setNoMacros
  | "help", [] => .error .help
  | "kind", value =>
      if command = .objects then
        match value with
        | [] => .ok (.needsKind arguments)
        | _ :: value => .done <$> arguments.setKind (String.ofList value)
      else .error .usageError
  | _, _ => .error .usageError

/-- An argument with a dash in front is an option; a lone dash is a file. -/
def isOption (argument : String) : Bool :=
  match argument.toList with
  | '-' :: _ :: _ => true
  | _ => false

def readArgument (command : CommandName) (arguments : CommandArguments)
    (argument : String) : Except ArgumentStop ArgumentEffect :=
  match argument.toList with
  | '-' :: '-' :: option => readLongOption command arguments option
  | '-' :: ch :: rest => readShortOptions command arguments (ch :: rest)
  | _ => .done <$> arguments.addFile argument

mutual

def readArguments (command : CommandName) (arguments : CommandArguments) :
    List String → Except ArgumentStop CommandArguments
  | [] => .ok arguments
  | "--" :: rest => rest.foldlM CommandArguments.addFile arguments
  | argument :: rest =>
      match readArgument command arguments argument with
      | .error stop => .error stop
      | .ok (.done arguments) => readArguments command arguments rest
      | .ok (.needsKind arguments) => readKindValue command arguments rest

/-- The value of the kind option must not look like an option itself. -/
def readKindValue (command : CommandName) (arguments : CommandArguments) :
    List String → Except ArgumentStop CommandArguments
  | [] => .error .usageError
  | value :: rest =>
      if isOption value then .error .usageError
      else
        match arguments.setKind value with
        | .error stop => .error stop
        | .ok arguments => readArguments command arguments rest

end

def Invocation.ofArguments : List String → Except ArgumentStop Invocation
  | [] => .error .usageError
  | first :: rest =>
      match CommandName.ofText? first with
      | some command => do
          let arguments ← readArguments command .empty rest
          return ⟨command, arguments⟩
      | none =>
          if first = "--version" ∨ first.toList.take 2 = ['-', 'V'] then .error .version
          else if first = "help" ∨ first = "--help" ∨ first.toList.take 2 = ['-', 'h'] then
            .error .help
          else .error .usageError

structure RunOutcome where
  code : Nat
  stdout : String
  stderr : String
  deriving DecidableEq, Repr

namespace RunOutcome

def success (printed : String) : RunOutcome := ⟨0, printed ++ "\n", ""⟩

def failure (error : CommandError) : RunOutcome := ⟨1, "", error.message ++ "\n"⟩

end RunOutcome

def versionText : String := "sasdocs 0.2.0"

def usageText : String :=
  "Usage: sasdocs <summary|parse|objects|lineage> [FILES]... [-p|--pretty] [--no-macros]\n" ++
    "       sasdocs objects [-k|--kind KIND]"

def ArgumentStop.outcome : ArgumentStop → RunOutcome
  | usageError => ⟨2, "", ""⟩
  | help => .success usageText
  | version => .success versionText

/-- Standard input is read only when no files are named; none stands for a
terminal. -/
def Invocation.input (invocation : Invocation) (stdin : Option ByteArray) :
    Except CommandError CommandInput :=
  let arguments := invocation.arguments
  let reading (text : Option String) : CommandInput :=
    ⟨arguments.files, text, arguments.noMacros, arguments.pretty⟩
  if !arguments.files.isEmpty then .ok (reading none)
  else
    match stdin with
    | none => .ok (reading none)
    | some bytes =>
        match String.fromUTF8? bytes with
        | some text => .ok (reading (some text))
        | none => .error (.input "stream did not contain valid UTF-8")

def warningLine (defect : LineageDefect) : String :=
  "warning: " ++ defect.message ++ "\n"

def Invocation.run (invocation : Invocation) (system : FileSystem)
    (stdin : Option ByteArray) : RunOutcome :=
  match invocation.input stdin with
  | .error error => .failure error
  | .ok input =>
      let printed (result : Except CommandError String) : RunOutcome :=
        match result with
        | .ok text => .success text
        | .error error => .failure error
      match invocation.command with
      | .summary => printed (input.summary system)
      | .parse => printed (input.tree system)
      | .objects => printed (input.objects system invocation.arguments.kind)
      | .lineage =>
          match input.lineage system with
          | .ok report =>
              ⟨0, report.printed ++ "\n", String.join (report.defects.map warningLine)⟩
          | .error error => .failure error

def runCommandLine (arguments : List String) (system : FileSystem)
    (stdin : Option ByteArray) : RunOutcome :=
  match Invocation.ofArguments arguments with
  | .error stop => stop.outcome
  | .ok invocation => invocation.run system stdin

end SasOutline
