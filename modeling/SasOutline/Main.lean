import SasOutline.FileSnapshot

/-!
# The program

The only module with effects.  It reads the files a command names, resolves the
paths their programs mention, and leaves every decision to the command line.
-/

namespace SasOutline

/-- The error number of the system, which some queries report with a negative
sign. -/
def errorNumber (code : UInt32) : Nat :=
  if code.toNat < 0x80000000 then code.toNat else 0x100000000 - code.toNat

def fileErrorOf (error : IO.Error) : FileError :=
  match error with
  | .noFileOrDirectory _ _ _ => .notFound
  | .inappropriateType _ code _ =>
      if errorNumber code = 21 then .isDirectory else .notDirectory
  | .illegalOperation code _ =>
      if errorNumber code = 21 then .isDirectory else .other error.toString
  | _ => .other error.toString

def readFile (path : String) : IO (Except FileError ByteArray) := do
  try
    return .ok (← IO.FS.readBinFile path)
  catch error =>
    return .error (fileErrorOf error)

def resolvePath (path : String) : IO (Option (String × String)) := do
  try
    return some (path, (← IO.FS.realPath path).toString)
  catch _ =>
    return none

def modificationTime (path : String) : IO (Option (String × Nat)) := do
  try
    let file ← IO.FS.realPath path
    let seconds := (← file.metadata).modified.sec
    return if seconds < 0 then none else some (path, seconds.toNat)
  catch _ =>
    return none

def snapshotOf (grammar : Grammar) (files : List String) : IO FileSnapshot := do
  let mut contents := []
  let mut canonicalPaths := []
  let mut edits := []
  for path in files do
    let answer ← readFile path
    contents := contents ++ [(path, answer)]
    if let .ok bytes := answer then
      let resolved ← (mentionedPaths grammar path bytes).mapM resolvePath
      canonicalPaths := canonicalPaths ++ resolved.filterMap id
      edits := edits ++ (← modificationTime path).toList
  return ⟨contents, canonicalPaths, edits⟩

def readStandardInput : IO (Option ByteArray) := do
  let stream ← IO.getStdin
  if ← stream.isTty then return none
  return some (← stream.readBinToEnd)

end SasOutline

open SasOutline in
def main (arguments : List String) : IO UInt32 := do
  let outcome ←
    match Invocation.ofArguments arguments with
    | .error stop => pure stop.outcome
    | .ok invocation => do
        let grammar := if invocation.arguments.noMacros then .withoutMacros else .full
        let snapshot ← snapshotOf grammar invocation.arguments.files
        let stdin ←
          if invocation.arguments.files.isEmpty then readStandardInput else pure none
        pure (invocation.run snapshot.toFileSystem stdin)
  IO.print outcome.stdout
  IO.eprint outcome.stderr
  return outcome.code.toUInt32
