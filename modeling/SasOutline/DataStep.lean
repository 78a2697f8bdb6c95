import SasOutline.DatasetReference
import SasOutline.GlobalStatements

/-!
# Data steps

A data step writes the datasets of its first statement and reads those of its
`set` or `merge` statement.  The header is the text in front of the first word
`set` or `merge`, and it is empty when `run` comes before any such word.  The
body is the text between the header, or the statement with the inputs where one
was read, and the word `run`.
-/

namespace SasOutline

structure DataStep where
  outputs : List DatasetReference
  inputs : List DatasetReference
  header : String
  body : String
  options : Option (List DatasetOption)
  deriving DecidableEq, Repr

namespace Cursor

/-- A slash and the options of the step behind it; there may be none. -/
def stepOptions? (cursor : Cursor) : Option (List DatasetOption × Cursor) := do
  let slash ← cursor.skipSpace.char? '/'
  return separated datasetOption? space? slash.skipSpace

/-- The text up to the first `set` or `merge`, provided that no `run` comes
earlier. -/
def stepHeader? (cursor : Cursor) : Option (String × Cursor) := do
  let found ← cursor.find? Pattern.setOrMerge
  if (cursor.findBefore? Pattern.run found.start).isSome then none
  else return (cursor.stringUntil found.start, found.start)

def setStatement? (cursor : Cursor) : Option (List DatasetReference × Cursor) := do
  let start := cursor.skipSpace
  let keyword ← start.word? "set" <|> start.word? "merge"
  let (inputs, stop) := keyword.skipSpace.datasetList
  let stop ← stop.semicolon?
  return (inputs, stop)

/-- The statement that opens a step: its outputs and options. -/
def dataStatement? (cursor : Cursor) :
    Option ((List DatasetReference × Option (List DatasetOption)) × Cursor) := do
  let keyword ← cursor.word? "data"
  let start ← keyword.space?
  let (outputs, stop) := start.datasetList
  let (options, stop) := optional stop stop.stepOptions?
  let stop ← stop.semicolon?
  return ((outputs, options), stop)

/-- A header that is read ends in front of a `set` or `merge`; whether that word
opens a statement with inputs is decided afterwards. -/
def dataStep? (cursor : Cursor) : Option (DataStep × Cursor) := do
  let ((outputs, options), start) ← cursor.dataStatement?
  let (header, stop) := optional start start.stepHeader?
  let (inputs, bodyStart) := optional stop stop.setStatement?
  let run ← bodyStart.find? Pattern.run
  let stop ← run.stop.semicolon?
  return (⟨outputs, inputs.getD [], header.getD "", bodyStart.stringUntil run.start,
    options⟩, stop)

end Cursor

end SasOutline
