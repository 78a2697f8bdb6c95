import SasOutline.DynamicName
import SasOutline.QuotedText

/-!
# Statements outside of steps

Line ends, macro variable definitions, file inclusions and library bindings.
The value of a macro variable is kept word for word.  A path is stored as
written; the file or directory it leads to is filled in when the program was
loaded from a file.
-/

namespace SasOutline

/-- `%let year = 2024;`, where the value is missing when nothing stands between
the equals sign and the semicolon. -/
structure MacroVariableDefinition where
  name : DynamicName
  value : Option String
  deriving DecidableEq, Repr

/-- `%include "common/setup.sas";` -/
structure Inclusion where
  path : String
  resolved : Option String
  deriving DecidableEq, Repr

inductive LibraryTarget where
  | path (location : String)
  | pointer (library : DynamicName)
  deriving DecidableEq, Repr

/-- `libname mart "/data/mart";` or `libname mart (staging);` -/
structure LibraryBinding where
  library : DynamicName
  target : LibraryTarget
  resolved : Option String
  deriving DecidableEq, Repr

namespace Cursor

/-- A line feed, with a carriage return in front of it or without one. -/
def newline? (cursor : Cursor) : Option Cursor :=
  cursor.char? '\n' <|> (cursor.char? '\r').bind (·.char? '\n')

/-- Blanks and the semicolon that ends a statement. -/
def semicolon? (cursor : Cursor) : Option Cursor :=
  cursor.skipSpace.char? ';'

/-- The text up to the next semicolon, unless it is empty. -/
def letValue (cursor : Cursor) : Option String × Cursor :=
  match cursor.run? (· != ';') with
  | some stop => (some (cursor.stringUntil stop), stop)
  | none => (none, cursor)

def macroVariableDefinition? (cursor : Cursor) :
    Option (MacroVariableDefinition × Cursor) := do
  let keyword ← cursor.keyword? "%let"
  let start ← keyword.space?
  let (name, stop) ← start.dynamicName?
  let equals ← stop.skipSpace.char? '='
  let (value, stop) := equals.letValue
  let stop ← stop.char? ';'
  return (⟨name, value⟩, stop)

def inclusion? (cursor : Cursor) : Option (Inclusion × Cursor) := do
  let keyword ← cursor.keyword? "%include"
  let start ← keyword.space?
  let (path, stop) ← start.quotedPath?
  let stop ← stop.semicolon?
  return (⟨path, none⟩, stop)

def pathTarget? (cursor : Cursor) : Option (LibraryTarget × Cursor) := do
  let (path, stop) ← cursor.quotedPath?
  let stop ← stop.semicolon?
  return (.path path, stop)

def pointerTarget? (cursor : Cursor) : Option (LibraryTarget × Cursor) := do
  let opened ← cursor.char? '('
  let (library, stop) ← opened.skipSpace.dynamicName?
  let closed ← stop.skipSpace.char? ')'
  let stop ← closed.semicolon?
  return (.pointer library, stop)

def libraryBinding? (cursor : Cursor) : Option (LibraryBinding × Cursor) := do
  let keyword ← cursor.word? "libname"
  let start ← keyword.space?
  let (library, stop) ← start.dynamicName?
  let start ← stop.space?
  let (target, stop) ← start.pathTarget? <|> start.pointerTarget?
  return (⟨library, target, none⟩, stop)

end Cursor

end SasOutline
