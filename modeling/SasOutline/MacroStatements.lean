import SasOutline.CommentText
import SasOutline.DatasetOption
import SasOutline.GlobalStatements
import SasOutline.LetterCase

/-!
# Macro definitions and macro calls

A macro definition is opened by one statement and closed by another; what lies
between them is read like any other program text.  A call names a macro that is
not a statement of the macro language itself.

Arguments look alike in definitions and calls: a name, then possibly a default
value and a comment that documents the argument.
-/

namespace SasOutline

/-- An equals sign with nothing behind it gives an empty default. -/
structure MacroArgument where
  name : DynamicName
  default : Option String
  doc : Option Comment
  deriving DecidableEq, Repr

/-- The statement that opens a macro definition. -/
structure MacroStart where
  name : DynamicName
  arguments : Option (List MacroArgument)
  options : Option (List DatasetOption)
  deriving DecidableEq, Repr

structure MacroCall where
  name : DynamicName
  arguments : Option (List MacroArgument)
  deriving DecidableEq, Repr

/-- Words of the macro language that never name a macro. -/
def reservedWords : List String :=
  ["let", "macro", "mend", "include", "put", "global", "local", "if", "then", "else",
   "do", "end", "to", "by", "goto", "return", "abort", "symdel", "sysexec"]

/-- A name with a macro variable in it may become anything, so it is never
reserved. -/
def DynamicName.isReserved (name : DynamicName) : Bool :=
  !name.isDynamic && reservedWords.any (equalIgnoringCase name.text)

/-- Characters of a default value that need no quotation. -/
def isDefaultCharacter (ch : Char) : Bool :=
  ch.isAlphanum || ch == '_' || ch == '-' || ch == '@' || ch == '.' || ch == ':'

/-- The length of the run of default characters and path separators at the start
of a text.  A separator with a star behind it ends the run, because it may open
a comment. -/
def defaultRunLength : List Char → Nat
  | [] => 0
  | ch :: rest =>
      if isDefaultCharacter ch || ((ch == '/' || ch == '\\') && rest.head? != some '*') then
        defaultRunLength rest + 1
      else 0

namespace Cursor

def defaultRun? (cursor : Cursor) : Option Cursor :=
  if defaultRunLength cursor.rest = 0 then none
  else some (cursor.skip (defaultRunLength cursor.rest))

/-- The end of one piece of a default value: a plain run, a macro variable or a
quotation. -/
def defaultPiece? (cursor : Cursor) : Option Cursor :=
  cursor.defaultRun? <|> cursor.macroVariable?.map Prod.snd <|>
    cursor.quotedString?.map Prod.snd

theorem defaultPiece?_passes {cursor later : Cursor}
    (h : cursor.defaultPiece? = some later) : cursor.Passes later := by
  rcases orElse_some h with h | ⟨-, h⟩
  · unfold defaultRun? at h
    split at h
    · contradiction
    · next hrun =>
      obtain rfl := Option.some.inj h
      refine skip_passes (Nat.pos_of_ne_zero hrun) ?_
      intro hrest
      simp [hrest, defaultRunLength] at hrun
  rcases orElse_some h with h | ⟨-, h⟩
  · obtain ⟨⟨_, _⟩, hvariable, rfl⟩ := Option.map_eq_some_iff.1 h
    exact macroVariable?_passes hvariable
  · obtain ⟨⟨_, _⟩, hquoted, rfl⟩ := Option.map_eq_some_iff.1 h
    exact quotedString?_passes hquoted

/-- The end of a default value, which may be empty. -/
def defaultEnd (cursor : Cursor) : Cursor :=
  match _ : cursor.defaultPiece? with
  | none => cursor
  | some after => defaultEnd after
termination_by cursor.remaining
decreasing_by exact (defaultPiece?_passes ‹_›).remaining_lt

theorem defaultEnd_of_none {cursor : Cursor} (h : cursor.defaultPiece? = none) :
    cursor.defaultEnd = cursor := by
  rw [defaultEnd]
  split
  · rfl
  · next hsome =>
    rw [h] at hsome
    contradiction

theorem defaultEnd_of_some {cursor after : Cursor} (h : cursor.defaultPiece? = some after) :
    cursor.defaultEnd = after.defaultEnd := by
  rw [defaultEnd]
  split
  · next hnone =>
    rw [h] at hnone
    contradiction
  · next hsome =>
    rw [h] at hsome
    obtain rfl := Option.some.inj hsome
    rfl

/-- An equals sign and the default value behind it. -/
def argumentDefault? (cursor : Cursor) : Option (String × Cursor) := do
  let equals ← cursor.char? '='
  let start := equals.skipSpace
  return (start.stringUntil start.defaultEnd, start.defaultEnd)

def macroArgument? (cursor : Cursor) : Option (MacroArgument × Cursor) := do
  let (name, stop) ← cursor.dynamicName?
  let stop := stop.skipSpace
  let (default, stop) := optional stop stop.argumentDefault?
  let stop := stop.skipSpace
  let (doc, stop) := optional stop stop.comment?
  return (⟨name, default, doc⟩, stop)

/-- Arguments in parentheses, separated by commas. -/
def argumentList? (cursor : Cursor) : Option (List MacroArgument × Cursor) := do
  let opened ← cursor.char? '('
  let (arguments, closing) := separated macroArgument? comma? opened.skipSpace
  let stop ← closing.skipSpace.char? ')'
  return (arguments, stop)

/-- A slash and the options behind it; there may be none. -/
def macroOptions? (cursor : Cursor) : Option (List DatasetOption × Cursor) := do
  let slash ← cursor.skipSpace.char? '/'
  return separated macroOption? space? slash.skipSpace

def macroStart? (cursor : Cursor) : Option (MacroStart × Cursor) := do
  let keyword ← cursor.keyword? "%macro"
  let start ← keyword.space?
  let (name, stop) ← start.dynamicName?
  let (arguments, stop) := optional stop stop.skipSpace.argumentList?
  let (options, stop) := optional stop stop.macroOptions?
  let stop ← stop.semicolon?
  return (⟨name, arguments, options⟩, stop)

/-- The closing statement ends on the line it begins on. -/
def macroEnd? (cursor : Cursor) : Option Cursor := do
  let keyword ← letters? foldedLetter cursor "%mend"
  (keyword.skipWhile fun ch => ch != '\n' && ch != ';').char? ';'

def macroCall? (cursor : Cursor) : Option (MacroCall × Cursor) := do
  let start ← cursor.char? '%'
  let (name, stop) ← start.dynamicName?
  if name.isReserved then none
  else
    let (arguments, stop) := optional stop stop.skipSpace.argumentList?
    let stop ← stop.semicolon?
    return (⟨name, arguments⟩, stop)

end Cursor

end SasOutline
