import SasOutline.ConstructMatch

/-!
# Grammars

A grammar is an ordered list of named constructs.  At a cursor the first
construct that matches wins, so the order matters: `%let` comes before macro
calls, comments before data steps.  A match that reads nothing is passed over in
favour of later constructs.
-/

namespace SasOutline

inductive Construct where
  | newline
  | macroVariable
  | comment
  | dataStep
  | procedure
  | sqlBlock
  | sqlStatement
  | createTable
  | libraryBinding
  | inclusion
  | macroStart
  | macroEnd
  | macroCall
  /-- Matches everywhere and reads nothing. -/
  | nothing
  deriving DecidableEq, Repr

namespace Construct

/-- The match of a construct at a cursor. -/
def read? (construct : Construct) (cursor : Cursor) : Option ConstructMatch :=
  let covering {α : Type} (wrap : α → Node) (parsed : Option (α × Cursor)) :=
    parsed.map fun (value, stop) => ConstructMatch.single cursor (wrap value) stop
  match construct with
  | newline => cursor.newline?.map (ConstructMatch.single cursor .newline)
  | macroVariable => covering .macroVariable cursor.macroVariableDefinition?
  | comment => covering .comment cursor.comment?
  | dataStep => covering .dataStep cursor.dataStep?
  | procedure => covering .procedure cursor.procedure?
  | sqlBlock => cursor.sqlBlock?
  | sqlStatement => covering .sqlStatement cursor.sqlStatement?
  | createTable => covering .procedure cursor.createTable?
  | libraryBinding => covering .libraryBinding cursor.libraryBinding?
  | inclusion => covering .inclusion cursor.inclusion?
  | macroStart => covering .macroStart cursor.macroStart?
  | macroEnd => cursor.macroEnd?.map (ConstructMatch.single cursor .macroEnd)
  | macroCall => covering .macroCall cursor.macroCall?
  | nothing => some ⟨[], cursor⟩

end Construct

structure Grammar where
  rules : List (String × Construct)
  deriving DecidableEq, Repr

namespace Grammar

/-- The constructs that have nothing to do with macro definitions and calls. -/
def withoutMacros : Grammar where
  rules :=
    [("newline", .newline),
     ("macro variable definition", .macroVariable),
     ("comment", .comment),
     ("data step", .dataStep),
     ("procedure", .procedure),
     ("sql block", .sqlBlock),
     ("libname", .libraryBinding),
     ("include", .inclusion)]

def full : Grammar where
  rules := withoutMacros.rules ++
    [("macro start", .macroStart),
     ("macro end", .macroEnd),
     ("macro call", .macroCall)]

def ruleNames (grammar : Grammar) : List String :=
  grammar.rules.map Prod.fst

/-- The names of the rules, quoted and in brackets. -/
def description (grammar : Grammar) : String :=
  "[" ++ ", ".intercalate (grammar.ruleNames.map fun name => "\"" ++ name ++ "\"") ++ "]"

/-- The first match at a cursor that reads at least one character. -/
def firstMatch? (grammar : Grammar) (cursor : Cursor) : Option ConstructMatch :=
  grammar.rules.findSome? fun (_, construct) =>
    (construct.read? cursor).filter fun found => found.rest.remaining < cursor.remaining

theorem firstMatch?_remaining_lt {grammar : Grammar} {cursor : Cursor} {found : ConstructMatch}
    (h : grammar.firstMatch? cursor = some found) :
    found.rest.remaining < cursor.remaining := by
  obtain ⟨_, _, hrule⟩ := List.exists_of_findSome?_eq_some h
  simpa using (Option.filter_eq_some_iff.1 hrule).2

end Grammar

end SasOutline
