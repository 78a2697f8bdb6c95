import SasOutline.DataStep
import SasOutline.MacroStatements
import SasOutline.SourcePosition
import SasOutline.SqlStatements

/-!
# The constructs of a program

A node is one recognised construct.  Line ends and the two statements that
delimit a macro definition are markers: they stand for themselves in the flat
list a scan produces, and folding the list replaces each pair of delimiters by
one macro definition that holds the nodes in between.
-/

namespace SasOutline

/-- A value with the source region it was read from. -/
structure Spanned (α : Type) where
  node : α
  span : Span
  deriving DecidableEq, Repr

/-- The opening statement of a macro definition, with the printed name. -/
structure MacroHeading where
  name : String
  arguments : Option (List MacroArgument)
  options : Option (List DatasetOption)
  deriving DecidableEq, Repr

def MacroStart.heading (start : MacroStart) : MacroHeading :=
  ⟨start.name.text, start.arguments, start.options⟩

/-- A macro definition is terminated when its closing statement was found. -/
inductive Node where
  | newline
  | comment (comment : Comment)
  | macroVariable (definition : MacroVariableDefinition)
  | inclusion (inclusion : Inclusion)
  | libraryBinding (binding : LibraryBinding)
  | dataStep (step : DataStep)
  | procedure (procedure : Procedure)
  | sqlStatement (statement : SqlStatement)
  | macroStart (start : MacroStart)
  | macroEnd
  | macroDefinition (heading : MacroHeading) (contents : List (Spanned Node))
      (terminated : Bool)
  | macroCall (call : MacroCall)

instance : Inhabited Node := ⟨.newline⟩

inductive NodeKind where
  | newline
  | comment
  | macroVariable
  | inclusion
  | libraryBinding
  | dataStep
  | procedure
  | sqlStatement
  | macroStart
  | macroEnd
  | macroDefinition
  | macroCall
  deriving DecidableEq, Repr

namespace NodeKind

def all : List NodeKind :=
  [newline, comment, macroVariable, inclusion, libraryBinding, dataStep, procedure,
   sqlStatement, macroStart, macroEnd, macroDefinition, macroCall]

/-- The name of a kind in reports. -/
def name : NodeKind → String
  | newline => "newline"
  | comment => "comment"
  | macroVariable => "macroVariableDef"
  | inclusion => "include"
  | libraryBinding => "libraryBinding"
  | dataStep => "dataStep"
  | procedure => "procedure"
  | sqlStatement => "unparsedSqlStatement"
  | macroStart => "macroStart"
  | macroEnd => "macroEnd"
  | macroDefinition => "macro"
  | macroCall => "macroCall"

/-- The kind with a given name, where the case of ASCII letters is free. -/
def ofName? (text : String) : Option NodeKind :=
  all.find? fun kind => equalIgnoringCase kind.name text

theorem mem_all (kind : NodeKind) : kind ∈ all := by
  cases kind <;> decide

end NodeKind

namespace Node

def kind : Node → NodeKind
  | newline => .newline
  | comment _ => .comment
  | macroVariable _ => .macroVariable
  | inclusion _ => .inclusion
  | libraryBinding _ => .libraryBinding
  | dataStep _ => .dataStep
  | procedure _ => .procedure
  | sqlStatement _ => .sqlStatement
  | macroStart _ => .macroStart
  | macroEnd => .macroEnd
  | macroDefinition _ _ _ => .macroDefinition
  | macroCall _ => .macroCall

end Node

def Spanned.kind (item : Spanned Node) : NodeKind := item.node.kind

end SasOutline
