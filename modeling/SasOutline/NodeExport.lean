import SasOutline.Json
import SasOutline.Node

/-!
# Nodes as JSON

A node is written as one object that holds its kind under `object` and the parts
of the construct beside it.  A part that is absent is written as `null`, and a
part that is present but empty as an empty array, so different nodes are written
differently.
-/

namespace SasOutline

def stringOrNull (text : Option String) : Json := Json.ofOption .string text

namespace Position

def toJson (position : Position) : Json :=
  .object [("line", .ofNat position.line), ("column", .ofNat position.column)]

end Position

namespace Span

def toJson (span : Span) : Json :=
  .object [("start", span.start.toJson), ("end", span.stop.toJson)]

end Span

namespace NameSegment

/-- A plain piece is a string, a reference an object, so the two cannot be
confused. -/
def toJson : NameSegment → Json
  | literal text => .string text
  | reference written => .object [("raw", .string written.raw)]

end NameSegment

namespace DynamicName

def toJson (name : DynamicName) : Json := .ofList NameSegment.toJson name.segments

end DynamicName

namespace DatasetOption

def toJson (option : DatasetOption) : Json :=
  .object [("option", option.name.toJson), ("setting", stringOrNull option.setting)]

end DatasetOption

def optionsJson (options : Option (List DatasetOption)) : Json :=
  .ofOption (.ofList DatasetOption.toJson) options

namespace DatasetReference

def toJson (object : DatasetReference) : Json :=
  .object
    [("library", .ofOption DynamicName.toJson object.library),
     ("dataset", object.dataset.toJson),
     ("options", optionsJson object.options)]

end DatasetReference

namespace Comment

def fields (comment : Comment) : List (String × Json) := [("text", .string comment.text)]

def toJson (comment : Comment) : Json := .object comment.fields

end Comment

namespace MacroArgument

def toJson (argument : MacroArgument) : Json :=
  .object
    [("name", argument.name.toJson),
     ("default", stringOrNull argument.default),
     ("doc", .ofOption Comment.toJson argument.doc)]

end MacroArgument

def argumentsJson (arguments : Option (List MacroArgument)) : Json :=
  .ofOption (.ofList MacroArgument.toJson) arguments

namespace MacroVariableDefinition

def fields (definition : MacroVariableDefinition) : List (String × Json) :=
  [("variable", definition.name.toJson), ("value", stringOrNull definition.value)]

end MacroVariableDefinition

namespace Inclusion

def fields (inclusion : Inclusion) : List (String × Json) :=
  [("path", .string inclusion.path), ("resolved", stringOrNull inclusion.resolved)]

end Inclusion

namespace LibraryTarget

def toJson : LibraryTarget → Json
  | path location => .object [("path", .string location)]
  | pointer library => .object [("pointer", library.toJson)]

end LibraryTarget

namespace LibraryBinding

def fields (binding : LibraryBinding) : List (String × Json) :=
  [("alias", binding.library.toJson), ("target", binding.target.toJson),
   ("resolved", stringOrNull binding.resolved)]

end LibraryBinding

namespace DataStep

def fields (step : DataStep) : List (String × Json) :=
  [("outputs", .ofList DatasetReference.toJson step.outputs),
   ("inputs", .ofList DatasetReference.toJson step.inputs),
   ("header", .string step.header),
   ("body", .string step.body),
   ("options", optionsJson step.options)]

end DataStep

namespace Procedure

def fields (procedure : Procedure) : List (String × Json) :=
  [("type", .string procedure.kind),
   ("inputs", .ofList DatasetReference.toJson procedure.inputs),
   ("outputs", .ofList DatasetReference.toJson procedure.outputs)]

end Procedure

namespace SqlStatement

def fields (statement : SqlStatement) : List (String × Json) :=
  [("text", .string statement.text)]

end SqlStatement

namespace MacroStart

def fields (start : MacroStart) : List (String × Json) :=
  [("name", start.name.toJson), ("arguments", argumentsJson start.arguments),
   ("options", optionsJson start.options)]

end MacroStart

namespace MacroHeading

def fields (heading : MacroHeading) : List (String × Json) :=
  [("name", .string heading.name), ("arguments", argumentsJson heading.arguments),
   ("options", optionsJson heading.options)]

end MacroHeading

namespace MacroCall

def fields (call : MacroCall) : List (String × Json) :=
  [("name", call.name.toJson), ("arguments", argumentsJson call.arguments)]

end MacroCall

namespace Node

mutual

/-- The parts of a construct, without its kind. -/
def fields : Node → List (String × Json)
  | newline => []
  | comment text => text.fields
  | macroVariable definition => definition.fields
  | inclusion statement => statement.fields
  | libraryBinding binding => binding.fields
  | dataStep step => step.fields
  | procedure step => step.fields
  | sqlStatement statement => statement.fields
  | macroStart start => start.fields
  | macroEnd => []
  | macroDefinition heading contents terminated =>
      heading.fields ++
        [("contents", .array (itemsJson contents)), ("terminated", .bool terminated)]
  | macroCall call => call.fields

def itemsJson : List (Spanned Node) → List Json
  | [] => []
  | ⟨node, span⟩ :: rest =>
      .object
        [("node", .object (("object", .string node.kind.name) :: node.fields)),
         ("span", span.toJson)] :: itemsJson rest

end

def toJson (node : Node) : Json :=
  .object (("object", .string node.kind.name) :: node.fields)

end Node

def nodesJson (nodes : List (Spanned Node)) : Json :=
  .array (Node.itemsJson nodes)

def Spanned.toJson (item : Spanned Node) : Json :=
  .object [("node", item.node.toJson), ("span", item.span.toJson)]

theorem nodesJson_eq_ofList (nodes : List (Spanned Node)) :
    nodesJson nodes = .ofList Spanned.toJson nodes := by
  simp only [nodesJson, Json.ofList, Json.array.injEq]
  induction nodes with
  | nil => simp [Node.itemsJson]
  | cons item rest ih =>
    obtain ⟨node, span⟩ := item
    simp [Node.itemsJson, ih, Spanned.toJson, Node.toJson]

end SasOutline
