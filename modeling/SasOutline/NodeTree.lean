import SasOutline.Node

/-!
# Walks over a tree of nodes

Three walks see different parts of the same tree.  The objects of a program are
its nodes with the macro definitions opened up, in document order; the
definitions are the macro definitions themselves, at any depth; the counts take
in both.
-/

namespace SasOutline

/-- The walk keeps the unfinished levels, innermost first.  A macro definition
opens a level of its own and is not an object itself. -/
def objectsOfLevels : List (List (Spanned Node)) → List (Spanned Node)
  | [] => []
  | [] :: levels => objectsOfLevels levels
  | (⟨.macroDefinition _ contents _, _⟩ :: rest) :: levels =>
      objectsOfLevels (contents :: rest :: levels)
  | (item :: rest) :: levels => item :: objectsOfLevels (rest :: levels)

def objects (nodes : List (Spanned Node)) : List (Spanned Node) :=
  objectsOfLevels [nodes]

/-- Macro definitions at any depth, each in front of those it contains. -/
def macroDefinitions : List (Spanned Node) → List (Spanned Node)
  | [] => []
  | ⟨.macroDefinition heading contents terminated, span⟩ :: rest =>
      ⟨.macroDefinition heading contents terminated, span⟩ ::
        (macroDefinitions contents ++ macroDefinitions rest)
  | _ :: rest => macroDefinitions rest

/-- The number of nodes of one kind, inside macro definitions as well. -/
def countKind (kind : NodeKind) : List (Spanned Node) → Nat
  | [] => 0
  | ⟨.macroDefinition _ contents _, _⟩ :: rest =>
      (if kind = .macroDefinition then 1 else 0) + countKind kind contents +
        countKind kind rest
  | item :: rest => (if item.kind = kind then 1 else 0) + countKind kind rest

/-- The kinds that occur, each with its number of nodes. -/
def countKinds (nodes : List (Spanned Node)) : List (NodeKind × Nat) :=
  (NodeKind.all.map fun kind => (kind, countKind kind nodes)).filter (·.2 != 0)

/-- The texts of the comments that open a list of nodes. -/
def openingComments : List (Spanned Node) → List String
  | ⟨.comment comment, _⟩ :: rest => comment.text :: openingComments rest
  | _ => []

/-- What a macro definition says about itself: the comments that open its body,
one per line. -/
def aboutContents (contents : List (Spanned Node)) : String :=
  "\n".intercalate (openingComments contents)

/-- The first line of a text that is not blank, without the blanks around it. -/
def firstLine (text : String) : String :=
  String.ofList (trimEnd ((text.toList.dropWhile isWhiteSpace).takeWhile (· != '\n')))

end SasOutline
