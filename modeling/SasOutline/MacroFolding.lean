import SasOutline.NodeTree

/-!
# Folding a flat list of nodes into macro definitions

Opening and closing markers pair up like brackets.  A pair becomes one macro
definition that holds everything in between, a definition without a closing
marker holds everything up to the end of the list, and a closing marker without
a definition stays where it is.  Line ends are dropped.

The list is folded from its end.  At every point the nodes behind are known in
the form an opening marker needs: the nodes up to the first closing marker that
has no partner among them, and then each of those markers with the nodes behind
it.
-/

namespace SasOutline

/-- `closings` lists the closing markers without a partner, each with the nodes
between it and the next one. -/
structure FoldedNodes where
  leading : List (Spanned Node)
  closings : List (Span × List (Spanned Node))

namespace FoldedNodes

def empty : FoldedNodes := ⟨[], []⟩

def push (folded : FoldedNodes) (item : Spanned Node) : FoldedNodes :=
  ⟨item :: folded.leading, folded.closings⟩

/-- Put a closing marker in front. -/
def close (folded : FoldedNodes) (span : Span) : FoldedNodes :=
  ⟨[], (span, folded.leading) :: folded.closings⟩

/-- The span of the last node, or `opened` when there is none. -/
def lastSpan (opened : Span) (contents : List (Spanned Node)) : Span :=
  (contents.getLast?.map Spanned.span).getD opened

/-- Put an opening marker in front: it takes the leading nodes and the first
closing marker. -/
def enclose (folded : FoldedNodes) (start : MacroStart) (opened : Span) : FoldedNodes :=
  match folded.closings with
  | [] =>
      ⟨[⟨.macroDefinition start.heading folded.leading false,
        .covering opened (lastSpan opened folded.leading)⟩], []⟩
  | (closed, following) :: closings =>
      ⟨⟨.macroDefinition start.heading folded.leading true, .covering opened closed⟩ ::
        following, closings⟩

/-- Closing markers without a partner become nodes again. -/
def toList (folded : FoldedNodes) : List (Spanned Node) :=
  folded.leading ++ folded.closings.flatMap fun (span, following) =>
    ⟨.macroEnd, span⟩ :: following

end FoldedNodes

def foldNodes : List (Spanned Node) → FoldedNodes
  | [] => .empty
  | item :: rest =>
      let folded := foldNodes rest
      match item.node with
      | .newline => folded
      | .macroStart start => folded.enclose start item.span
      | .macroEnd => folded.close item.span
      | _ => folded.push item

/-- The tree of macro definitions of a flat list.  Definitions that the list
already contains are left as they are. -/
def foldMacros (nodes : List (Spanned Node)) : List (Spanned Node) :=
  (foldNodes nodes).toList

end SasOutline
