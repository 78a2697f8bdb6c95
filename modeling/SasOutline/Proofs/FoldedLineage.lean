import SasOutline.MacroFolding
import SasOutline.Proofs.LineageReference

/-!
# The lineage of a folded list

Markers and line ends carry no lineage, and a macro definition stands for its
contents.  Folding a flat list into a tree therefore moves no statement, drops
none and repeats none, and the lineage of a program can be read off the flat list
of its nodes.
-/

namespace SasOutline

theorem documentStatements_append (first second : List (Spanned Node)) :
    documentStatements (first ++ second) =
      documentStatements first ++ documentStatements second := by
  fun_induction documentStatements first with
  | case1 => rfl
  | case2 step span rest ih => simp [documentStatements, ih]
  | case3 procedure span rest ih => simp [documentStatements, ih]
  | case4 heading contents terminated span rest _ ih => simp [documentStatements, ih]
  | case5 item rest hstep hprocedure hmacro ih =>
      rw [List.cons_append, documentStatements, ih]
      · exact hstep
      · exact hprocedure
      · exact hmacro

theorem documentStatements_cons (item : Spanned Node) (rest : List (Spanned Node)) :
    documentStatements (item :: rest) =
      documentStatements [item] ++ documentStatements rest :=
  documentStatements_append [item] rest

namespace FoldedNodes

/-- The statements of all lists of a folded list, in order. -/
def statements (folded : FoldedNodes) : List LineageStatement :=
  documentStatements folded.leading ++
    folded.closings.flatMap fun closing => documentStatements closing.2

theorem statements_push (folded : FoldedNodes) (item : Spanned Node) :
    (folded.push item).statements = documentStatements [item] ++ folded.statements := by
  unfold statements push
  rw [documentStatements_cons, List.append_assoc]

theorem statements_close (folded : FoldedNodes) (span : Span) :
    (folded.close span).statements = folded.statements := by
  simp [statements, close, documentStatements]

theorem statements_enclose (folded : FoldedNodes) (start : MacroStart) (opened : Span) :
    (folded.enclose start opened).statements = folded.statements := by
  obtain ⟨leading, closings⟩ := folded
  cases closings with
  | nil => simp [statements, enclose, documentStatements]
  | cons closing closings => simp [statements, enclose, documentStatements]

theorem documentStatements_toList (folded : FoldedNodes) :
    documentStatements folded.toList = folded.statements := by
  unfold toList statements
  rw [documentStatements_append]
  apply congrArg (documentStatements folded.leading ++ ·)
  induction folded.closings with
  | nil => simp [documentStatements]
  | cons closing closings ih => simp [documentStatements_append, documentStatements, ih]

end FoldedNodes

theorem statements_foldNodes (nodes : List (Spanned Node)) :
    (foldNodes nodes).statements = documentStatements nodes := by
  induction nodes with
  | nil => simp [foldNodes, FoldedNodes.empty, FoldedNodes.statements, documentStatements]
  | cons item nodes ih =>
      obtain ⟨node, span⟩ := item
      rw [documentStatements_cons, ← ih]
      cases node with
      | newline => simp [foldNodes, documentStatements]
      | macroStart start =>
          simp [foldNodes, documentStatements, FoldedNodes.statements_enclose]
      | macroEnd => simp [foldNodes, documentStatements, FoldedNodes.statements_close]
      | _ => exact FoldedNodes.statements_push _ _

theorem documentStatements_foldMacros (nodes : List (Spanned Node)) :
    documentStatements (foldMacros nodes) = documentStatements nodes := by
  unfold foldMacros
  rw [FoldedNodes.documentStatements_toList, statements_foldNodes]

/-- Any graph grows by a folded list as it grows by the list itself. -/
theorem addNodes_foldMacros (graph : LineageGraph) (nodes : List (Spanned Node)) :
    graph.addNodes (foldMacros nodes) = graph.addNodes nodes := by
  rw [LineageGraph.addNodes_eq, LineageGraph.addNodes_eq, documentStatements_foldMacros]

end SasOutline
