import SasOutline.Command
import SasOutline.Proofs.FoldedLineage

/-!
# Adding programs to a lineage graph

A graph is extended by one list of nodes after the other.  How the statements are
divided into lists does not matter, and a statement that is added again adds
nothing but its defect.

The order of the programs decides in which order nodes and edges are listed and
which line a node carries.  Which datasets and edges there are, and which
statements are defective, it does not decide.
-/

namespace SasOutline

/-- The statement as it would be on another line. -/
def LineageStatement.atLine (statement : LineageStatement) (line : Nat) : LineageStatement :=
  { statement with line := line }

namespace LineageGraph

/-- The graph with more defects behind its own. -/
def report (graph : LineageGraph) (defects : List LineageDefect) : LineageGraph :=
  { graph with defects := graph.defects ++ defects }

/-- The same datasets, edges and defects, each the same number of times. -/
structure SameUpToOrder (first second : LineageGraph) : Prop where
  ids : (first.nodes.map LineageNode.id).Perm (second.nodes.map LineageNode.id)
  edges : first.edges.Perm second.edges
  defects : first.defects.Perm second.defects

/-! ## Lists of nodes as one list of statements -/

theorem addNodes_append (graph : LineageGraph) (first second : List (Spanned Node)) :
    (graph.addNodes first).addNodes second = graph.addNodes (first ++ second) := by
  rw [addNodes_eq, addNodes_eq, addNodes_eq, documentStatements_append, List.foldl_append]

theorem foldl_addNodes (programs : List (List (Spanned Node))) (graph : LineageGraph) :
    programs.foldl addNodes graph =
      (programs.flatMap documentStatements).foldl addStatement graph := by
  induction programs generalizing graph with
  | nil => rfl
  | cons nodes programs ih =>
      rw [List.foldl_cons, ih, addNodes_eq, List.flatMap_cons, List.foldl_append]

/-! ## Statements that are known -/

section AtLine

variable (statement : LineageStatement) (line : Nat)

theorem firstLack?_atLine : (statement.atLine line).firstLack? = statement.firstLack? := rfl

theorem links_atLine : (statement.atLine line).links = statement.links := rfl

theorem map_id_mentions_atLine :
    (statement.atLine line).mentions.map LineageNode.id =
      statement.mentions.map LineageNode.id := by
  simp [LineageStatement.mentions, LineageStatement.atLine, LineageNode.ofReference,
    List.map_flatMap]

end AtLine

/-- The statements that contribute to the nodes and edges of a graph. -/
def soundStatements (statements : List LineageStatement) : List LineageStatement :=
  statements.filter fun statement => statement.firstLack?.isNone

theorem exists_sound_of_known {statements more : List LineageStatement}
    (hknown : ∀ statement ∈ more, ∃ earlier ∈ statements,
      earlier.atLine statement.line = statement)
    {statement : LineageStatement} (hsound : statement ∈ soundStatements more) :
    ∃ earlier ∈ soundStatements statements, earlier.atLine statement.line = statement := by
  obtain ⟨hmem, hnone⟩ := List.mem_filter.mp hsound
  obtain ⟨earlier, hearlier, hsame⟩ := hknown statement hmem
  rw [← hsame, firstLack?_atLine] at hnone
  exact ⟨earlier, List.mem_filter.mpr ⟨hearlier, hnone⟩, hsame⟩

theorem reference_append_known {statements more : List LineageStatement}
    (hknown : ∀ statement ∈ more, ∃ earlier ∈ statements,
      earlier.atLine statement.line = statement) :
    reference (statements ++ more) =
      (reference statements).report (reference more).defects := by
  have hmentions : ∀ node ∈ (soundStatements more).flatMap LineageStatement.mentions,
      node.id ∈ ((soundStatements statements).flatMap LineageStatement.mentions).map
        LineageNode.id := by
    intro node hnode
    obtain ⟨statement, hsound, hmention⟩ := List.mem_flatMap.mp hnode
    obtain ⟨earlier, hearlier, hsame⟩ := exists_sound_of_known hknown hsound
    have hid : node.id ∈ earlier.mentions.map LineageNode.id := by
      rw [← map_id_mentions_atLine earlier statement.line, hsame]
      exact List.mem_map_of_mem hmention
    rw [List.map_flatMap]
    exact List.mem_flatMap.mpr ⟨earlier, hearlier, hid⟩
  have hlinks : ∀ link ∈ (soundStatements more).flatMap LineageStatement.links,
      link ∈ (soundStatements statements).flatMap LineageStatement.links := by
    intro link hlink
    obtain ⟨statement, hsound, hlink⟩ := List.mem_flatMap.mp hlink
    obtain ⟨earlier, hearlier, hsame⟩ := exists_sound_of_known hknown hsound
    rw [← hsame, links_atLine] at hlink
    exact List.mem_flatMap.mpr ⟨earlier, hearlier, hlink⟩
  have hsplit : reference (statements ++ more) = collected
      ((soundStatements statements).flatMap LineageStatement.mentions ++
        (soundStatements more).flatMap LineageStatement.mentions)
      ((soundStatements statements).flatMap LineageStatement.links ++
        (soundStatements more).flatMap LineageStatement.links)
      (statements.filterMap LineageStatement.reportedDefect? ++
        more.filterMap LineageStatement.reportedDefect?) := by
    simp [reference, soundStatements]
  rw [hsplit]
  unfold collected
  rw [firstOccurrences_append_known _ _ _ hmentions, List.filter_append,
    firstOccurrences_append_known]
  · rfl
  · intro link hlink
    obtain ⟨hlink, hends⟩ := List.mem_filter.mp hlink
    rw [List.map_id, id_eq]
    exact List.mem_filter.mpr ⟨hlinks link hlink, hends⟩

/-! ## The order of the programs -/

theorem reference_perm {statements other : List LineageStatement}
    (hperm : statements.Perm other) :
    SameUpToOrder (reference statements) (reference other) := by
  have hsound : (soundStatements statements).Perm (soundStatements other) := hperm.filter _
  constructor
  · exact map_firstOccurrences_perm LineageNode.id (hsound.flatMap_right _)
  · have hlinks := (hsound.flatMap_right LineageStatement.links).filter
      fun link => link.source ≠ link.target
    have hedges := map_firstOccurrences_perm id hlinks
    rwa [List.map_id, List.map_id] at hedges
  · exact hperm.filterMap LineageStatement.reportedDefect?

theorem foldl_addNodes_perm {programs other : List (List (Spanned Node))}
    (hperm : programs.Perm other) :
    SameUpToOrder (programs.foldl addNodes empty) (other.foldl addNodes empty) := by
  rw [foldl_addNodes, foldl_addNodes, foldl_addStatement_reference,
    foldl_addStatement_reference]
  exact reference_perm (hperm.flatMap_right documentStatements)

/-- The graph of the lineage command holds the same in whatever order the files are
named. -/
theorem combinedLineage_perm {programs other : List Program} (hperm : programs.Perm other) :
    SameUpToOrder (CommandInput.combinedLineage programs)
      (CommandInput.combinedLineage other) := by
  have hcontents := foldl_addNodes_perm (hperm.map Program.contents)
  rwa [List.foldl_map, List.foldl_map] at hcontents

/-! ## Graphs that programs have grown into -/

/-- A graph that `earlier` has grown into is extended by two lists as by their
concatenation, keeps its nodes and edges when all statements of a list have been
added before, and depends on the order of what was added in the order of its
entries only. -/
theorem accumulation_laws (earlier : List (List (Spanned Node))) :
    (∀ first second,
      ((earlier.foldl addNodes empty).addNodes first).addNodes second =
        (earlier.foldl addNodes empty).addNodes (first ++ second)) ∧
      (∀ nodes,
        (∀ statement ∈ documentStatements nodes,
          ∃ known ∈ earlier.flatMap documentStatements,
            known.atLine statement.line = statement) →
        (earlier.foldl addNodes empty).addNodes nodes =
          (earlier.foldl addNodes empty).report (ofNodes nodes).defects) ∧
      ∀ other, earlier.Perm other →
        SameUpToOrder (earlier.foldl addNodes empty) (other.foldl addNodes empty) := by
  refine ⟨?_, ?_, ?_⟩
  · exact addNodes_append _
  · intro nodes hknown
    have hgraph : earlier.foldl addNodes empty =
        reference (earlier.flatMap documentStatements) := by
      rw [foldl_addNodes, foldl_addStatement_reference]
    rw [hgraph, ofNodes_eq_reference, ← reference_append_known hknown, addNodes_eq,
      ← foldl_addStatement_reference, ← foldl_addStatement_reference, List.foldl_append]
  · intro other hperm
    exact foldl_addNodes_perm hperm

def statementSpan (line : Nat) : Span := ⟨⟨line, 0⟩, ⟨line + 1, 0⟩⟩

/-- A step that copies a dataset, and a procedure that reads a dataset without a
name. -/
def copyAndPrint (line : Nat) : List (Spanned Node) :=
  [⟨.dataStep ⟨[⟨none, .ofLiteral "b", none⟩], [⟨none, .ofLiteral "a", none⟩], "", "", none⟩,
      statementSpan line⟩,
   ⟨.procedure ⟨"print", [⟨none, .ofLiteral "", none⟩], []⟩, statementSpan (line + 2)⟩]

theorem accumulation_laws_of_repetition :
    (∀ statement ∈ documentStatements (copyAndPrint 7),
        ∃ known ∈ [copyAndPrint 1, []].flatMap documentStatements,
          known.atLine statement.line = statement) ∧
      ([copyAndPrint 1, []].foldl addNodes empty).addNodes (copyAndPrint 7) =
        ([copyAndPrint 1, []].foldl addNodes empty).report
          [⟨9, .procedure, .emptyDataset⟩] ∧
      SameUpToOrder ([copyAndPrint 1, []].foldl addNodes empty)
        ([[], copyAndPrint 1].foldl addNodes empty) := by
  obtain ⟨-, hrepeated, hordered⟩ := accumulation_laws [copyAndPrint 1, []]
  have hknown : ∀ statement ∈ documentStatements (copyAndPrint 7),
      ∃ known ∈ [copyAndPrint 1, []].flatMap documentStatements,
        known.atLine statement.line = statement := by
    simp [copyAndPrint, documentStatements, LineageStatement.atLine]
  have hdefects : (ofNodes (copyAndPrint 7)).defects = [⟨9, .procedure, .emptyDataset⟩] := by
    rw [ofNodes_eq_reference]
    simp only [copyAndPrint, documentStatements]
    decide +kernel
  refine ⟨hknown, ?_, hordered _ (List.Perm.swap _ _ _)⟩
  rw [hrepeated (copyAndPrint 7) hknown, hdefects]

end LineageGraph

end SasOutline
