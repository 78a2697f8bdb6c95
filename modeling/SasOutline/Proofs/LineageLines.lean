import Mathlib.Order.Bounds.Basic
import SasOutline.Proofs.NamedReferences
import SasOutline.Proofs.NestedSpans

/-!
# The line of a lineage node

A node of the lineage graph keeps the line of the statement that brought its dataset
in, and later statements do not change it.  The steps and procedures of a program are
added in the order of the text, whatever macro definitions they stand in, and none of
them is left out.  So the line is the least one among all the statements that connect
the dataset.  A statement that mentions it and only reads or only writes does not count.
-/

namespace SasOutline

namespace Node

/-- The datasets that a data step or a procedure reads. -/
def inputs : Node → List DatasetReference
  | .dataStep step => step.inputs
  | .procedure statement => statement.inputs
  | _ => []

def outputs : Node → List DatasetReference
  | .dataStep step => step.outputs
  | .procedure statement => statement.outputs
  | _ => []

/-- The node reads some dataset and writes some dataset, and the one with the
identifier is among them. -/
def Connects (node : Node) (id : String) : Prop :=
  node.inputs ≠ [] ∧ node.outputs ≠ [] ∧
    id ∈ (node.inputs ++ node.outputs).map DatasetReference.identifier

theorem Connects.kind_ne {item : Spanned Node} {id : String} (h : item.node.Connects id) :
    item.kind ≠ .macroDefinition := by
  intro hkind
  obtain ⟨node, span⟩ := item
  cases node <;> simp only [Spanned.kind, kind, reduceCtorEq] at hkind
  exact absurd rfl h.1

end Node

/-! ## Objects in the order of the text -/

theorem exists_level_iff {tree : List (Spanned Node)} {item : Spanned Node} :
    (∃ level, IsLevel tree level ∧ item ∈ level) ↔
      item ∈ tree ∨ ∃ heading contents terminated span,
        ⟨.macroDefinition heading contents terminated, span⟩ ∈ macroDefinitions tree ∧
          item ∈ contents := by
  constructor
  · rintro ⟨level, rfl | ⟨heading, terminated, span, hmem⟩, hitem⟩
    · exact Or.inl hitem
    · exact Or.inr ⟨heading, level, terminated, span, hmem, hitem⟩
  · rintro (hitem | ⟨heading, contents, terminated, span, hmem, hitem⟩)
    · exact ⟨tree, Or.inl rfl, hitem⟩
    · exact ⟨contents, Or.inr ⟨heading, terminated, span, hmem⟩, hitem⟩

/-- The objects of a tree are the nodes of its lists that are no definitions. -/
theorem mem_documentOrder_iff {tree : List (Spanned Node)} {item : Spanned Node} :
    item ∈ documentOrder tree ↔
      item.kind ≠ .macroDefinition ∧ ∃ level, IsLevel tree level ∧ item ∈ level := by
  rw [exists_level_iff]
  induction tree using treeInduction with
  | nil => simp [documentOrder, macroDefinitions]
  | definition heading contents terminated span rest hcontents hrest =>
      rw [documentOrder, List.mem_append, hcontents, hrest, ← and_or_left]
      refine and_congr_right fun hkind => ?_
      have hother : item ≠ ⟨.macroDefinition heading contents terminated, span⟩ := by
        rintro rfl
        exact hkind rfl
      simp only [macroDefinitions, List.mem_cons, List.mem_append, hother, false_or]
      constructor
      · rintro ((hitem | ⟨inner, body, closed, region, hmem, hitem⟩) |
          (hitem | ⟨inner, body, closed, region, hmem, hitem⟩))
        · exact Or.inr ⟨heading, contents, terminated, span, Or.inl rfl, hitem⟩
        · exact Or.inr ⟨inner, body, closed, region, Or.inr (Or.inl hmem), hitem⟩
        · exact Or.inl hitem
        · exact Or.inr ⟨inner, body, closed, region, Or.inr (Or.inr hmem), hitem⟩
      · rintro (hitem | ⟨inner, body, closed, region, hhere | hinside | hbehind, hitem⟩)
        · exact Or.inr (Or.inl hitem)
        · simp only [Spanned.mk.injEq, Node.macroDefinition.injEq] at hhere
          obtain ⟨⟨rfl, rfl, rfl⟩, rfl⟩ := hhere
          exact Or.inl (Or.inl hitem)
        · exact Or.inl (Or.inr ⟨inner, body, closed, region, hinside, hitem⟩)
        · exact Or.inr (Or.inr ⟨inner, body, closed, region, hbehind, hitem⟩)
  | leaf first rest hleaf ih =>
      rw [documentOrder_leaf hleaf, macroDefinitions_leaf hleaf, List.mem_cons, List.mem_cons, ih]
      constructor
      · rintro (rfl | ⟨hkind, hitem⟩)
        · exact ⟨hleaf, Or.inl (Or.inl rfl)⟩
        · exact ⟨hkind, hitem.imp_left Or.inr⟩
      · rintro ⟨hkind, (rfl | hitem) | hitem⟩
        · exact Or.inl rfl
        · exact Or.inr ⟨hkind, Or.inl hitem⟩
        · exact Or.inr ⟨hkind, Or.inr hitem⟩

theorem SpansWithin.documentOrder {start stop : Position} {tree : List (Spanned Node)}
    (h : SpansWithin start tree stop) : SpansWithin start (documentOrder tree) stop := by
  induction tree using treeInduction generalizing start stop with
  | nil => simpa only [SasOutline.documentOrder] using h
  | definition heading contents terminated span rest hcontents hrest =>
      simp only [SpansWithin] at h
      obtain ⟨hstart, -, hinside, hbehind⟩ := h
      rw [SasOutline.documentOrder, spansWithin_append]
      exact ⟨span.stop, (hcontents hinside).of_le hstart, hrest hbehind⟩
  | leaf item rest hleaf ih =>
      rw [spansWithin_leaf hleaf] at h
      rw [documentOrder_leaf hleaf, spansWithin_leaf hleaf]
      exact ⟨h.1, h.2.1, ih h.2.2⟩

/-- The later of two objects does not start on an earlier line. -/
theorem SpansWithin.documentOrder_lines {start stop : Position} {tree : List (Spanned Node)}
    (h : SpansWithin start tree stop) :
    (SasOutline.documentOrder tree).Pairwise
      fun first second => first.span.start.line ≤ second.span.start.line := by
  have hspans := h.documentOrder
  apply hspans.pairwise.imp_of_mem
  intro first second hfirst _ hstop
  have hstart : first.span.start ≤ second.span.start :=
    (hspans.item_within hfirst).2.1.le.trans hstop
  rw [Position.le_def] at hstart
  omega

/-! ## Statements and the datasets of their pairs -/

namespace LineageStatement

theorem ofItem?_eq_some {item : Spanned Node} {statement : LineageStatement}
    (h : ofItem? item = some statement) :
    statement.line = item.span.start.line ∧ statement.inputs = item.node.inputs ∧
      statement.outputs = item.node.outputs := by
  obtain ⟨node, span⟩ := item
  cases node <;> simp only [ofItem?, reduceCtorEq, Option.some.injEq] at h
  all_goals
    subst h
    exact ⟨rfl, rfl, rfl⟩

theorem exists_of_connects {item : Spanned Node} {id : String} (h : item.node.Connects id) :
    ∃ statement, ofItem? item = some statement := by
  obtain ⟨node, span⟩ := item
  cases node with
  | dataStep step => exact ⟨_, rfl⟩
  | procedure procedure => exact ⟨_, rfl⟩
  | _ => exact absurd rfl h.1

theorem mem_mentions_iff {statement : LineageStatement} {mention : LineageNode} :
    mention ∈ statement.mentions ↔
      ∃ input ∈ statement.inputs, ∃ output ∈ statement.outputs,
        mention = .ofReference input statement.line ∨
          mention = .ofReference output statement.line := by
  simp [mentions]

theorem line_of_mem_mentions {statement : LineageStatement} {mention : LineageNode}
    (h : mention ∈ statement.mentions) : mention.line = statement.line := by
  obtain ⟨input, -, output, -, rfl | rfl⟩ := mem_mentions_iff.mp h
  · rfl
  · rfl

theorem connects_of_mem_mentions {item : Spanned Node} {statement : LineageStatement}
    (hitem : ofItem? item = some statement) {mention : LineageNode}
    (h : mention ∈ statement.mentions) : item.node.Connects mention.id := by
  obtain ⟨-, hinputs, houtputs⟩ := ofItem?_eq_some hitem
  obtain ⟨input, hinput, output, houtput, hmention⟩ := mem_mentions_iff.mp h
  rw [hinputs] at hinput
  rw [houtputs] at houtput
  refine ⟨List.ne_nil_of_mem hinput, List.ne_nil_of_mem houtput, ?_⟩
  rw [List.map_append, List.mem_append]
  rcases hmention with rfl | rfl
  · exact Or.inl (List.mem_map_of_mem hinput)
  · exact Or.inr (List.mem_map_of_mem houtput)

theorem exists_mention_of_connects {item : Spanned Node} {statement : LineageStatement}
    (hitem : ofItem? item = some statement) {id : String} (h : item.node.Connects id) :
    ∃ mention ∈ statement.mentions, mention.id = id := by
  obtain ⟨-, hinputs, houtputs⟩ := ofItem?_eq_some hitem
  obtain ⟨hreads, hwrites, hid⟩ := h
  rw [← hinputs] at hreads hid
  rw [← houtputs] at hwrites hid
  obtain ⟨object, hobject, rfl⟩ := List.mem_map.mp hid
  rcases List.mem_append.mp hobject with hinput | houtput
  · obtain ⟨output, houtput⟩ := List.exists_mem_of_ne_nil _ hwrites
    exact ⟨.ofReference object statement.line,
      mem_mentions_iff.mpr ⟨object, hinput, output, houtput, Or.inl rfl⟩, rfl⟩
  · obtain ⟨input, hinput⟩ := List.exists_mem_of_ne_nil _ hreads
    exact ⟨.ofReference object statement.line,
      mem_mentions_iff.mpr ⟨input, hinput, object, houtput, Or.inr rfl⟩, rfl⟩

end LineageStatement

/-! ## The graph of a tree -/

/-- The lines on which those nodes of a tree start that connect the dataset with
another one, at any depth of macro definitions. -/
def connectionLines (tree : List (Spanned Node)) (id : String) : Set ℕ :=
  {line | ∃ level, IsLevel tree level ∧
    ∃ item ∈ level, item.node.Connects id ∧ item.span.start.line = line}

namespace LineageGraph

variable {tree : List (Spanned Node)}

/-- The datasets of the pairs of all statements of a tree, in order. -/
def allMentions (tree : List (Spanned Node)) : List LineageNode :=
  (documentStatements tree).flatMap LineageStatement.mentions

theorem mem_allMentions {mention : LineageNode} :
    mention ∈ allMentions tree ↔ ∃ item ∈ documentOrder tree, ∃ statement,
      LineageStatement.ofItem? item = some statement ∧ mention ∈ statement.mentions := by
  rw [allMentions, List.mem_flatMap, ← filterMap_ofItem?_documentOrder]
  constructor
  · rintro ⟨statement, hstatement, hmention⟩
    obtain ⟨item, hitem, hof⟩ := List.mem_filterMap.mp hstatement
    exact ⟨item, hitem, statement, hof, hmention⟩
  · rintro ⟨item, hitem, statement, hof, hmention⟩
    exact ⟨statement, List.mem_filterMap.mpr ⟨item, hitem, hof⟩, hmention⟩

theorem mem_connectionLines_iff {id : String} {line : ℕ} :
    line ∈ connectionLines tree id ↔
      ∃ mention ∈ allMentions tree, mention.id = id ∧ mention.line = line := by
  constructor
  · rintro ⟨level, hlevel, item, hmem, hconnects, rfl⟩
    have hitem := mem_documentOrder_iff.mpr ⟨hconnects.kind_ne, level, hlevel, hmem⟩
    obtain ⟨statement, hof⟩ := LineageStatement.exists_of_connects hconnects
    obtain ⟨mention, hmention, hid⟩ := LineageStatement.exists_mention_of_connects hof hconnects
    refine ⟨mention, mem_allMentions.mpr ⟨item, hitem, statement, hof, hmention⟩, hid, ?_⟩
    rw [LineageStatement.line_of_mem_mentions hmention,
      (LineageStatement.ofItem?_eq_some hof).1]
  · rintro ⟨mention, hmem, rfl, rfl⟩
    obtain ⟨item, hitem, statement, hof, hmention⟩ := mem_allMentions.mp hmem
    obtain ⟨-, level, hlevel, hin⟩ := mem_documentOrder_iff.mp hitem
    refine ⟨level, hlevel, item, hin, LineageStatement.connects_of_mem_mentions hof hmention, ?_⟩
    rw [LineageStatement.line_of_mem_mentions hmention,
      (LineageStatement.ofItem?_eq_some hof).1]

theorem pairwise_allMentions_line (hlines : (documentOrder tree).Pairwise
      fun first second => first.span.start.line ≤ second.span.start.line) :
    (allMentions tree).Pairwise fun first second => first.line ≤ second.line := by
  rw [allMentions, List.pairwise_flatMap, ← filterMap_ofItem?_documentOrder]
  constructor
  · intro statement _
    apply List.pairwise_of_forall_mem_list
    intro first hfirst second hsecond
    rw [LineageStatement.line_of_mem_mentions hfirst,
      LineageStatement.line_of_mem_mentions hsecond]
  · rw [List.pairwise_filterMap]
    apply hlines.imp
    intro first second hle earlier hearlier later hlater mention hmention other hother
    rw [LineageStatement.line_of_mem_mentions hmention,
      LineageStatement.line_of_mem_mentions hother,
      (LineageStatement.ofItem?_eq_some hearlier).1, (LineageStatement.ofItem?_eq_some hlater).1]
    exact hle

/-- Statements whose references all have names are all kept. -/
theorem nodes_of_named
    (hnamed : ∀ item ∈ documentOrder tree, ∀ object ∈ item.node.references, object.IsNamed) :
    (ofNodes tree).nodes = firstOccurrences LineageNode.id (allMentions tree) := by
  have hsound : ∀ statement ∈ documentStatements tree, statement.firstLack?.isNone = true := by
    intro statement hstatement
    rw [← filterMap_ofItem?_documentOrder] at hstatement
    obtain ⟨item, hitem, hof⟩ := List.mem_filterMap.mp hstatement
    have hreferences := hnamed item hitem
    rw [LineageStatement.references_ofItem? hof] at hreferences
    rw [LineageStatement.firstLack?_eq_none hreferences, Option.isNone_none]
  rw [ofNodes_eq_reference, reference, List.filter_eq_self.mpr hsound]
  rfl

end LineageGraph

/-- The lineage of a program has a node for each dataset that a data step or a procedure
connects, at any depth of macro definitions, and its line is the least one on which such a
step or procedure starts. -/
theorem lineage_line_isLeast (grammar : Grammar) (text : String) (name : Option String) :
    (∀ id, id ∈ (Program.parse grammar text name).lineage.nodes.map LineageNode.id ↔
        (connectionLines (Program.parse grammar text name).contents id).Nonempty) ∧
      ∀ node ∈ (Program.parse grammar text name).lineage.nodes,
        IsLeast (connectionLines (Program.parse grammar text name).contents node.id)
          node.line := by
  have hnamed : ∀ item ∈ documentOrder (Program.parse grammar text name).contents,
      ∀ object ∈ item.node.references, object.IsNamed := by
    intro item hitem
    rw [← objects_eq_documentOrder] at hitem
    obtain ⟨first, last, -, -, hread, -⟩ :=
      Grammar.scan_node_isRead (Program.mem_scan_of_mem_objects hitem)
    exact hread.references_isNamed
  obtain ⟨stop, hscan⟩ := grammar.scan_spansWithin text
  have hsorted := LineageGraph.pairwise_allMentions_line hscan.foldMacros.documentOrder_lines
  have hnodes : (Program.parse grammar text name).lineage.nodes =
      firstOccurrences LineageNode.id
        (LineageGraph.allMentions (Program.parse grammar text name).contents) :=
    LineageGraph.nodes_of_named hnamed
  rw [hnodes]
  constructor
  · intro id
    rw [mem_map_firstOccurrences, List.mem_map]
    constructor
    · rintro ⟨mention, hmention, hid⟩
      exact ⟨mention.line, LineageGraph.mem_connectionLines_iff.mpr ⟨mention, hmention, hid, rfl⟩⟩
    · rintro ⟨line, hline⟩
      obtain ⟨mention, hmention, hid, -⟩ := LineageGraph.mem_connectionLines_iff.mp hline
      exact ⟨mention, hmention, hid⟩
  · intro node hnode
    constructor
    · exact LineageGraph.mem_connectionLines_iff.mpr
        ⟨node, mem_of_mem_firstOccurrences hnode, rfl, rfl⟩
    · intro line hline
      obtain ⟨mention, hmention, hid, rfl⟩ := LineageGraph.mem_connectionLines_iff.mp hline
      exact rank_le_of_mem_firstOccurrences hsorted hnode mention hmention hid

end SasOutline
