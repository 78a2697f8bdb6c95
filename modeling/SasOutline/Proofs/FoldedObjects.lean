import SasOutline.Proofs.FoldedLineage
import SasOutline.Proofs.MacroMarks

/-!
# The objects of a folded list

Folding a flat list moves nodes into macro definitions, and the walk over the
objects opens these definitions up again.  What comes out is the list without its
line ends and without the markers that were paired.

A tree reads like a word of marks, and its objects are the nodes of that word.
The word of a fold is known, so nothing has to be said about the shape of the
tree.
-/

namespace SasOutline

/-- An item that stays an object behind nodes that leave `depth` macros open: a
closing marker does so where there is nothing to close. -/
def staysObject (depth : Nat) (item : Spanned Node) : Bool :=
  match item.node with
  | .newline => false
  | .macroStart _ => false
  | .macroEnd => depth == 0
  | _ => true

/-- A list without its line ends, its opening markers and the closing markers in
front of which a macro is open. -/
def unpairedNodes (nodes : List (Spanned Node)) : List (Spanned Node) :=
  (nodes.zipIdx.filter fun indexed =>
    staysObject (openMacros (nodes.take indexed.2)) indexed.1).map Prod.fst

/-! ## The nodes of a word of marks -/

def Mark.item? : Mark → Option (Spanned Node)
  | .node item => some item
  | _ => none

theorem filterMap_ending (terminated : Bool) :
    (Mark.ending terminated).filterMap Mark.item? = [] := by
  cases terminated <;> rfl

theorem documentOrder_leaf {item : Spanned Node} (hleaf : item.kind ≠ .macroDefinition)
    (rest : List (Spanned Node)) :
    documentOrder (item :: rest) = item :: documentOrder rest := by
  obtain ⟨node, span⟩ := item
  cases node <;> simp_all [documentOrder, Spanned.kind, Node.kind]

theorem filterMap_writtenMarks (tree : List (Spanned Node)) :
    (writtenMarks tree).filterMap Mark.item? = documentOrder tree := by
  induction tree using treeInduction with
  | nil => simp [writtenMarks, documentOrder]
  | definition heading contents terminated span rest hcontents hrest =>
      simp only [writtenMarks, documentOrder, List.filterMap_cons, List.filterMap_append,
        filterMap_ending, List.nil_append, Mark.item?]
      rw [hcontents, hrest]
  | leaf item rest hleaf ih =>
      rw [writtenMarks_leaf hleaf, documentOrder_leaf hleaf, ← ih]
      rfl

/-! ## The nodes of a flat list -/

/-- As `unpairedNodes`, behind nodes that leave `depth` macros open. -/
def unpairedFrom (depth : Nat) (nodes : List (Spanned Node)) : List (Spanned Node) :=
  (nodes.zipIdx.filter fun indexed =>
    staysObject ((nodes.take indexed.2).foldl depthAfter depth) indexed.1).map Prod.fst

theorem unpairedFrom_cons (depth : Nat) (item : Spanned Node) (rest : List (Spanned Node)) :
    unpairedFrom depth (item :: rest) =
      if staysObject depth item then item :: unpairedFrom (depthAfter depth item) rest
      else unpairedFrom (depthAfter depth item) rest := by
  unfold unpairedFrom
  rw [List.zipIdx_cons', List.filter_cons, List.filter_map, List.take_zero, List.foldl_nil]
  by_cases hstays : staysObject depth item = true
  · simp only [if_pos hstays, List.map_cons, List.map_map]
    rfl
  · simp only [if_neg hstays, List.map_map]
    rfl

/-- A mark is a node where the item it was made of stays an object. -/
theorem item?_atDepth {item : Spanned Node} (hnewline : item.kind ≠ .newline) (depth : Nat) :
    (Mark.atDepth depth item).item? = if staysObject depth item then some item else none := by
  obtain ⟨node, span⟩ := item
  cases node with
  | newline => exact absurd rfl hnewline
  | macroEnd =>
      by_cases hdepth : depth = 0
      · simp [Mark.atDepth, Mark.item?, staysObject, Spanned.kind, Node.kind, hdepth]
      · simp [Mark.atDepth, Mark.ofItem, Mark.item?, staysObject, hdepth]
  | _ => simp [Mark.atDepth, Mark.ofItem, Mark.item?, staysObject, Spanned.kind, Node.kind]

theorem filterMap_marksFrom (depth : Nat) (nodes : List (Spanned Node)) :
    (marksFrom depth (withoutNewlines nodes)).filterMap Mark.item? =
      unpairedFrom depth nodes := by
  induction nodes generalizing depth with
  | nil => rfl
  | cons item rest ih =>
      by_cases hnewline : item.kind = .newline
      · have hskip : withoutNewlines (item :: rest) = withoutNewlines rest := by
          simp [withoutNewlines, hnewline]
        obtain ⟨node, span⟩ := item
        cases node <;> simp [Spanned.kind, Node.kind] at hnewline
        rw [hskip, ih, unpairedFrom_cons]
        rfl
      · have hkeep : withoutNewlines (item :: rest) = item :: withoutNewlines rest := by
          simp [withoutNewlines, hnewline]
        rw [hkeep, marksFrom, List.filterMap_cons, item?_atDepth hnewline, ih, unpairedFrom_cons]
        by_cases hstays : staysObject depth item = true
        · simp [hstays]
        · simp [hstays]

/-! ## The fold -/

theorem objects_foldMacros {nodes : List (Spanned Node)}
    (hflat : ∀ item ∈ nodes, item.kind ≠ .macroDefinition) :
    objects (foldMacros nodes) = unpairedNodes nodes := by
  rw [objects_eq_documentOrder, ← filterMap_writtenMarks, writtenMarks_foldMacros nodes hflat,
    filterMap_marksFrom]
  rfl

theorem mem_of_mem_unpairedNodes {nodes : List (Spanned Node)} {item : Spanned Node}
    (hitem : item ∈ unpairedNodes nodes) : item ∈ nodes := by
  obtain ⟨indexed, hindexed, rfl⟩ := List.mem_map.mp hitem
  exact List.fst_mem_of_mem_zipIdx (List.mem_filter.mp hindexed).1

/-- The lineage of a list is that of its fold, whatever the list holds, and the
objects of the fold of a flat list are the nodes that no pair takes away. -/
theorem foldMacros_transparent (nodes : List (Spanned Node)) :
    LineageGraph.ofNodes (foldMacros nodes) = LineageGraph.ofNodes nodes ∧
      ((∀ item ∈ nodes, item.kind ≠ .macroDefinition) →
        objects (foldMacros nodes) = unpairedNodes nodes) := by
  constructor
  · exact addNodes_foldMacros .empty nodes
  · intro hflat
    exact objects_foldMacros hflat

def lineOf (line : Nat) (node : Node) : Spanned Node := ⟨node, ⟨⟨line, 0⟩, ⟨line, 8⟩⟩⟩

/-- A pair around a data step, with a closing marker too many on either side and an
opening marker too many at the end. -/
def strayMarkers : List (Spanned Node) :=
  [lineOf 1 .macroEnd,
   lineOf 2 (.macroStart ⟨.ofLiteral "load", none, none⟩),
   lineOf 3 .newline,
   lineOf 4 (.dataStep
     ⟨[⟨none, .ofLiteral "a", none⟩], [⟨none, .ofLiteral "b", none⟩], "", "", none⟩),
   lineOf 5 .macroEnd,
   lineOf 6 .macroEnd,
   lineOf 7 (.macroStart ⟨.ofLiteral "tail", none, none⟩),
   lineOf 8 (.comment ⟨"inside"⟩)]

theorem foldMacros_transparent_of_strays :
    (∀ item ∈ strayMarkers, item.kind ≠ .macroDefinition) ∧
      LineageGraph.ofNodes (foldMacros strayMarkers) = LineageGraph.ofNodes strayMarkers ∧
      (objects (foldMacros strayMarkers)).map (fun item => item.span.start.line) =
        [1, 4, 6, 8] := by
  have hflat : ∀ item ∈ strayMarkers, item.kind ≠ .macroDefinition := by decide
  obtain ⟨hlineage, hobjects⟩ := foldMacros_transparent strayMarkers
  refine ⟨hflat, hlineage, ?_⟩
  rw [hobjects hflat]
  rfl

end SasOutline
