import SasOutline.MacroFolding
import Mathlib.Tactic

/-!
# Macro markers as brackets

A flat list of nodes is a word with brackets that need not be balanced.  A tree
of macro definitions can be written back as such a word: the opening marker of a
definition, its contents, and a closing marker when the definition has one.

The fold of a list reads like the list.  How many macros are open in front of
the list decides which closing markers are nodes, and nothing else.
-/

namespace SasOutline

/-! ## Reading a list and a tree -/

inductive Mark where
  | opening (heading : MacroHeading)
  | closing
  | node (item : Spanned Node)

namespace Mark

/-- A node of a flat list, where an opening marker counts by its printed heading
and all closing markers are alike. -/
def ofItem (item : Spanned Node) : Mark :=
  match item.node with
  | .macroStart start => .opening start.heading
  | .macroEnd => .closing
  | _ => .node item

/-- A closing marker that stayed a node reads like any other. -/
def plain : Mark → Mark
  | .node ⟨.macroEnd, _⟩ => .closing
  | mark => mark

def ending (terminated : Bool) : List Mark :=
  if terminated then [.closing] else []

end Mark

def writtenMarks : List (Spanned Node) → List Mark
  | [] => []
  | ⟨.macroDefinition heading contents terminated, _⟩ :: rest =>
      .opening heading ::
        (writtenMarks contents ++ (Mark.ending terminated ++ writtenMarks rest))
  | item :: rest => .node item :: writtenMarks rest

def withoutNewlines (nodes : List (Spanned Node)) : List (Spanned Node) :=
  nodes.filter fun item => item.kind ≠ .newline

/-- A closing marker with nothing open leaves the depth at zero. -/
def depthAfter (depth : Nat) (item : Spanned Node) : Nat :=
  match item.node with
  | .macroStart _ => depth + 1
  | .macroEnd => depth - 1
  | _ => depth

/-- The number of macros that are open behind a list of nodes. -/
def openMacros (nodes : List (Spanned Node)) : Nat :=
  nodes.foldl depthAfter 0

/-! ## Trees by induction -/

@[elab_as_elim]
theorem treeInduction {motive : List (Spanned Node) → Prop}
    (nil : motive [])
    (definition : ∀ heading contents terminated span rest,
      motive contents → motive rest →
        motive (⟨.macroDefinition heading contents terminated, span⟩ :: rest))
    (leaf : ∀ item rest, item.kind ≠ .macroDefinition → motive rest →
      motive (item :: rest))
    (tree : List (Spanned Node)) : motive tree := by
  fun_induction macroDefinitions tree with
  | case1 => exact nil
  | case2 heading contents terminated span rest hcontents hrest =>
      exact definition heading contents terminated span rest hcontents hrest
  | case3 item rest hleaf ih =>
      apply leaf item rest _ ih
      intro hkind
      obtain ⟨node, span⟩ := item
      cases node <;> simp [Spanned.kind, Node.kind] at hkind
      exact hleaf _ _ _ _ rfl

section Leaf

variable {item : Spanned Node} (hleaf : item.kind ≠ .macroDefinition)
  (rest : List (Spanned Node))

include hleaf

theorem writtenMarks_leaf :
    writtenMarks (item :: rest) = .node item :: writtenMarks rest := by
  obtain ⟨node, span⟩ := item
  cases node <;> simp_all [writtenMarks, Spanned.kind, Node.kind]

theorem macroDefinitions_leaf :
    macroDefinitions (item :: rest) = macroDefinitions rest := by
  obtain ⟨node, span⟩ := item
  cases node <;> simp_all [macroDefinitions, Spanned.kind, Node.kind]

end Leaf

/-! ## The marks of a flat list -/

/-- What a node reads like when `depth` macros are open in front of it: a closing
marker that closes nothing is a node. -/
def Mark.atDepth (depth : Nat) (item : Spanned Node) : Mark :=
  if item.kind = .macroEnd ∧ depth = 0 then .node item else .ofItem item

def marksFrom (depth : Nat) : List (Spanned Node) → List Mark
  | [] => []
  | item :: rest => Mark.atDepth depth item :: marksFrom (depthAfter depth item) rest

theorem Mark.plain_atDepth (depth : Nat) (item : Spanned Node) :
    (Mark.atDepth depth item).plain = Mark.ofItem item := by
  obtain ⟨node, span⟩ := item
  cases node with
  | macroEnd =>
      by_cases hdepth : depth = 0
      · simp [Mark.atDepth, Mark.plain, Mark.ofItem, Spanned.kind, Node.kind, hdepth]
      · simp [Mark.atDepth, Mark.plain, Mark.ofItem, Spanned.kind, Node.kind, hdepth]
  | _ => simp [Mark.atDepth, Mark.plain, Mark.ofItem, Spanned.kind, Node.kind]

theorem Mark.atDepth_eq_stray_iff (depth : Nat) (item : Spanned Node) (span : Span) :
    Mark.atDepth depth item = .node ⟨.macroEnd, span⟩ ↔
      item = ⟨.macroEnd, span⟩ ∧ depth = 0 := by
  obtain ⟨node, region⟩ := item
  cases node with
  | macroEnd =>
      by_cases hdepth : depth = 0
      · simp [Mark.atDepth, Spanned.kind, Node.kind, hdepth]
      · simp [Mark.atDepth, Mark.ofItem, Spanned.kind, Node.kind, hdepth]
  | _ => simp [Mark.atDepth, Mark.ofItem, Spanned.kind, Node.kind]

theorem map_plain_marksFrom (depth : Nat) (nodes : List (Spanned Node)) :
    (marksFrom depth nodes).map Mark.plain = nodes.map Mark.ofItem := by
  induction nodes generalizing depth with
  | nil => rfl
  | cons item rest ih =>
      simp only [marksFrom, List.map_cons]
      rw [Mark.plain_atDepth, ih]

theorem marksFrom_stray_iff (depth : Nat) (nodes : List (Spanned Node)) (i : Nat)
    (span : Span) :
    (marksFrom depth nodes)[i]? = some (.node ⟨.macroEnd, span⟩) ↔
      nodes[i]? = some ⟨.macroEnd, span⟩ ∧
        (nodes.take i).foldl depthAfter depth = 0 := by
  induction nodes generalizing depth i with
  | nil => simp [marksFrom]
  | cons item rest ih =>
      cases i with
      | zero => simp [marksFrom, Mark.atDepth_eq_stray_iff]
      | succ i => simp [marksFrom, ih]

/-! ## The fold reads like its list -/

/-- The marks of closing markers without a partner when `depth` macros are open
in front of them. -/
def writtenClosings : Nat → List (Span × List (Spanned Node)) → List Mark
  | _, [] => []
  | 0, (span, following) :: closings =>
      .node ⟨.macroEnd, span⟩ :: (writtenMarks following ++ writtenClosings 0 closings)
  | depth + 1, (_, following) :: closings =>
      .closing :: (writtenMarks following ++ writtenClosings depth closings)

theorem writtenMarks_append (tree other : List (Spanned Node)) :
    writtenMarks (tree ++ other) = writtenMarks tree ++ writtenMarks other := by
  induction tree using treeInduction with
  | nil => simp [writtenMarks]
  | definition heading contents terminated span rest _ hrest =>
      simp only [List.cons_append, writtenMarks, List.append_assoc]
      rw [hrest]
  | leaf item rest hleaf ih =>
      simp only [List.cons_append]
      rw [writtenMarks_leaf hleaf, writtenMarks_leaf hleaf, ih, List.cons_append]

theorem FoldedNodes.writtenMarks_toList (folded : FoldedNodes) :
    writtenMarks folded.toList =
      writtenMarks folded.leading ++ writtenClosings 0 folded.closings := by
  unfold FoldedNodes.toList
  rw [writtenMarks_append]
  congr 1
  induction folded.closings with
  | nil => simp [writtenMarks, writtenClosings]
  | cons closing closings ih =>
      simp only [List.flatMap_cons, writtenClosings]
      rw [writtenMarks_append, ih, writtenMarks_leaf (by simp [Spanned.kind, Node.kind]),
        List.cons_append]

theorem FoldedNodes.written_enclose (folded : FoldedNodes) (start : MacroStart)
    (opened : Span) (depth : Nat) :
    writtenMarks (folded.enclose start opened).leading ++
        writtenClosings depth (folded.enclose start opened).closings =
      .opening start.heading ::
        (writtenMarks folded.leading ++ writtenClosings (depth + 1) folded.closings) := by
  unfold FoldedNodes.enclose
  cases folded.closings with
  | nil => simp [writtenMarks, writtenClosings, Mark.ending]
  | cons closing closings => simp [writtenMarks, writtenClosings, Mark.ending]

theorem FoldedNodes.written_close (folded : FoldedNodes) (span : Span) (depth : Nat) :
    writtenMarks (folded.close span).leading ++
        writtenClosings depth (folded.close span).closings =
      Mark.atDepth depth ⟨.macroEnd, span⟩ ::
        (writtenMarks folded.leading ++ writtenClosings (depth - 1) folded.closings) := by
  cases depth with
  | zero => simp [FoldedNodes.close, writtenMarks, writtenClosings, Mark.atDepth, Spanned.kind,
      Node.kind]
  | succ depth => simp [FoldedNodes.close, writtenMarks, writtenClosings, Mark.atDepth,
      Mark.ofItem]

theorem FoldedNodes.written_push (folded : FoldedNodes) {item : Spanned Node}
    (hleaf : item.kind ≠ .macroDefinition) (depth : Nat) :
    writtenMarks (folded.push item).leading ++
        writtenClosings depth (folded.push item).closings =
      .node item ::
        (writtenMarks folded.leading ++ writtenClosings depth folded.closings) := by
  unfold FoldedNodes.push
  rw [writtenMarks_leaf hleaf, List.cons_append]

/-- The open depth in front of a list decides which of its closing markers are
nodes, and nothing else about what it reads like. -/
theorem written_foldNodes (depth : Nat) (nodes : List (Spanned Node))
    (hflat : ∀ item ∈ nodes, item.kind ≠ .macroDefinition) :
    writtenMarks (foldNodes nodes).leading ++
        writtenClosings depth (foldNodes nodes).closings =
      marksFrom depth (withoutNewlines nodes) := by
  induction nodes generalizing depth with
  | nil => simp [foldNodes, FoldedNodes.empty, writtenMarks, writtenClosings,
      withoutNewlines, marksFrom]
  | cons item rest ih =>
      have hrest : ∀ other ∈ rest, other.kind ≠ .macroDefinition := by
        intro other hmem
        exact hflat other (List.mem_cons_of_mem item hmem)
      have hitem := hflat item List.mem_cons_self
      obtain ⟨node, span⟩ := item
      cases node with
      | newline =>
          have hskip : withoutNewlines (⟨.newline, span⟩ :: rest) = withoutNewlines rest := rfl
          rw [hskip]
          exact ih depth hrest
      | macroStart start =>
          have hkeep : withoutNewlines (⟨.macroStart start, span⟩ :: rest) =
              ⟨.macroStart start, span⟩ :: withoutNewlines rest := rfl
          rw [hkeep]
          simp only [foldNodes, marksFrom, depthAfter]
          rw [FoldedNodes.written_enclose, ih (depth + 1) hrest]
          rfl
      | macroEnd =>
          have hkeep : withoutNewlines (⟨.macroEnd, span⟩ :: rest) =
              ⟨.macroEnd, span⟩ :: withoutNewlines rest := rfl
          rw [hkeep]
          simp only [foldNodes, marksFrom, depthAfter]
          rw [FoldedNodes.written_close, ih (depth - 1) hrest]
      | macroDefinition => exact absurd rfl hitem
      | _ =>
          simp only [foldNodes]
          rw [FoldedNodes.written_push _ hitem, ih depth hrest]
          rfl

theorem writtenMarks_foldMacros (nodes : List (Spanned Node))
    (hflat : ∀ item ∈ nodes, item.kind ≠ .macroDefinition) :
    writtenMarks (foldMacros nodes) = marksFrom 0 (withoutNewlines nodes) := by
  unfold foldMacros
  rw [FoldedNodes.writtenMarks_toList, written_foldNodes 0 nodes hflat]

end SasOutline
