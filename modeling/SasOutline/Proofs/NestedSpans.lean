import SasOutline.Program
import SasOutline.Proofs.MacroDelimiters
import SasOutline.Proofs.MacroNesting
import SasOutline.Proofs.NodeOrigin

/-!
# The spans of a tree of macro definitions

The nodes of a scan follow each other without overlap.  Folding them puts the span
of a definition around the spans of its contents, so the nodes of every list in the
tree follow each other, and each definition covers what it holds.

The invariant goes along the tree and says between which positions the nodes of a
list lie.  Folding keeps these positions.
-/

namespace SasOutline

/-- No span is empty, no node begins in front of the end of an earlier one in its
list, and a definition covers its contents. -/
structure HasNestedSpans (tree : List (Spanned Node)) : Prop where
  nonempty : ∀ level, IsLevel tree level → ∀ item ∈ level, item.span.start < item.span.stop
  ordered : ∀ level, IsLevel tree level →
    level.Pairwise fun first second => first.span.stop ≤ second.span.start
  covered : ∀ heading contents terminated span,
    ⟨.macroDefinition heading contents terminated, span⟩ ∈ macroDefinitions tree →
      ∀ item ∈ contents, span.start ≤ item.span.start ∧ item.span.stop ≤ span.stop

/-! ## Nodes between two positions -/

/-- The nodes follow each other between `start` and `stop`, and the contents of a
definition do so between the ends of its span. -/
def SpansWithin : Position → List (Spanned Node) → Position → Prop
  | start, [], stop => start ≤ stop
  | start, ⟨.macroDefinition _ contents _, span⟩ :: rest, stop =>
      start ≤ span.start ∧ span.start < span.stop ∧
        SpansWithin span.start contents span.stop ∧ SpansWithin span.stop rest stop
  | start, item :: rest, stop =>
      start ≤ item.span.start ∧ item.span.start < item.span.stop ∧
        SpansWithin item.span.stop rest stop

theorem spansWithin_leaf {item : Spanned Node} (hleaf : item.kind ≠ .macroDefinition)
    (start : Position) (rest : List (Spanned Node)) (stop : Position) :
    SpansWithin start (item :: rest) stop ↔
      start ≤ item.span.start ∧ item.span.start < item.span.stop ∧
        SpansWithin item.span.stop rest stop := by
  obtain ⟨node, span⟩ := item
  cases node <;> simp_all [SpansWithin, Spanned.kind, Node.kind]

namespace SpansWithin

variable {start stop : Position} {tree : List (Spanned Node)}

/-- What holds of the first node of a list, be it a definition or not. -/
theorem cons {item : Spanned Node} (h : SpansWithin start (item :: tree) stop) :
    start ≤ item.span.start ∧ item.span.start < item.span.stop ∧
      SpansWithin item.span.stop tree stop := by
  obtain ⟨node, span⟩ := item
  cases node with
  | macroDefinition heading contents terminated =>
      simp only [SpansWithin] at h
      exact ⟨h.1, h.2.1, h.2.2.2⟩
  | _ => simpa only [SpansWithin] using h

theorem le (h : SpansWithin start tree stop) : start ≤ stop := by
  induction tree generalizing start with
  | nil => simpa only [SpansWithin] using h
  | cons item rest ih =>
      obtain ⟨hstart, hspan, hrest⟩ := h.cons
      exact (hstart.trans hspan.le).trans (ih hrest)

theorem of_le {earlier : Position} (h : SpansWithin start tree stop)
    (hearlier : earlier ≤ start) : SpansWithin earlier tree stop := by
  cases tree using treeInduction with
  | nil =>
      simp only [SpansWithin] at h ⊢
      exact hearlier.trans h
  | definition heading contents terminated span rest _ _ =>
      simp only [SpansWithin] at h ⊢
      exact ⟨hearlier.trans h.1, h.2⟩
  | leaf item rest hleaf _ =>
      rw [spansWithin_leaf hleaf] at h ⊢
      exact ⟨hearlier.trans h.1, h.2⟩

theorem item_within (h : SpansWithin start tree stop) {item : Spanned Node}
    (hitem : item ∈ tree) :
    start ≤ item.span.start ∧ item.span.start < item.span.stop ∧ item.span.stop ≤ stop := by
  induction tree generalizing start with
  | nil => contradiction
  | cons first rest ih =>
      obtain ⟨hstart, hspan, hrest⟩ := h.cons
      rcases List.mem_cons.mp hitem with rfl | hlater
      · exact ⟨hstart, hspan, hrest.le⟩
      · obtain ⟨hbehind, hwithin⟩ := ih hrest hlater
        exact ⟨(hstart.trans hspan.le).trans hbehind, hwithin⟩

theorem pairwise (h : SpansWithin start tree stop) :
    tree.Pairwise fun first second => first.span.stop ≤ second.span.start := by
  induction tree generalizing start with
  | nil => exact List.Pairwise.nil
  | cons item rest ih =>
      obtain ⟨-, -, hrest⟩ := h.cons
      refine List.pairwise_cons.mpr ⟨?_, ih hrest⟩
      intro second hsecond
      exact (hrest.item_within hsecond).1

theorem contents_within (h : SpansWithin start tree stop) {heading : MacroHeading}
    {contents : List (Spanned Node)} {terminated : Bool} {span : Span}
    (hmem : ⟨.macroDefinition heading contents terminated, span⟩ ∈ macroDefinitions tree) :
    SpansWithin span.start contents span.stop := by
  induction tree using treeInduction generalizing start stop with
  | nil => simp [macroDefinitions] at hmem
  | definition other body closed region rest hbody hrest =>
      simp only [SpansWithin] at h
      simp only [macroDefinitions, List.mem_cons, List.mem_append] at hmem
      rcases hmem with hhere | hinside | hbehind
      · simp only [Spanned.mk.injEq, Node.macroDefinition.injEq] at hhere
        obtain ⟨⟨rfl, rfl, rfl⟩, rfl⟩ := hhere
        exact h.2.2.1
      · exact hbody h.2.2.1 hinside
      · exact hrest h.2.2.2 hbehind
  | leaf item rest hleaf ih =>
      rw [macroDefinitions_leaf hleaf] at hmem
      exact ih h.cons.2.2 hmem

theorem hasNestedSpans (h : SpansWithin start tree stop) : HasNestedSpans tree := by
  have hlevel : ∀ level, IsLevel tree level → ∃ first last, SpansWithin first level last := by
    rintro level (rfl | ⟨heading, terminated, span, hmem⟩)
    · exact ⟨start, stop, h⟩
    · exact ⟨span.start, span.stop, h.contents_within hmem⟩
  constructor
  · intro level hin item hitem
    obtain ⟨first, last, hwithin⟩ := hlevel level hin
    exact (hwithin.item_within hitem).2.1
  · intro level hin
    obtain ⟨first, last, hwithin⟩ := hlevel level hin
    exact hwithin.pairwise
  · intro heading contents terminated span hmem item hitem
    obtain ⟨hstart, -, hstop⟩ := (h.contents_within hmem).item_within hitem
    exact ⟨hstart, hstop⟩

end SpansWithin

/-! ## Folding keeps nodes between their positions -/

theorem spansWithin_append {start stop : Position} {first second : List (Spanned Node)} :
    SpansWithin start (first ++ second) stop ↔
      ∃ middle, SpansWithin start first middle ∧ SpansWithin middle second stop := by
  induction first using treeInduction generalizing start with
  | nil =>
      simp only [List.nil_append, SpansWithin]
      constructor
      · intro h
        exact ⟨start, le_refl start, h⟩
      · rintro ⟨middle, hmiddle, h⟩
        exact h.of_le hmiddle
  | definition heading contents terminated span rest _ ih =>
      simp only [List.cons_append, SpansWithin, ih]
      constructor
      · rintro ⟨hstart, hspan, hcontents, middle, hrest, hsecond⟩
        exact ⟨middle, ⟨hstart, hspan, hcontents, hrest⟩, hsecond⟩
      · rintro ⟨middle, ⟨hstart, hspan, hcontents, hrest⟩, hsecond⟩
        exact ⟨hstart, hspan, hcontents, middle, hrest, hsecond⟩
  | leaf item rest hleaf ih =>
      simp only [List.cons_append, spansWithin_leaf hleaf, ih]
      constructor
      · rintro ⟨hstart, hspan, middle, hrest, hsecond⟩
        exact ⟨middle, ⟨hstart, hspan, hrest⟩, hsecond⟩
      · rintro ⟨middle, ⟨hstart, hspan, hrest⟩, hsecond⟩
        exact ⟨hstart, hspan, middle, hrest, hsecond⟩

theorem contentsStop_cons (opened : Span) (item : Spanned Node) (rest : List (Spanned Node)) :
    contentsStop opened (item :: rest) = contentsStop item.span rest := by
  unfold contentsStop
  rw [List.getLast?_cons]
  cases rest.getLast? <;> rfl

/-- Nodes behind a marker lie between the end of the marker and the end of the last
of them. -/
theorem SpansWithin.upto_contentsStop {opened : Span} {tree : List (Spanned Node)}
    {stop : Position} (h : SpansWithin opened.stop tree stop) :
    SpansWithin opened.stop tree (contentsStop opened tree) := by
  induction tree using treeInduction generalizing opened with
  | nil =>
      simp only [SpansWithin]
      exact le_refl opened.stop
  | definition heading contents terminated span rest _ ih =>
      simp only [contentsStop_cons, SpansWithin] at h ⊢
      exact ⟨h.1, h.2.1, h.2.2.1, ih h.2.2.2⟩
  | leaf item rest hleaf ih =>
      rw [spansWithin_leaf hleaf] at h ⊢
      rw [contentsStop_cons]
      exact ⟨h.1, h.2.1, ih h.2.2⟩

theorem SpansWithin.contentsStop_le {opened : Span} {tree : List (Spanned Node)}
    {stop : Position} (h : SpansWithin opened.stop tree stop) :
    contentsStop opened tree ≤ stop := by
  unfold contentsStop
  split
  · next last hlast => exact (h.item_within (List.mem_of_getLast? hlast)).2.2
  · exact h.le

theorem SpansWithin.to_le {start stop later : Position} {tree : List (Spanned Node)}
    (h : SpansWithin start tree stop) (hlater : stop ≤ later) : SpansWithin start tree later := by
  rw [← List.append_nil tree, spansWithin_append]
  refine ⟨stop, h, ?_⟩
  simpa only [SpansWithin] using hlater

/-- The span of a definition is put around its contents, and what stands behind it
stays behind. -/
theorem SpansWithin.enclose {folded : FoldedNodes} {opened : Span} {first stop : Position}
    (hfirst : first ≤ opened.start) (hopened : opened.start < opened.stop)
    (h : SpansWithin opened.stop folded.toList stop) (start : MacroStart) :
    SpansWithin first (folded.enclose start opened).toList stop := by
  obtain ⟨leading, closings⟩ := folded
  cases closings with
  | nil =>
      rw [FoldedNodes.toList_without_closings] at h
      have hcontents := h.upto_contentsStop
      rw [FoldedNodes.toList_enclose_without_closings]
      simp only [SpansWithin]
      exact ⟨hfirst, hopened.trans_le hcontents.le, hcontents.of_le hopened.le,
        h.contentsStop_le⟩
  | cons partner later =>
      obtain ⟨closed, following⟩ := partner
      rw [FoldedNodes.toList_closing, spansWithin_append] at h
      obtain ⟨middle, hleading, hmarker⟩ := h
      obtain ⟨hmiddle, hclosed, hbehind⟩ := hmarker.cons
      have hcontents := (hleading.of_le hopened.le).to_le (hmiddle.trans hclosed.le)
      have hnonempty : opened.start < closed.stop :=
        hopened.trans_le (hleading.le.trans (hmiddle.trans hclosed.le))
      rw [FoldedNodes.toList_enclose_closing]
      simp only [SpansWithin]
      exact ⟨hfirst, hnonempty, hcontents, hbehind⟩

theorem SpansWithin.foldMacros {start stop : Position} {nodes : List (Spanned Node)}
    (h : SpansWithin start nodes stop) : SpansWithin start (foldMacros nodes) stop := by
  unfold SasOutline.foldMacros
  induction nodes generalizing start with
  | nil => simpa [foldNodes, FoldedNodes.empty, FoldedNodes.toList] using h
  | cons item rest ih =>
      obtain ⟨hstart, hspan, hrest⟩ := h.cons
      have hfolded := ih hrest
      obtain ⟨node, span⟩ := item
      cases node with
      | newline => exact hfolded.of_le (hstart.trans hspan.le)
      | macroStart marker => exact SpansWithin.enclose hstart hspan hfolded marker
      | macroEnd =>
          simp only [foldNodes]
          rw [FoldedNodes.toList_close, spansWithin_leaf (by simp [Spanned.kind, Node.kind])]
          exact ⟨hstart, hspan, hfolded⟩
      | macroDefinition heading contents terminated =>
          simp only [foldNodes]
          rw [FoldedNodes.toList_push]
          simp only [SpansWithin] at h ⊢
          exact ⟨hstart, hspan, h.2.2.1, hfolded⟩
      | _ =>
          simp only [foldNodes]
          rw [FoldedNodes.toList_push, spansWithin_leaf (by simp [Spanned.kind, Node.kind])]
          exact ⟨hstart, hspan, hfolded⟩

/-! ## Programs -/

theorem LaidOut.spansWithin {cursor rest : Cursor} {items : List MatchItem}
    (h : LaidOut cursor items rest) (hread : ∀ item ∈ items, item.IsRead) :
    SpansWithin cursor.position (items.map MatchItem.placed) rest.position := by
  induction items generalizing cursor with
  | nil =>
      have reaches : cursor.Reaches rest := h
      simpa only [List.map_nil, SpansWithin] using reaches.position_le
  | cons item items ih =>
      obtain ⟨toStart, toStop, hitems⟩ := h
      have hleaf : item.placed.kind ≠ .macroDefinition :=
        (hread item List.mem_cons_self).kind_ne_macroDefinition
      have hlater := ih hitems fun other hother => hread other (List.mem_cons_of_mem item hother)
      rw [List.map_cons, spansWithin_leaf hleaf]
      exact ⟨toStart.position_le, toStop.position_lt, hlater⟩

theorem Grammar.scan_spansWithin (grammar : Grammar) (text : String) :
    ∃ stop, SpansWithin .start (grammar.scan text).nodes stop := by
  obtain ⟨rest, hlaid⟩ := grammar.itemsFrom_laidOut (.ofText text)
  refine ⟨rest.position, ?_⟩
  rw [scan_nodes_eq]
  exact hlaid.spansWithin (grammar.itemsFrom_isRead _)

/-- The spans of a program are nested as its macro definitions are.  The span of a
definition begins with its opening marker, and it ends with its own closing marker or,
when there is none, with the last node the definition holds. -/
theorem parse_spans_nested (grammar : Grammar) (text : String) (name : Option String) :
    HasNestedSpans (Program.parse grammar text name).contents ∧
      ∀ heading contents terminated span,
        ⟨.macroDefinition heading contents terminated, span⟩ ∈
            (Program.parse grammar text name).macroDefinitions →
          IsDelimited (grammar.scan text).nodes heading contents terminated span := by
  constructor
  · obtain ⟨stop, hscan⟩ := grammar.scan_spansWithin text
    exact hscan.foldMacros.hasNestedSpans
  · intro heading contents terminated span hmem
    exact isDelimited_of_mem_macroDefinitions (grammar.scan_flat text) hmem

end SasOutline
