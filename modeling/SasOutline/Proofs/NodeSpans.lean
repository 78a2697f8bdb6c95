import SasOutline.Proofs.PositionOrder
import SasOutline.Proofs.ScanTurns

/-!
# The spans of the nodes of a scan

A scan carries a position along while it reads.  The position it has in front of
a character is the one that reading all of the text before it gives, so the span
of a node depends on nothing but the byte range that the match reported for it.

Spans are therefore never empty, follow each other without overlap, and stay
within the lines of the text.
-/

namespace SasOutline

/-- The position reached after the first `offset` bytes of a text. -/
def positionAt (text : String) (offset : Nat) : Position :=
  Position.start.advance (String.Pos.Raw.extract text 0 ⟨offset⟩).toList

namespace Cursor

def position (cursor : Cursor) : Position :=
  Position.start.advance cursor.before.reverse

theorem InText.positionAt_offset {text : String} {cursor : Cursor} (h : cursor.InText text) :
    positionAt text cursor.offset = cursor.position := by
  unfold positionAt position
  rw [h.extract_zero_eq]

theorem Reaches.position_eq {cursor later : Cursor} (reaches : cursor.Reaches later) :
    cursor.position.advance (cursor.textUntil later) = later.position := by
  unfold position
  rw [reaches.textUntil_append.2, List.reverse_append, List.reverse_reverse,
    Position.advance_append]

theorem Reaches.position_le {cursor later : Cursor} (reaches : cursor.Reaches later) :
    cursor.position ≤ later.position := by
  rw [← reaches.position_eq]
  exact Position.le_advance _ _

theorem Passes.position_lt {cursor later : Cursor} (passes : cursor.Passes later) :
    cursor.position < later.position := by
  rw [← passes.reaches.position_eq]
  exact Position.lt_advance _ passes.textUntil_ne_nil

theorem InText.position_line_le {text : String} {cursor : Cursor} (h : cursor.InText text) :
    cursor.position.line ≤ 1 + text.toList.count '\n' := by
  unfold position
  rw [Position.line_advance, h.toList_eq, List.count_append]
  simp only [Position.start]
  omega

theorem bump?_position {cursor after : Cursor} {ch : Char}
    (h : cursor.bump? = some (ch, after)) :
    cursor.position.advanceChar ch = after.position := by
  unfold position
  rw [(bump?_eq_some h).2, List.reverse_cons, Position.advance_append]
  rfl

end Cursor

/-! ## Placing the items of a match -/

namespace MatchItem

def placed (item : MatchItem) : Spanned Node :=
  ⟨item.node, ⟨item.start.position, item.stop.position⟩⟩

end MatchItem

theorem placeItems_eq {scanned rest : Cursor} {items : List MatchItem}
    (h : LaidOut scanned items rest) :
    placeItems scanned.position scanned rest items =
      (items.map MatchItem.placed, rest.position) := by
  induction items generalizing scanned with
  | nil =>
      have reaches : scanned.Reaches rest := h
      simp [placeItems, reaches.position_eq]
  | cons item items ih =>
      obtain ⟨toStart, toStop, hitems⟩ := h
      simp only [placeItems, toStart.position_eq, toStop.reaches.position_eq, ih hitems]
      rfl

/-! ## Placing the items of a scan -/

namespace Grammar

/-- The items of all matches of a scan, with the cursors that the matching
constructs reported. -/
def itemsFrom (grammar : Grammar) (cursor : Cursor) : List MatchItem :=
  ((grammar.steps cursor).filterMap ScanStep.found?).flatMap ConstructMatch.items

def reportedItems (grammar : Grammar) (text : String) : List MatchItem :=
  grammar.itemsFrom (.ofText text)

theorem placeSteps_eq (grammar : Grammar) (cursor : Cursor) :
    placeSteps cursor.position (grammar.steps cursor) =
      (grammar.itemsFrom cursor).map MatchItem.placed := by
  unfold itemsFrom
  fun_induction steps grammar cursor with
  | case1 cursor found hfound ih =>
      have hplaced := placeItems_eq (firstMatch?_startsAt hfound)
      simp only [placeSteps, hplaced, ih]
      simp
  | case2 cursor hnone ch after hbump ih =>
      simp only [placeSteps, Cursor.bump?_position hbump, ih, List.filterMap_cons,
        ScanStep.found?_skipped]
  | case3 cursor hnone hbump => rfl

theorem itemsFrom_laidOut (grammar : Grammar) (cursor : Cursor) :
    ∃ stop, LaidOut cursor (grammar.itemsFrom cursor) stop := by
  unfold itemsFrom
  fun_induction steps grammar cursor with
  | case1 cursor found hfound ih =>
      obtain ⟨stop, hstop⟩ := ih
      refine ⟨stop, ?_⟩
      simpa using (firstMatch?_startsAt hfound).append hstop
  | case2 cursor hnone ch after hbump ih =>
      obtain ⟨stop, hstop⟩ := ih
      refine ⟨stop, ?_⟩
      simpa [List.filterMap_cons] using
        hstop.of_reaches (Cursor.bump?_passes hbump).reaches
  | case3 cursor hnone hbump => exact ⟨cursor, Cursor.Reaches.refl cursor⟩

end Grammar

/-! ## What the layout says about the spans -/

namespace LaidOut

theorem pairwise_reaches {cursor rest : Cursor} {items : List MatchItem}
    (h : LaidOut cursor items rest) :
    items.Pairwise fun first second => first.stop.Reaches second.start := by
  induction items generalizing cursor with
  | nil => exact List.Pairwise.nil
  | cons item items ih =>
      obtain ⟨-, -, hitems⟩ := h
      refine List.pairwise_cons.2 ⟨?_, ih hitems⟩
      intro second hsecond
      exact (hitems.item_inside hsecond).1

end LaidOut

namespace Grammar

theorem scan_nodes_eq (grammar : Grammar) (text : String) :
    (grammar.scan text).nodes = (grammar.reportedItems text).map MatchItem.placed :=
  grammar.placeSteps_eq (.ofText text)

theorem reportedItems_inText {grammar : Grammar} {text : String} {item : MatchItem}
    (h : item ∈ grammar.reportedItems text) :
    item.start.InText text ∧ item.stop.InText text ∧ item.start.Passes item.stop := by
  obtain ⟨stop, hlaid⟩ := grammar.itemsFrom_laidOut (.ofText text)
  obtain ⟨toStart, passes, -⟩ := hlaid.item_inside h
  exact ⟨toStart, toStart.trans passes.reaches, passes⟩

/-- The span of a node is given by the byte range that was reported for it.  No
span is empty, none begins before an earlier one has ended, and none leaves the
lines of the text. -/
theorem scan_spans_exact (grammar : Grammar) (text : String) :
    (grammar.scan text).nodes = (grammar.reportedItems text).map (fun item =>
        ⟨item.node, ⟨positionAt text item.start.offset, positionAt text item.stop.offset⟩⟩) ∧
      (∀ item ∈ grammar.reportedItems text, item.start.InText text ∧ item.stop.InText text) ∧
      (∀ node ∈ (grammar.scan text).nodes, node.span.start < node.span.stop) ∧
      (grammar.scan text).nodes.Pairwise
        (fun first second => first.span.stop ≤ second.span.start) ∧
      ∀ node ∈ (grammar.scan text).nodes,
        node.span.start.line ≤ 1 + text.toList.count '\n' ∧
          node.span.stop.line ≤ 1 + text.toList.count '\n' := by
  rw [scan_nodes_eq]
  refine ⟨?_, ?_, ?_, ?_, ?_⟩
  · apply List.map_congr_left
    intro item hitem
    obtain ⟨hstart, hstop, -⟩ := reportedItems_inText hitem
    rw [hstart.positionAt_offset, hstop.positionAt_offset]
    rfl
  · intro item hitem
    obtain ⟨hstart, hstop, -⟩ := reportedItems_inText hitem
    exact ⟨hstart, hstop⟩
  · intro node hnode
    obtain ⟨item, hitem, rfl⟩ := List.mem_map.1 hnode
    exact (reportedItems_inText hitem).2.2.position_lt
  · obtain ⟨stop, hlaid⟩ := grammar.itemsFrom_laidOut (.ofText text)
    rw [List.pairwise_map]
    exact hlaid.pairwise_reaches.imp fun reaches => reaches.position_le
  · intro node hnode
    obtain ⟨item, hitem, rfl⟩ := List.mem_map.1 hnode
    obtain ⟨hstart, hstop, -⟩ := reportedItems_inText hitem
    exact ⟨hstart.position_line_le, hstop.position_line_le⟩

end Grammar

end SasOutline
