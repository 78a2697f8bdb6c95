import SasOutline.SourcePosition
import Mathlib.Tactic

/-!
# The order of positions

Positions are compared by line first and by column within a line.  Reading a
character moves a position forward in this order, and the line number counts the
line feeds that were read.
-/

namespace SasOutline

namespace Position

instance : LT Position :=
  ⟨fun first second => first.line < second.line ∨
    first.line = second.line ∧ first.column < second.column⟩

instance : LE Position :=
  ⟨fun first second => first.line < second.line ∨
    first.line = second.line ∧ first.column ≤ second.column⟩

theorem lt_def {first second : Position} :
    first < second ↔ first.line < second.line ∨
      first.line = second.line ∧ first.column < second.column := Iff.rfl

theorem le_def {first second : Position} :
    first ≤ second ↔ first.line < second.line ∨
      first.line = second.line ∧ first.column ≤ second.column := Iff.rfl

instance : LinearOrder Position where
  le_refl first := by
    rw [le_def]
    omega
  le_trans first second third hleft hright := by
    rw [le_def] at hleft hright ⊢
    omega
  le_antisymm first second hleft hright := by
    rw [le_def] at hleft hright
    have hline : first.line = second.line := by omega
    have hcolumn : first.column = second.column := by omega
    cases first
    simp_all
  le_total first second := by
    rw [le_def, le_def]
    omega
  lt_iff_le_not_ge first second := by
    rw [lt_def, le_def, le_def]
    omega
  toDecidableLE _ _ := decidable_of_iff _ le_def.symm
  toDecidableLT _ _ := decidable_of_iff _ lt_def.symm

theorem lt_advanceChar (position : Position) (ch : Char) :
    position < position.advanceChar ch := by
  unfold advanceChar
  rw [lt_def]
  split
  · simp
  · simp

theorem le_advance (position : Position) (text : List Char) :
    position ≤ position.advance text := by
  induction text generalizing position with
  | nil => exact le_refl position
  | cons ch text ih =>
      rw [advance_cons]
      exact le_trans (position.lt_advanceChar ch).le (ih _)

theorem lt_advance (position : Position) {text : List Char} (htext : text ≠ []) :
    position < position.advance text := by
  cases text with
  | nil => exact (htext rfl).elim
  | cons ch text =>
      rw [advance_cons]
      exact lt_of_lt_of_le (position.lt_advanceChar ch) (le_advance _ text)

theorem line_advance (position : Position) (text : List Char) :
    (position.advance text).line = position.line + text.count '\n' := by
  induction text generalizing position with
  | nil => rfl
  | cons ch text ih =>
      rw [advance_cons, ih, List.count_cons]
      unfold advanceChar
      by_cases hfeed : ch = '\n'
      · simp [hfeed]
        omega
      · simp [hfeed]

end Position

end SasOutline
