import SasOutline.Cursor

/-!
# Quoted text

A quotation runs from a quotation mark to the next quotation mark.  Either mark
opens and either mark closes it, so a quotation never contains a mark.
-/

namespace SasOutline

def isQuotationMark (ch : Char) : Bool :=
  ch == '"' || ch == '\''

namespace Cursor

def quotationMark? (cursor : Cursor) : Option Cursor :=
  if cursor.peek.any isQuotationMark then some (cursor.skip 1) else none

/-- A quotation with its marks; it may be empty. -/
def quotedString? (cursor : Cursor) : Option (String × Cursor) := do
  let opened ← cursor.quotationMark?
  let closing := opened.skipWhile (! isQuotationMark ·)
  let stop ← closing.quotationMark?
  return (cursor.stringUntil stop, stop)

/-- The text between the marks of a quotation, which must not be empty. -/
def quotedPath? (cursor : Cursor) : Option (String × Cursor) := do
  let opened ← cursor.quotationMark?
  let closing ← opened.run? (! isQuotationMark ·)
  let stop ← closing.quotationMark?
  return (opened.stringUntil closing, stop)

theorem quotationMark?_passes {cursor later : Cursor}
    (h : cursor.quotationMark? = some later) : cursor.Passes later := by
  unfold quotationMark? at h
  split at h
  · next hpeek =>
    obtain rfl := Option.some.inj h
    refine skip_passes Nat.one_pos ?_
    intro hrest
    simp [peek, hrest] at hpeek
  · contradiction

theorem quotedString?_passes {cursor later : Cursor} {text : String}
    (h : cursor.quotedString? = some (text, later)) : cursor.Passes later := by
  obtain ⟨opened, hopened, h⟩ := Option.bind_eq_some_iff.1 h
  obtain ⟨stop, hstop, h⟩ := Option.bind_eq_some_iff.1 h
  obtain ⟨-, rfl⟩ := Prod.mk.inj (Option.some.inj h)
  exact (quotationMark?_passes hopened).trans
    ((opened.skipWhile_reaches _).trans_passes (quotationMark?_passes hstop))

theorem quotedPath?_passes {cursor later : Cursor} {text : String}
    (h : cursor.quotedPath? = some (text, later)) : cursor.Passes later := by
  obtain ⟨opened, hopened, h⟩ := Option.bind_eq_some_iff.1 h
  obtain ⟨closing, hclosing, h⟩ := Option.bind_eq_some_iff.1 h
  obtain ⟨stop, hstop, h⟩ := Option.bind_eq_some_iff.1 h
  obtain ⟨-, rfl⟩ := Prod.mk.inj (Option.some.inj h)
  exact ((quotationMark?_passes hopened).trans (run?_passes hclosing)).trans
    (quotationMark?_passes hstop)

end Cursor

end SasOutline
