import SasOutline.Cursor

/-!
# Lists of items with separators

A list reader takes an item and then as many pairs of a separator and an item
as it can.  A separator that no item follows stays unread, and a pair that reads
nothing ends the list, so the amount of text left strictly decreases from one
item to the next.
-/

namespace SasOutline

variable {α : Type}

/-- The pairs of a separator and an item that follow a first item. -/
def separatedTail (item : Reader α) (separator : Cursor → Option Cursor)
    (cursor : Cursor) : List α × Cursor :=
  match (separator cursor).bind item with
  | none => ([], cursor)
  | some (next, after) =>
      if after.remaining < cursor.remaining then
        let (more, stop) := separatedTail item separator after
        (next :: more, stop)
      else ([], cursor)
termination_by cursor.remaining

def separated (item : Reader α) (separator : Cursor → Option Cursor)
    (cursor : Cursor) : List α × Cursor :=
  match item cursor with
  | none => ([], cursor)
  | some (first, after) =>
      let (more, stop) := separatedTail item separator after
      (first :: more, stop)

/-- A comma with optional blanks on either side. -/
def comma? (cursor : Cursor) : Option Cursor :=
  (cursor.skipSpace.char? ',').map Cursor.skipSpace

/-- The value when one was read, with the cursor to go on from. -/
def optional (cursor : Cursor) (parsed : Option (α × Cursor)) : Option α × Cursor :=
  match parsed with
  | some (value, after) => (some value, after)
  | none => (none, cursor)

theorem comma?_passes {cursor later : Cursor} (h : comma? cursor = some later) :
    cursor.Passes later := by
  obtain ⟨middle, hchar, rfl⟩ := Option.map_eq_some_iff.1 h
  exact (cursor.skipSpace_reaches.trans_passes (Cursor.char?_passes hchar)).trans_reaches
    middle.skipSpace_reaches

theorem optional_reaches {cursor : Cursor} {parsed : Option (α × Cursor)}
    (hparsed : ∀ value after, parsed = some (value, after) → cursor.Reaches after) :
    cursor.Reaches (optional cursor parsed).2 := by
  match parsed with
  | none => exact Cursor.Reaches.refl cursor
  | some (value, after) => exact hparsed value after rfl

theorem separatedTail_reaches {item : Reader α} {separator : Cursor → Option Cursor}
    (hitem : ∀ cursor value after, item cursor = some (value, after) → cursor.Reaches after)
    (hseparator : ∀ cursor after, separator cursor = some after → cursor.Reaches after)
    (cursor : Cursor) : cursor.Reaches (separatedTail item separator cursor).2 := by
  fun_induction separatedTail item separator cursor with
  | case1 cursor h => exact Cursor.Reaches.refl cursor
  | case2 cursor next after hpair hless more stop htail ih =>
    obtain ⟨middle, hsep, hnext⟩ := Option.bind_eq_some_iff.1 hpair
    rw [htail] at ih
    exact ((hseparator _ _ hsep).trans (hitem _ _ _ hnext)).trans ih
  | case3 cursor next after hpair hless => exact Cursor.Reaches.refl cursor

theorem separated_reaches {item : Reader α} {separator : Cursor → Option Cursor}
    (hitem : ∀ cursor value after, item cursor = some (value, after) → cursor.Reaches after)
    (hseparator : ∀ cursor after, separator cursor = some after → cursor.Reaches after)
    (cursor : Cursor) : cursor.Reaches (separated item separator cursor).2 := by
  unfold separated
  split
  · exact Cursor.Reaches.refl cursor
  · next first after hfirst =>
    exact (hitem _ _ _ hfirst).trans (separatedTail_reaches hitem hseparator after)

end SasOutline
