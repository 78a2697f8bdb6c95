import SasOutline.DatasetReference
import SasOutline.GlobalStatements

/-!
# Procedure steps

Of a procedure step only the `data=` option and the `out=` options in front of
its terminator are read.  The `sql` procedure is no step of this form: each of
its statements stands for itself.
-/

namespace SasOutline

/-- `kind` is the name of the procedure in lower case. -/
structure Procedure where
  kind : String
  inputs : List DatasetReference
  outputs : List DatasetReference
  deriving DecidableEq, Repr

/-- The label of the lineage edges a procedure gives rise to. -/
def Procedure.label (procedure : Procedure) : String :=
  "proc " ++ procedure.kind

namespace Cursor

/-- The dataset of the next `out=` option in front of `limit`. -/
def outOption? (cursor limit : Cursor) : Option (DatasetReference × Cursor) := do
  let found ← cursor.findBefore? Pattern.outOption limit
  found.stop.datasetReference?

theorem outOption?_passes {cursor limit later : Cursor} {output : DatasetReference}
    (h : cursor.outOption? limit = some (output, later)) : cursor.Passes later := by
  obtain ⟨found, hfound, h⟩ := Option.bind_eq_some_iff.1 h
  exact ((Pattern.assigned_advances "out").findBefore? hfound).trans
    (datasetReference?_passes h)

/-- All `out=` datasets in front of `limit`; an option without a dataset ends the
list. -/
def outOptions (cursor limit : Cursor) : List DatasetReference × Cursor :=
  match _ : cursor.outOption? limit with
  | none => ([], cursor)
  | some (output, after) =>
      let (more, stop) := after.outOptions limit
      (output :: more, stop)
termination_by cursor.remaining
decreasing_by exact (outOption?_passes ‹_›).remaining_lt

theorem outOptions_of_none {cursor limit : Cursor} (h : cursor.outOption? limit = none) :
    cursor.outOptions limit = ([], cursor) := by
  rw [outOptions]
  split
  · rfl
  · next hsome =>
    rw [h] at hsome
    contradiction

theorem outOptions_of_some {cursor limit after : Cursor} {output : DatasetReference}
    (h : cursor.outOption? limit = some (output, after)) :
    cursor.outOptions limit =
      (output :: (after.outOptions limit).1, (after.outOptions limit).2) := by
  rw [outOptions]
  split
  · next hnone =>
    rw [h] at hnone
    contradiction
  · next hsome =>
    rw [h] at hsome
    obtain ⟨rfl, rfl⟩ := Prod.mk.inj (Option.some.inj hsome)
    rfl

/-- A dataset may be read past the first terminator, so the terminator is looked
for again once all options are read. -/
def procedure? (cursor : Cursor) : Option (Procedure × Cursor) := do
  let keyword ← cursor.word? "proc"
  let start ← keyword.space?
  let (kind, stop) ← start.plainName?
  if equalIgnoringCase kind "sql" then none
  else
    let start ← stop.space?
    let limit ← start.find? Pattern.stepEnd
    let data ← start.findBefore? Pattern.dataOption limit.start
    let (input, stop) ← data.stop.datasetReference?
    let (outputs, stop) := stop.outOptions limit.start
    let terminator ← stop.find? Pattern.stepEnd
    return (⟨lowerCase kind, [input], outputs⟩, terminator.stop)

end Cursor

end SasOutline
