import SasOutline.Procedure

/-!
# Statements of the `sql` procedure

A `create table` statement is read as a procedure that writes the tables in
front of `as` and reads the tables of every `from` clause up to its semicolon,
so the sources of joins and subqueries count as well.  Any other statement is
kept as text, unless that text ends in `quit`, like the statement that ends the
block.
-/

namespace SasOutline

/-- A statement kept as text, with its semicolon. -/
structure SqlStatement where
  text : String
  deriving DecidableEq, Repr

/-- The last word of a text, blanks aside, ends in `quit`. -/
def endsInQuit (text : List Char) : Bool :=
  (trimEnd text).reverse.take 4 |>.map Char.toLower |> (· == "tiuq".toList)

namespace Cursor

/-- The tables of the next `from` clause in front of the next semicolon. -/
def fromClause? (cursor : Cursor) : Option (List DatasetReference × Cursor) := do
  let limit := cursor.skipWhile (· != ';')
  let found ← cursor.findBefore? Pattern.fromClause limit
  return found.stop.datasetEnumeration

theorem fromClause?_passes {cursor later : Cursor} {sources : List DatasetReference}
    (h : cursor.fromClause? = some (sources, later)) : cursor.Passes later := by
  obtain ⟨found, hfound, h⟩ := Option.bind_eq_some_iff.1 h
  have reaches := found.stop.datasetEnumeration_reaches
  rw [Option.some.inj h] at reaches
  exact ((Pattern.spaced_advances "from").findBefore? hfound).trans_reaches reaches

/-- The tables of all `from` clauses in front of the next semicolon. -/
def fromClauses (cursor : Cursor) : List DatasetReference × Cursor :=
  match _ : cursor.fromClause? with
  | none => ([], cursor)
  | some (sources, after) =>
      let (more, stop) := fromClauses after
      (sources ++ more, stop)
termination_by cursor.remaining
decreasing_by exact (fromClause?_passes ‹_›).remaining_lt

theorem fromClauses_of_none {cursor : Cursor} (h : cursor.fromClause? = none) :
    cursor.fromClauses = ([], cursor) := by
  rw [fromClauses]
  split
  · rfl
  · next hsome =>
    rw [h] at hsome
    contradiction

theorem fromClauses_of_some {cursor after : Cursor} {sources : List DatasetReference}
    (h : cursor.fromClause? = some (sources, after)) :
    cursor.fromClauses = (sources ++ after.fromClauses.1, after.fromClauses.2) := by
  rw [fromClauses]
  split
  · next hnone =>
    rw [h] at hnone
    contradiction
  · next hsome =>
    rw [h] at hsome
    obtain ⟨rfl, rfl⟩ := Prod.mk.inj (Option.some.inj hsome)
    rfl

def createTable? (cursor : Cursor) : Option (Procedure × Cursor) := do
  let create ← cursor.word? "create"
  let start ← create.space?
  let table ← start.word? "table"
  let (outputs, stop) := table.skipSpace.datasetEnumeration
  let query ← stop.skipSpace.word? "as"
  let (inputs, stop) := query.fromClauses
  let (_, stop) ← stop.through? ';'
  return (⟨"sql", inputs, outputs⟩, stop)

def sqlStatement? (cursor : Cursor) : Option (SqlStatement × Cursor) := do
  let (text, stop) ← cursor.through? ';'
  if endsInQuit text then none
  else return (⟨cursor.stringUntil stop⟩, stop)

end Cursor

end SasOutline
