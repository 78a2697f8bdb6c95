import SasOutline.NodeEquality

/-!
# Matches of top-level constructs

Most constructs yield one node that covers the whole match.  A block of the
`sql` procedure yields one node for each of its statements and leaves the text
around them, from `proc sql` to `quit`, without a node.
-/

namespace SasOutline

/-- A node with the cursors at its first character and behind its last. -/
structure MatchItem where
  node : Node
  start : Cursor
  stop : Cursor
  deriving DecidableEq

structure ConstructMatch where
  items : List MatchItem
  rest : Cursor
  deriving DecidableEq

namespace ConstructMatch

def single (start : Cursor) (node : Node) (stop : Cursor) : ConstructMatch :=
  ⟨[⟨node, start, stop⟩], stop⟩

end ConstructMatch

namespace Cursor

/-- A statement inside of a block; `create table` takes precedence. -/
def sqlItem? (cursor : Cursor) : Option (MatchItem × Cursor) :=
  let created := cursor.createTable?.map fun (procedure, stop) =>
    (⟨.procedure procedure, cursor, stop⟩, stop)
  let other := cursor.sqlStatement?.map fun (statement, stop) =>
    (⟨.sqlStatement statement, cursor, stop⟩, stop)
  created <|> other

/-- `proc sql; statements quit;`, where the statements need no blanks between
them. -/
def sqlBlock? (cursor : Cursor) : Option ConstructMatch := do
  let keyword ← cursor.word? "proc"
  let start ← keyword.space?
  let kind ← start.word? "sql"
  let (_, body) ← kind.through? ';'
  let (items, stop) := separated sqlItem? (fun cursor => some cursor.skipSpace) body.skipSpace
  let quit ← stop.find? Pattern.quit
  return ⟨items, quit.stop⟩

end Cursor

end SasOutline
