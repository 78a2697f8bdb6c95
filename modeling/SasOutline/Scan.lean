import SasOutline.Grammar

/-!
# Scanning a program text

A scan applies a grammar at one cursor after the other.  Where no construct
matches it skips a single character and tries again, so no text stops it; text
that is not understood only lowers the coverage.

A scan is a list of steps that together read the whole text.  The spans of the
nodes and the character counts are both read off the steps.
-/

namespace SasOutline

inductive ScanStep where
  | matched (start : Cursor) (found : ConstructMatch)
  | skipped (ch : Char)
  deriving DecidableEq

/-- Character counts of a scan; `matchCount` is the number of matched constructs. -/
structure ScanCounts where
  total : Nat
  matched : Nat
  skipped : Nat
  matchCount : Nat
  deriving DecidableEq, Repr

structure Scan where
  nodes : List (Spanned Node)
  counts : ScanCounts
  deriving DecidableEq

namespace Grammar

def steps (grammar : Grammar) (cursor : Cursor) : List ScanStep :=
  match _ : grammar.firstMatch? cursor with
  | some found => .matched cursor found :: steps grammar found.rest
  | none =>
      match _ : cursor.bump? with
      | some (ch, after) => .skipped ch :: steps grammar after
      | none => []
termination_by cursor.remaining
decreasing_by
  · exact firstMatch?_remaining_lt ‹_›
  · exact (Cursor.bump?_passes ‹_›).remaining_lt

end Grammar

/-- The items of one match with their spans, and the position behind the match.
`position` belongs to `scanned`; text without an item moves the position on just
as the text of an item does. -/
def placeItems (position : Position) (scanned rest : Cursor) :
    List MatchItem → List (Spanned Node) × Position
  | [] => ([], position.advance (scanned.textUntil rest))
  | item :: items =>
      let start := position.advance (scanned.textUntil item.start)
      let stop := start.advance (item.start.textUntil item.stop)
      let (placed, behind) := placeItems stop item.stop rest items
      (⟨item.node, ⟨start, stop⟩⟩ :: placed, behind)

def placeSteps (position : Position) : List ScanStep → List (Spanned Node)
  | [] => []
  | .skipped ch :: steps => placeSteps (position.advanceChar ch) steps
  | .matched start found :: steps =>
      let (placed, behind) := placeItems position start found.rest found.items
      placed ++ placeSteps behind steps

namespace ScanStep

def matchedLength : ScanStep → Nat
  | matched start found => (start.textUntil found.rest).length
  | skipped _ => 0

def isMatch : ScanStep → Bool
  | matched _ _ => true
  | skipped _ => false

end ScanStep

/-- Read a text to its end; this never fails. -/
def Grammar.scan (grammar : Grammar) (text : String) : Scan :=
  let steps := grammar.steps (.ofText text)
  { nodes := placeSteps .start steps
    counts :=
      { total := text.length
        matched := steps.foldr (fun step count => step.matchedLength + count) 0
        skipped := steps.countP fun step => !step.isMatch
        matchCount := steps.countP ScanStep.isMatch } }

end SasOutline
