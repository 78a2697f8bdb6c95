/-!
# Lines, columns and spans

Lines are counted from one and columns from zero, in characters.  A position is
carried along the text; it depends on nothing but the characters read so far.
-/

namespace SasOutline

structure Position where
  line : Nat
  column : Nat
  deriving DecidableEq, Repr

namespace Position

def start : Position := ⟨1, 0⟩

instance : Inhabited Position := ⟨start⟩

def advanceChar (position : Position) (ch : Char) : Position :=
  if ch = '\n' then ⟨position.line + 1, 0⟩
  else ⟨position.line, position.column + 1⟩

def advance (position : Position) (text : List Char) : Position :=
  text.foldl advanceChar position

@[simp] theorem advance_nil (position : Position) :
    position.advance [] = position := rfl

@[simp] theorem advance_cons (position : Position) (ch : Char) (text : List Char) :
    position.advance (ch :: text) = (position.advanceChar ch).advance text := rfl

theorem advance_append (position : Position) (first second : List Char) :
    position.advance (first ++ second) = (position.advance first).advance second := by
  simp [advance]

end Position

/-- A region of the source: `start` is inside, `stop` is the first position
after it. -/
structure Span where
  start : Position
  stop : Position
  deriving DecidableEq, Repr

namespace Span

instance : Inhabited Span := ⟨⟨.start, .start⟩⟩

def covering (first last : Span) : Span :=
  ⟨first.start, last.stop⟩

end Span

end SasOutline
