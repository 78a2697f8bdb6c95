import SasOutline.PatternSearch

/-!
# Comments

A star comment runs to the first semicolon and holds at least one character.  A
block comment holds at least one character too, and ends at the first closing
mark after it.  Comments are kept without their delimiters.
-/

namespace SasOutline

structure Comment where
  text : String
  deriving DecidableEq, Repr

def Pattern.blockCloser : Pattern := fun cursor => do
  let middle ← cursor.char? '*'
  middle.char? '/'

namespace Cursor

def starComment? (cursor : Cursor) : Option (Comment × Cursor) := do
  let opened ← cursor.char? '*'
  let closing ← opened.run? (· != ';')
  let stop ← closing.char? ';'
  return (⟨opened.stringUntil closing⟩, stop)

def blockComment? (cursor : Cursor) : Option (Comment × Cursor) := do
  let slash ← cursor.char? '/'
  let opened ← slash.char? '*'
  let (_, body) ← opened.bump?
  let closer ← body.find? Pattern.blockCloser
  return (⟨opened.stringUntil closer.start⟩, closer.stop)

def comment? (cursor : Cursor) : Option (Comment × Cursor) :=
  cursor.starComment? <|> cursor.blockComment?

end Cursor

end SasOutline
