import SasOutline.Cursor

/-!
# Searching for a pattern

A pattern decides at one cursor whether it matches there and where the match
ends.  A search returns the leftmost match at or after a cursor.  Patterns see
the text before the cursor, so a word boundary means the same wherever the
search began.

The patterns below are the few that delimit the parts of steps and statements.
None of them matches without reading a character.
-/

namespace SasOutline

/-- The end of the match that starts at a cursor, if there is one. -/
abbrev Pattern := Cursor → Option Cursor

/-- A match of a pattern inside a text. -/
structure Found where
  start : Cursor
  stop : Cursor
  deriving DecidableEq, Repr

namespace Cursor

/-- Exactly one of the two neighbours is part of a word. -/
def atBoundary (cursor : Cursor) : Bool :=
  cursor.previous.any isWordCharacter != cursor.peek.any isWordCharacter

/-- Leftmost match in `rest`, with `before` already passed over. -/
def findFrom (pattern : Pattern) (before : List Char) : List Char → Option Found
  | [] => (pattern ⟨before, []⟩).map (⟨⟨before, []⟩, ·⟩)
  | ch :: rest =>
      match pattern ⟨before, ch :: rest⟩ with
      | some stop => some ⟨⟨before, ch :: rest⟩, stop⟩
      | none => findFrom pattern (ch :: before) rest

def find? (cursor : Cursor) (pattern : Pattern) : Option Found :=
  findFrom pattern cursor.before cursor.rest

/-- As `find?`, for a match that starts before `limit`. -/
def findBefore? (cursor : Cursor) (pattern : Pattern) (limit : Cursor) : Option Found :=
  (cursor.find? pattern).filter fun found => limit.remaining < found.start.remaining

private theorem findFrom_some {pattern : Pattern} {before rest : List Char} {found : Found}
    (h : findFrom pattern before rest = some found) :
    Reaches ⟨before, rest⟩ found.start ∧ pattern found.start = some found.stop := by
  induction rest generalizing before with
  | nil =>
    obtain ⟨stop, hstop, rfl⟩ := Option.map_eq_some_iff.1 h
    exact ⟨Reaches.refl _, hstop⟩
  | cons ch rest ih =>
    simp only [findFrom] at h
    split at h
    · next stop hstop =>
      obtain rfl := Option.some.inj h
      exact ⟨Reaches.refl _, hstop⟩
    · obtain ⟨reaches, hmatch⟩ := ih h
      exact ⟨Reaches.trans ⟨[ch], rfl, rfl⟩ reaches, hmatch⟩

theorem find?_some {cursor : Cursor} {pattern : Pattern} {found : Found}
    (h : cursor.find? pattern = some found) :
    cursor.Reaches found.start ∧ pattern found.start = some found.stop :=
  findFrom_some h

theorem findBefore?_some {cursor limit : Cursor} {pattern : Pattern} {found : Found}
    (h : cursor.findBefore? pattern limit = some found) :
    cursor.Reaches found.start ∧ pattern found.start = some found.stop :=
  find?_some (Option.filter_eq_some_iff.1 h).1

end Cursor

namespace Pattern

/-- A pattern that reads at least one character wherever it matches. -/
def Advances (pattern : Pattern) : Prop :=
  ∀ cursor stop, pattern cursor = some stop → cursor.Passes stop

theorem Advances.findBefore? {pattern : Pattern} (advances : pattern.Advances)
    {cursor limit : Cursor} {found : Found}
    (h : cursor.findBefore? pattern limit = some found) : cursor.Passes found.stop := by
  obtain ⟨reaches, hmatch⟩ := Cursor.findBefore?_some h
  exact reaches.trans_passes (advances _ _ hmatch)

/-- The letters of `word` in either case, with a word boundary in front. -/
def opening (word : String) : Pattern := fun cursor =>
  if cursor.atBoundary then Cursor.letters? foldedLetter cursor word else none

/-- `word` between two word boundaries. -/
def wholeWord (word : String) : Pattern := fun cursor =>
  (opening word cursor).filter Cursor.atBoundary

/-- `word` followed by a semicolon, with blanks allowed in between. -/
def terminated (word : String) : Pattern := fun cursor => do
  let stop ← opening word cursor
  stop.skipSpace.char? ';'

/-- `word` followed by an equals sign, with the blanks on both sides of it. -/
def assigned (word : String) : Pattern := fun cursor => do
  let stop ← opening word cursor
  let stop ← stop.skipSpace.char? '='
  return stop.skipSpace

/-- `word` followed by one or more blanks. -/
def spaced (word : String) : Pattern := fun cursor => do
  let stop ← opening word cursor
  stop.space?

def either (first second : Pattern) : Pattern := fun cursor =>
  first cursor <|> second cursor

def setOrMerge : Pattern := either (wholeWord "set") (wholeWord "merge")

def run : Pattern := wholeWord "run"

def quit : Pattern := terminated "quit"

def stepEnd : Pattern := either (terminated "run") (terminated "quit")

def dataOption : Pattern := assigned "data"

def outOption : Pattern := assigned "out"

def fromClause : Pattern := spaced "from"

/-- Blanks, a word and an equals sign: the start of the option that follows a
bare setting. -/
def nextOption : Pattern := fun cursor => do
  let stop ← cursor.space?
  let stop ← stop.run? isWordCharacter
  stop.skipSpace.char? '='

theorem opening_reaches {word : String} {cursor stop : Cursor}
    (h : opening word cursor = some stop) : cursor.Reaches stop := by
  unfold opening at h
  split at h
  · exact Cursor.letters?_reaches h
  · contradiction

theorem terminated_advances (word : String) : (terminated word).Advances := by
  intro cursor stop h
  obtain ⟨middle, hopening, hchar⟩ := Option.bind_eq_some_iff.1 h
  exact (opening_reaches hopening).trans_passes
    (middle.skipSpace_reaches.trans_passes (Cursor.char?_passes hchar))

theorem assigned_advances (word : String) : (assigned word).Advances := by
  intro cursor stop h
  obtain ⟨middle, hopening, hassigned⟩ := Option.bind_eq_some_iff.1 h
  obtain ⟨equals, hchar, hstop⟩ := Option.bind_eq_some_iff.1 hassigned
  obtain rfl := Option.some.inj hstop
  exact ((opening_reaches hopening).trans_passes
    (middle.skipSpace_reaches.trans_passes (Cursor.char?_passes hchar))).trans_reaches
      equals.skipSpace_reaches

theorem spaced_advances (word : String) : (spaced word).Advances := by
  intro cursor stop h
  obtain ⟨middle, hopening, hspace⟩ := Option.bind_eq_some_iff.1 h
  exact (opening_reaches hopening).trans_passes (Cursor.space?_passes hspace)

end Pattern

end SasOutline
