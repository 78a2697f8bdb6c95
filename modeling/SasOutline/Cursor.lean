import SasOutline.CharacterClasses

/-!
# Reading positions in a program text

A cursor splits a text into the characters already read and the characters
still to come.  Backtracking keeps the old cursor, so a reader that fails has
no effect.

A cursor can only move by reading characters off the remaining text.  The
relation `Reaches` records this: whatever a reader does, the cursor it returns
lies at or after the one it was given, inside the same text and between two of
its characters.
-/

namespace SasOutline

/-- `before` holds the characters already read, nearest first. -/
structure Cursor where
  before : List Char
  rest : List Char
  deriving DecidableEq, Repr

/-- A reader yields a value and the cursor after it, or nothing when the
construct does not start at the cursor. -/
abbrev Reader (α : Type) := Cursor → Option (α × Cursor)

/-- An ordered choice takes its second branch only when the first one fails. -/
theorem orElse_some {α : Type} {first second : Option α} {value : α}
    (h : (first <|> second) = some value) :
    first = some value ∨ first = none ∧ second = some value := by
  cases first with
  | none => exact .inr ⟨rfl, by simpa using h⟩
  | some found => exact .inl (by simpa using h)

namespace Cursor

def ofText (text : String) : Cursor := ⟨[], text.toList⟩

/-- The number of bytes before the cursor when the text is stored in UTF-8. -/
def offset (cursor : Cursor) : Nat :=
  cursor.before.foldr (fun ch bytes => ch.utf8Size + bytes) 0

def remaining (cursor : Cursor) : Nat := cursor.rest.length

def text (cursor : Cursor) : List Char :=
  cursor.before.reverse ++ cursor.rest

def atEnd (cursor : Cursor) : Bool := cursor.rest.isEmpty

def peek (cursor : Cursor) : Option Char := cursor.rest.head?

def previous (cursor : Cursor) : Option Char := cursor.before.head?

/-- The cursor `count` characters further, or at the end of the text. -/
def skip (cursor : Cursor) (count : Nat) : Cursor :=
  ⟨(cursor.rest.take count).reverse ++ cursor.before, cursor.rest.drop count⟩

def textUntil (cursor later : Cursor) : List Char :=
  cursor.rest.take (cursor.remaining - later.remaining)

def stringUntil (cursor later : Cursor) : String :=
  String.ofList (cursor.textUntil later)

/-- `later` is what a cursor becomes after reading some of its text. -/
def Reaches (cursor later : Cursor) : Prop :=
  ∃ read, cursor.rest = read ++ later.rest ∧
    later.before = read.reverse ++ cursor.before

/-- As `Reaches`, with at least one character read. -/
def Passes (cursor later : Cursor) : Prop :=
  cursor.Reaches later ∧ later.remaining < cursor.remaining

namespace Reaches

theorem refl (cursor : Cursor) : cursor.Reaches cursor := ⟨[], rfl, rfl⟩

theorem trans {first second third : Cursor} (left : first.Reaches second)
    (right : second.Reaches third) : first.Reaches third := by
  obtain ⟨read, hrest, hbefore⟩ := left
  obtain ⟨more, hrest', hbefore'⟩ := right
  exact ⟨read ++ more, by rw [hrest, hrest', List.append_assoc],
    by rw [hbefore', hbefore, List.reverse_append, List.append_assoc]⟩

theorem remaining_le {cursor later : Cursor} (reaches : cursor.Reaches later) :
    later.remaining ≤ cursor.remaining := by
  obtain ⟨read, hrest, -⟩ := reaches
  simp [remaining, hrest]

theorem textUntil_append {cursor later : Cursor} (reaches : cursor.Reaches later) :
    cursor.textUntil later ++ later.rest = cursor.rest ∧
      later.before = (cursor.textUntil later).reverse ++ cursor.before := by
  obtain ⟨read, hrest, hbefore⟩ := reaches
  have htext : cursor.textUntil later = read := by
    simp [textUntil, remaining, hrest]
  exact ⟨by rw [htext, hrest], by rw [htext, hbefore]⟩

theorem text_eq {cursor later : Cursor} (reaches : cursor.Reaches later) :
    later.text = cursor.text := by
  obtain ⟨read, hrest, hbefore⟩ := reaches
  simp [text, hrest, hbefore]

end Reaches

namespace Passes

theorem reaches {cursor later : Cursor} (passes : cursor.Passes later) :
    cursor.Reaches later := passes.1

theorem remaining_lt {cursor later : Cursor} (passes : cursor.Passes later) :
    later.remaining < cursor.remaining := passes.2

theorem trans_reaches {first second third : Cursor} (left : first.Passes second)
    (right : second.Reaches third) : first.Passes third :=
  ⟨left.1.trans right, Nat.lt_of_le_of_lt right.remaining_le left.2⟩

theorem trans {first second third : Cursor} (left : first.Passes second)
    (right : second.Passes third) : first.Passes third :=
  left.trans_reaches right.1

end Passes

theorem Reaches.trans_passes {first second third : Cursor}
    (left : first.Reaches second) (right : second.Passes third) :
    first.Passes third :=
  ⟨left.trans right.1, Nat.lt_of_lt_of_le right.2 left.remaining_le⟩

theorem skip_reaches (cursor : Cursor) (count : Nat) :
    cursor.Reaches (cursor.skip count) :=
  ⟨cursor.rest.take count, (List.take_append_drop count cursor.rest).symm, rfl⟩

theorem skip_passes {cursor : Cursor} {count : Nat} (hcount : 0 < count)
    (hrest : cursor.rest ≠ []) : cursor.Passes (cursor.skip count) := by
  refine ⟨cursor.skip_reaches count, ?_⟩
  have := List.length_pos_iff.2 hrest
  simp only [remaining, skip, List.length_drop]
  omega

def bump? (cursor : Cursor) : Option (Char × Cursor) :=
  match cursor.rest with
  | [] => none
  | ch :: _ => some (ch, cursor.skip 1)

theorem bump?_passes {cursor later : Cursor} {ch : Char}
    (h : cursor.bump? = some (ch, later)) : cursor.Passes later := by
  unfold bump? at h
  split at h
  · contradiction
  · next hrest =>
    obtain ⟨-, rfl⟩ := Prod.mk.inj (Option.some.inj h)
    exact skip_passes Nat.one_pos (by simp [hrest])

def char? (cursor : Cursor) (expected : Char) : Option Cursor :=
  if cursor.peek = some expected then some (cursor.skip 1) else none

theorem char?_passes {cursor later : Cursor} {expected : Char}
    (h : cursor.char? expected = some later) : cursor.Passes later := by
  unfold char? at h
  split at h
  · next hpeek =>
    obtain rfl := Option.some.inj h
    refine skip_passes Nat.one_pos ?_
    intro hrest
    simp [peek, hrest] at hpeek
  · contradiction

/-- Read the longest run of characters of one class. -/
def skipWhile (cursor : Cursor) (inClass : Char → Bool) : Cursor :=
  cursor.skip (cursor.rest.takeWhile inClass).length

theorem skipWhile_reaches (cursor : Cursor) (inClass : Char → Bool) :
    cursor.Reaches (cursor.skipWhile inClass) :=
  cursor.skip_reaches _

/-- Read the longest run of characters of one class, which must not be empty. -/
def run? (cursor : Cursor) (inClass : Char → Bool) : Option Cursor :=
  if cursor.peek.any inClass then some (cursor.skipWhile inClass) else none

theorem run?_passes {cursor later : Cursor} {inClass : Char → Bool}
    (h : cursor.run? inClass = some later) : cursor.Passes later := by
  unfold run? at h
  split at h
  · next hpeek =>
    obtain rfl := Option.some.inj h
    match hrest : cursor.rest with
    | [] => simp [peek, hrest] at hpeek
    | ch :: rest =>
      have hch : inClass ch = true := by simpa [peek, hrest] using hpeek
      exact skip_passes (by simp [hrest, hch]) (by simp [hrest])
  · contradiction

def skipSpace (cursor : Cursor) : Cursor := cursor.skipWhile isWhiteSpace

theorem skipSpace_reaches (cursor : Cursor) : cursor.Reaches cursor.skipSpace :=
  cursor.skipWhile_reaches _

def space? (cursor : Cursor) : Option Cursor := cursor.run? isWhiteSpace

theorem space?_passes {cursor later : Cursor} (h : cursor.space? = some later) :
    cursor.Passes later := run?_passes h

/-- Read `word`, comparing characters after `fold`. -/
def letters? (fold : Char → Char) (cursor : Cursor) (word : String) : Option Cursor :=
  if (cursor.rest.take word.toList.length).map fold = word.toList.map fold then
    some (cursor.skip word.toList.length)
  else none

theorem letters?_reaches {fold : Char → Char} {cursor later : Cursor} {word : String}
    (h : letters? fold cursor word = some later) : cursor.Reaches later := by
  unfold letters? at h
  split at h
  · obtain rfl := Option.some.inj h
    exact cursor.skip_reaches _
  · contradiction

/-- Read a literal without regard to the case of ASCII letters. -/
def keyword? (cursor : Cursor) (word : String) : Option Cursor :=
  letters? Char.toLower cursor word

def followsGlue (cursor : Cursor) : Bool := cursor.previous.any isKeywordGlue

def precedesGlue (cursor : Cursor) : Bool := cursor.peek.any isKeywordGlue

/-- Read a keyword that is not glued to a word on either side. -/
def word? (cursor : Cursor) (word : String) : Option Cursor :=
  if cursor.followsGlue then none
  else (cursor.keyword? word).filter fun later => !later.precedesGlue

theorem word?_reaches {cursor later : Cursor} {word : String}
    (h : cursor.word? word = some later) : cursor.Reaches later := by
  unfold word? at h
  split at h
  · contradiction
  · exact letters?_reaches (Option.filter_eq_some_iff.1 h).1

/-- Read through the first occurrence of a delimiter, yielding the text in
front of it. -/
def through? (cursor : Cursor) (delimiter : Char) : Option (List Char × Cursor) :=
  let stop := cursor.skipWhile (· != delimiter)
  (stop.char? delimiter).map fun later => (cursor.textUntil stop, later)

theorem through?_passes {cursor later : Cursor} {delimiter : Char} {text : List Char}
    (h : cursor.through? delimiter = some (text, later)) : cursor.Passes later := by
  simp only [through?, Option.map_eq_some_iff] at h
  obtain ⟨_, hchar, heq⟩ := h
  obtain ⟨-, rfl⟩ := Prod.mk.inj heq
  exact (cursor.skipWhile_reaches _).trans_passes (char?_passes hchar)

end Cursor

end SasOutline
