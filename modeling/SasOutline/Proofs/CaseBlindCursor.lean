import SasOutline.Proofs.AsciiCase
import SasOutline.Proofs.ReaderImage

/-!
# Cursors in a lowered text

A cursor is lowered by putting the ASCII letters of its text into lower case.  A
reader ignores case when it reads at the lowered cursor the lowered form of what
it reads at the cursor itself.  Runs of a class of characters, keywords, searched
patterns and lists all do, since the classes hold both forms of a letter or
neither and keywords are compared after folding.
-/

namespace SasOutline

namespace Cursor

def lowered (cursor : Cursor) : Cursor :=
  ⟨cursor.before.map Char.toLower, cursor.rest.map Char.toLower⟩

/-- The reader yields the lowered value wherever the text is lowered. -/
def IgnoresCase {α : Type} (lower : α → α) (read : Reader α) : Prop :=
  ∀ cursor : Cursor, read cursor.lowered = (read cursor).map (Prod.map lower lowered)

def StepIgnoresCase (step : Cursor → Option Cursor) : Prop :=
  ∀ cursor : Cursor, step cursor.lowered = (step cursor).map lowered

/-- The class holds both forms of a letter or neither. -/
def IsCaseBlind (inClass : Char → Bool) : Prop :=
  ∀ ch : Char, inClass ch.toLower = inClass ch

/-! ## Characters and runs -/

@[simp] theorem remaining_lowered (cursor : Cursor) :
    cursor.lowered.remaining = cursor.remaining := by
  simp [lowered, remaining]

theorem peek_lowered (cursor : Cursor) :
    cursor.lowered.peek = cursor.peek.map Char.toLower := by
  simp [lowered, peek]

theorem previous_lowered (cursor : Cursor) :
    cursor.lowered.previous = cursor.previous.map Char.toLower := by
  simp [lowered, previous]

theorem skip_lowered (cursor : Cursor) (count : Nat) :
    cursor.lowered.skip count = (cursor.skip count).lowered := by
  simp [lowered, skip, List.map_take, List.map_drop]

theorem textUntil_lowered (cursor later : Cursor) :
    cursor.lowered.textUntil later.lowered = (cursor.textUntil later).map Char.toLower := by
  unfold textUntil
  rw [remaining_lowered, remaining_lowered, List.map_take]
  rfl

@[simp] theorem stringUntil_lowered (cursor later : Cursor) :
    cursor.lowered.stringUntil later.lowered = (cursor.stringUntil later).toLower := by
  unfold stringUntil
  rw [textUntil_lowered, ← String.toList_inj]
  simp

theorem any_toLower {inClass : Char → Bool} (hclass : IsCaseBlind inClass)
    (ch? : Option Char) : (ch?.map Char.toLower).any inClass = ch?.any inClass := by
  cases ch? with
  | none => rfl
  | some ch => exact hclass ch

theorem char?_lowered {mark : Char} (hmark : mark.toLower = mark ∧ mark.toUpper = mark)
    (cursor : Cursor) : cursor.lowered.char? mark = (cursor.char? mark).map lowered := by
  have hpeek : cursor.lowered.peek = some mark ↔ cursor.peek = some mark := by
    rw [peek_lowered]
    simp only [Option.map_eq_some_iff, toLower_eq_iff hmark]
    simp
  simp only [char?, hpeek, skip_lowered]
  split <;> rfl

theorem skipWhile_lowered {inClass : Char → Bool} (hclass : IsCaseBlind inClass)
    (cursor : Cursor) :
    cursor.lowered.skipWhile inClass = (cursor.skipWhile inClass).lowered := by
  have hcomp : inClass ∘ Char.toLower = inClass := funext hclass
  have hlength : (cursor.lowered.rest.takeWhile inClass).length =
      (cursor.rest.takeWhile inClass).length := by
    rw [show cursor.lowered.rest = cursor.rest.map Char.toLower from rfl,
      List.takeWhile_map, hcomp, List.length_map]
  unfold skipWhile
  rw [hlength, skip_lowered]

theorem run?_lowered {inClass : Char → Bool} (hclass : IsCaseBlind inClass)
    (cursor : Cursor) : cursor.lowered.run? inClass = (cursor.run? inClass).map lowered := by
  simp only [run?, peek_lowered, any_toLower hclass, skipWhile_lowered hclass]
  split <;> rfl

@[simp] theorem skipSpace_lowered (cursor : Cursor) :
    cursor.lowered.skipSpace = cursor.skipSpace.lowered :=
  skipWhile_lowered isWhiteSpace_toLower cursor

theorem spacedChar?_lowered {mark : Char} (hmark : mark.toLower = mark ∧ mark.toUpper = mark)
    (cursor : Cursor) :
    cursor.lowered.skipSpace.char? mark = (cursor.skipSpace.char? mark).map lowered := by
  rw [skipSpace_lowered, char?_lowered hmark]

theorem space?_lowered : StepIgnoresCase space? :=
  run?_lowered isWhiteSpace_toLower

theorem bump?_lowered : IgnoresCase Char.toLower bump? := by
  intro cursor
  unfold bump?
  rw [show cursor.lowered.rest = cursor.rest.map Char.toLower from rfl]
  cases cursor.rest with
  | nil => rfl
  | cons ch rest => simp [skip_lowered]

theorem isCaseBlind_ne {mark : Char} (hmark : mark.toLower = mark ∧ mark.toUpper = mark) :
    IsCaseBlind (· != mark) := by
  intro ch
  rw [Bool.eq_iff_iff, bne_iff_ne, bne_iff_ne, ne_eq, ne_eq, toLower_eq_iff hmark]

theorem IsCaseBlind.and {first second : Char → Bool} (hfirst : IsCaseBlind first)
    (hsecond : IsCaseBlind second) : IsCaseBlind fun ch => first ch && second ch := by
  intro ch
  simp only [hfirst ch, hsecond ch]

/-! ## Keywords -/

theorem letters?_lowered {fold : Char → Char} (hfold : ∀ ch, fold ch.toLower = fold ch)
    (word : String) (cursor : Cursor) :
    letters? fold cursor.lowered word = (letters? fold cursor word).map lowered := by
  have hcomp : fold ∘ Char.toLower = fold := funext hfold
  have htaken : (cursor.lowered.rest.take word.toList.length).map fold =
      (cursor.rest.take word.toList.length).map fold := by
    rw [show cursor.lowered.rest = cursor.rest.map Char.toLower from rfl,
      ← List.map_take, List.map_map, hcomp]
  simp only [letters?, htaken, skip_lowered]
  split <;> rfl

theorem keyword?_lowered (word : String) (cursor : Cursor) :
    cursor.lowered.keyword? word = (cursor.keyword? word).map lowered :=
  letters?_lowered toLower_toLower word cursor

theorem followsGlue_lowered (cursor : Cursor) :
    cursor.lowered.followsGlue = cursor.followsGlue := by
  unfold followsGlue
  rw [previous_lowered, any_toLower isKeywordGlue_toLower]

theorem precedesGlue_lowered (cursor : Cursor) :
    cursor.lowered.precedesGlue = cursor.precedesGlue := by
  unfold precedesGlue
  rw [peek_lowered, any_toLower isKeywordGlue_toLower]

theorem word?_lowered (word : String) (cursor : Cursor) :
    cursor.lowered.word? word = (cursor.word? word).map lowered := by
  have hkept : ∀ cursor : Cursor, (!cursor.lowered.precedesGlue) = !cursor.precedesGlue :=
    fun cursor => by rw [precedesGlue_lowered]
  simp only [word?, followsGlue_lowered, keyword?_lowered word cursor]
  split
  · rfl
  · exact filter_image hkept _

theorem through?_lowered {mark : Char} (hmark : mark.toLower = mark ∧ mark.toUpper = mark)
    (cursor : Cursor) :
    cursor.lowered.through? mark =
      (cursor.through? mark).map (Prod.map (List.map Char.toLower) lowered) := by
  simp only [through?, skipWhile_lowered (isCaseBlind_ne hmark), char?_lowered hmark,
    Option.map_map, textUntil_lowered]
  rfl

end Cursor

/-! ## Patterns -/

namespace Pattern

open Cursor

theorem atBoundary_lowered (cursor : Cursor) : cursor.lowered.atBoundary = cursor.atBoundary := by
  unfold atBoundary
  rw [previous_lowered, peek_lowered, any_toLower isWordCharacter_toLower,
    any_toLower isWordCharacter_toLower]

theorem opening_lowered (word : String) : StepIgnoresCase (opening word) := by
  intro cursor
  simp only [opening, atBoundary_lowered, letters?_lowered foldedLetter_toLower word cursor]
  split <;> rfl

theorem wholeWord_lowered (word : String) : StepIgnoresCase (wholeWord word) := by
  intro cursor
  unfold wholeWord
  rw [opening_lowered word cursor, filter_image atBoundary_lowered]

theorem terminated_lowered (word : String) : StepIgnoresCase (terminated word) := by
  intro cursor
  exact bind_image (opening_lowered word cursor) fun stop => spacedChar?_lowered (by decide) stop

theorem assigned_lowered (word : String) : StepIgnoresCase (assigned word) := by
  intro cursor
  refine bind_image (opening_lowered word cursor) fun stop => ?_
  refine bind_image (spacedChar?_lowered (by decide) stop) fun equals => ?_
  exact congrArg some (skipSpace_lowered equals)

theorem spaced_lowered (word : String) : StepIgnoresCase (spaced word) := by
  intro cursor
  exact bind_image (opening_lowered word cursor) fun stop => space?_lowered stop

theorem either_lowered {first second : Pattern} (hfirst : StepIgnoresCase first)
    (hsecond : StepIgnoresCase second) : StepIgnoresCase (either first second) :=
  fun cursor => orElse_image (hfirst cursor) (hsecond cursor)

theorem setOrMerge_lowered : StepIgnoresCase setOrMerge :=
  either_lowered (wholeWord_lowered "set") (wholeWord_lowered "merge")

theorem stepEnd_lowered : StepIgnoresCase stepEnd :=
  either_lowered (terminated_lowered "run") (terminated_lowered "quit")

theorem nextOption_lowered : StepIgnoresCase nextOption := by
  intro cursor
  refine bind_image (space?_lowered cursor) fun stop => ?_
  exact bind_image (run?_lowered isWordCharacter_toLower stop) fun word =>
    spacedChar?_lowered (by decide) word

end Pattern

def Found.lowered (found : Found) : Found := ⟨found.start.lowered, found.stop.lowered⟩

namespace Cursor

theorem findFrom_lowered {pattern : Pattern} (hpattern : StepIgnoresCase pattern)
    (before rest : List Char) :
    findFrom pattern (before.map Char.toLower) (rest.map Char.toLower) =
      (findFrom pattern before rest).map Found.lowered := by
  induction rest generalizing before with
  | nil =>
      have hstep := hpattern ⟨before, []⟩
      simp only [lowered, List.map_nil] at hstep
      simp only [findFrom, List.map_nil, hstep, Option.map_map]
      rfl
  | cons ch rest ih =>
      have hstep := hpattern ⟨before, ch :: rest⟩
      have hrest := ih (ch :: before)
      simp only [lowered, List.map_cons] at hstep hrest
      simp only [findFrom, List.map_cons, hstep]
      cases pattern ⟨before, ch :: rest⟩ with
      | none => exact hrest
      | some stop => rfl

theorem find?_lowered {pattern : Pattern} (hpattern : StepIgnoresCase pattern)
    (cursor : Cursor) :
    cursor.lowered.find? pattern = (cursor.find? pattern).map Found.lowered :=
  findFrom_lowered hpattern cursor.before cursor.rest

theorem findBefore?_lowered {pattern : Pattern} (hpattern : StepIgnoresCase pattern)
    (cursor limit : Cursor) :
    cursor.lowered.findBefore? pattern limit.lowered =
      (cursor.findBefore? pattern limit).map Found.lowered := by
  unfold findBefore?
  rw [find?_lowered hpattern, remaining_lowered]
  cases cursor.find? pattern with
  | none => rfl
  | some found =>
      have hstart : found.lowered.start.remaining = found.start.remaining :=
        remaining_lowered found.start
      simp only [Option.map_some, Option.filter_some, hstart]
      split <;> rfl

end Cursor

/-! ## Lists and optional parts -/

section Lists

open Cursor

variable {α : Type} {lower : α → α} {item : Reader α} {separator : Cursor → Option Cursor}

theorem separated_lowered (hitem : IgnoresCase lower item)
    (hseparator : StepIgnoresCase separator) (cursor : Cursor) :
    separated item separator cursor.lowered =
      Prod.map (List.map lower) lowered (separated item separator cursor) :=
  separated_image remaining_lowered hitem hseparator cursor

theorem optional_lowered {cursor : Cursor} {parsed parsed' : Option (α × Cursor)}
    (hparsed : parsed' = parsed.map (Prod.map lower lowered)) :
    optional cursor.lowered parsed' =
      Prod.map (Option.map lower) lowered (optional cursor parsed) :=
  optional_image hparsed

theorem comma?_lowered : StepIgnoresCase comma? := by
  intro cursor
  unfold comma?
  rw [spacedChar?_lowered (by decide), Option.map_map, Option.map_map]
  congr 1
  funext stop
  exact skipSpace_lowered stop

end Lists

end SasOutline
