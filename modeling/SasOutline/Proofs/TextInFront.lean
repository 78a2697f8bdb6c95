import SasOutline.DatasetReference
import SasOutline.MacroStatements
import SasOutline.Proofs.ReaderImage
import SasOutline.Proofs.WordEnds

/-!
# Reading with more text in front

A reader looks back in two places only: a keyword must not follow a letter, and a
searched word must begin at a word boundary.  Text in front that does not end in a part
of a word changes neither, so what is read behind it is what is read without it.

The readers of this module are those of names, quotations, comments, options, references
and macro arguments, which do not look back at all, and the steps that do.
-/

namespace SasOutline

/-- The reader yields the same value with the text in front as without it. -/
def ReadsBehind (before : List Char) {α : Type} (read : Reader α) : Prop :=
  ∀ cursor, read (Cursor.behind before cursor) =
    (read cursor).map (Prod.map id (Cursor.behind before))

variable {before : List Char}

namespace Cursor

/-! ## Characters and keywords -/

theorem remaining_behind (cursor : Cursor) :
    (cursor.behind before).remaining = cursor.remaining := rfl

theorem textUntil_behind (cursor later : Cursor) :
    (cursor.behind before).textUntil (later.behind before) = cursor.textUntil later := rfl

@[simp] theorem stringUntil_behind (cursor later : Cursor) :
    (cursor.behind before).stringUntil (later.behind before) = cursor.stringUntil later := rfl

@[simp] theorem skipSpace_behind (cursor : Cursor) :
    (cursor.behind before).skipSpace = cursor.skipSpace.behind before :=
  cursor.skipWhile_behind before isWhiteSpace

theorem space?_behind : StepsBehind before space? :=
  fun cursor => cursor.run?_behind before isWhiteSpace

theorem spacedChar?_behind (mark : Char) (cursor : Cursor) :
    (cursor.behind before).skipSpace.char? mark =
      (cursor.skipSpace.char? mark).map (behind before) := by
  rw [skipSpace_behind]
  exact cursor.skipSpace.char?_behind before mark

theorem keyword?_behind (word : String) (cursor : Cursor) :
    (cursor.behind before).keyword? word = (cursor.keyword? word).map (behind before) :=
  cursor.letters?_behind before Char.toLower word

theorem through?_behind (mark : Char) : ReadsBehind before fun cursor => cursor.through? mark := by
  intro cursor
  simp only [through?, skipWhile_behind, char?_behind, Option.map_map]
  rfl

theorem comma?_behind : StepsBehind before comma? := by
  intro cursor
  unfold comma?
  rw [spacedChar?_behind, Option.map_map, Option.map_map]
  congr 1
  funext stop
  exact skipSpace_behind stop

theorem separated_behind {α : Type} {item : Reader α} {separator : Cursor → Option Cursor}
    (hitem : ReadsBehind before item) (hseparator : StepsBehind before separator)
    (cursor : Cursor) :
    separated item separator (cursor.behind before) =
      Prod.map id (behind before) (separated item separator cursor) := by
  rw [separated_image remaining_behind hitem hseparator, List.map_id_fun]

theorem optional_behind {α : Type} {cursor : Cursor} {parsed parsed' : Option (α × Cursor)}
    (hparsed : parsed' = parsed.map (Prod.map id (behind before))) :
    optional (cursor.behind before) parsed' =
      Prod.map id (behind before) (optional cursor parsed) := by
  rw [optional_image hparsed, Option.map_id_fun]

/-! ## Names -/

theorem skipDot_behind (cursor : Cursor) :
    (cursor.behind before).skipDot = cursor.skipDot.behind before := by
  unfold skipDot
  rw [char?_behind]
  cases cursor.char? '.' <;> rfl

theorem plainName?_behind : ReadsBehind before plainName? := by
  intro cursor
  unfold plainName?
  rw [run?_behind, Option.map_map, Option.map_map]
  rfl

theorem referenceEnd?_behind : StepsBehind before referenceEnd? := by
  intro cursor
  refine bind_image (cursor.char?_behind before '&') fun first => ?_
  rw [first.run?_behind]
  cases first.run? isNameCharacter with
  | some stop => exact congrArg some stop.skipDot_behind
  | none =>
      refine bind_image (first.char?_behind before '&') fun second => ?_
      refine bind_image (second.run?_behind before _) fun outer => ?_
      rw [outer.skipDot_behind]
      refine bind_image (outer.skipDot.char?_behind before '&') fun third => ?_
      refine bind_image (third.run?_behind before _) fun inner => ?_
      exact congrArg some inner.skipDot_behind

theorem macroVariable?_behind : ReadsBehind before macroVariable? := by
  intro cursor
  unfold macroVariable?
  rw [referenceEnd?_behind cursor, Option.map_map, Option.map_map]
  rfl

theorem nameSegment?_behind : ReadsBehind before nameSegment? := by
  intro cursor
  unfold nameSegment?
  rw [plainName?_behind cursor, macroVariable?_behind cursor]
  cases cursor.plainName? with
  | some pair => rfl
  | none => cases cursor.macroVariable? <;> rfl

theorem nameSegments_behind (cursor : Cursor) :
    (cursor.behind before).nameSegments = Prod.map id (behind before) cursor.nameSegments := by
  fun_induction nameSegments cursor with
  | case1 cursor hnone =>
      have hbehind : (cursor.behind before).nameSegment? = none := by
        rw [nameSegment?_behind, hnone]
        rfl
      rw [nameSegments_of_none hbehind]
      rfl
  | case2 cursor segment after hsome more stop hmore ih =>
      have hbehind : (cursor.behind before).nameSegment? = some (segment, after.behind before) := by
        rw [nameSegment?_behind, hsome]
        rfl
      rw [nameSegments_of_some hbehind, ih, hmore]
      rfl

theorem dynamicName?_behind : ReadsBehind before dynamicName? := by
  intro cursor
  unfold dynamicName?
  rw [nameSegments_behind]
  generalize cursor.nameSegments = pair
  obtain ⟨segments, stop⟩ := pair
  cases segments <;> rfl

/-! ## Quotations and comments -/

theorem quotationMark?_behind : StepsBehind before quotationMark? := by
  intro cursor
  have hpeek : (cursor.behind before).peek = cursor.peek := rfl
  unfold quotationMark?
  rw [skip_behind, hpeek, apply_ite (Option.map (behind before))]
  rfl

theorem quotedString?_behind : ReadsBehind before quotedString? := by
  intro cursor
  refine bind_image (quotationMark?_behind cursor) fun opened => ?_
  rw [opened.skipWhile_behind]
  exact bind_image (quotationMark?_behind _) fun stop => rfl

theorem quotedPath?_behind : ReadsBehind before quotedPath? := by
  intro cursor
  refine bind_image (quotationMark?_behind cursor) fun opened => ?_
  refine bind_image (opened.run?_behind before _) fun closing => ?_
  exact bind_image (quotationMark?_behind closing) fun stop => rfl

theorem starComment?_behind : ReadsBehind before starComment? := by
  intro cursor
  refine bind_image (cursor.char?_behind before '*') fun opened => ?_
  refine bind_image (opened.run?_behind before _) fun closing => ?_
  exact bind_image (closing.char?_behind before ';') fun stop => rfl

theorem blockCloser_behind : StepsBehind before Pattern.blockCloser := by
  intro cursor
  exact bind_image (cursor.char?_behind before '*') fun middle => middle.char?_behind before '/'

theorem blockComment?_behind : ReadsBehind before blockComment? := by
  intro cursor
  refine bind_image (cursor.char?_behind before '/') fun slash => ?_
  refine bind_image (slash.char?_behind before '*') fun opened => ?_
  refine bind_image (opened.bump?_behind before) fun (_, body) => ?_
  exact bind_image (body.find?_behind before blockCloser_behind) fun closer => rfl

theorem comment?_behind : ReadsBehind before comment? :=
  fun cursor => orElse_image (starComment?_behind cursor) (blockComment?_behind cursor)

/-! ## Options and references -/

theorem optionName?_behind : ReadsBehind before optionName? := by
  intro cursor
  refine bind_image (dynamicName?_behind cursor) fun (name, stop) => ?_
  refine bind_image (spacedChar?_behind '=' stop) fun equals => ?_
  simp

theorem parenthesisedOption?_behind : ReadsBehind before parenthesisedOption? := by
  intro cursor
  refine bind_image (optionName?_behind cursor) fun (name, setting) => ?_
  refine bind_image (setting.char?_behind before '(') fun opened => ?_
  rw [opened.skipWhile_behind]
  exact bind_image (Cursor.char?_behind before _ ')') fun stop => rfl

theorem quotedOption?_behind : ReadsBehind before quotedOption? := by
  intro cursor
  refine bind_image (optionName?_behind cursor) fun (name, setting) => ?_
  exact bind_image (quotedPath?_behind setting) fun (path, stop) => rfl

theorem bareSettingEnd?_behind : StepsBehind before bareSettingEnd? := by
  intro cursor
  simp only [bareSettingEnd?, skipWhile_behind, textUntil_behind]
  generalize cursor.skipWhile (fun ch => ch != ')' && ch != ';') = bound
  have hfind := find?_behind before ⟨cursor.before, cursor.textUntil bound⟩
    (Pattern.nextOption_ignoresBefore before)
  simp only [behind] at hfind ⊢
  rw [hfind]
  cases find? ⟨cursor.before, cursor.textUntil bound⟩ Pattern.nextOption with
  | some next => exact congrArg some (cursor.skip_behind before _)
  | none =>
      simp only [Option.map_none]
      rw [apply_ite (Option.map _)]
      rfl

theorem bareOption?_behind : ReadsBehind before bareOption? := by
  intro cursor
  refine bind_image (optionName?_behind cursor) fun (name, setting) => ?_
  exact bind_image (bareSettingEnd?_behind setting) fun stop => rfl

theorem flagOption?_behind : ReadsBehind before flagOption? := by
  intro cursor
  exact bind_image (dynamicName?_behind cursor) fun (name, stop) => rfl

theorem datasetOption?_behind : ReadsBehind before datasetOption? :=
  fun cursor => orElse_image (parenthesisedOption?_behind cursor)
    (orElse_image (quotedOption?_behind cursor)
      (orElse_image (bareOption?_behind cursor) (flagOption?_behind cursor)))

theorem macroOption?_behind : ReadsBehind before macroOption? :=
  fun cursor => orElse_image (parenthesisedOption?_behind cursor)
    (orElse_image (quotedOption?_behind cursor) (flagOption?_behind cursor))

theorem datasetOptions?_behind : ReadsBehind before datasetOptions? := by
  intro cursor
  refine bind_image (cursor.char?_behind before '(') fun opened => ?_
  rw [skipSpace_behind, separated_behind datasetOption?_behind space?_behind]
  generalize separated datasetOption? space? opened.skipSpace = pair
  obtain ⟨options, closing⟩ := pair
  exact bind_image (spacedChar?_behind ')' closing) fun stop => rfl

theorem qualifier?_behind : ReadsBehind before qualifier? := by
  intro cursor
  refine bind_image (dynamicName?_behind cursor) fun (library, stop) => ?_
  exact bind_image (stop.char?_behind before '.') fun dot => rfl

theorem datasetName?_behind : ReadsBehind before datasetName? := by
  intro cursor
  refine orElse_image ?_ (dynamicName?_behind cursor)
  exact bind_image (cursor.char?_behind before '.') fun dot => dynamicName?_behind dot

theorem datasetReference?_behind : ReadsBehind before datasetReference? := by
  intro cursor
  unfold datasetReference?
  rw [optional_behind (qualifier?_behind cursor)]
  generalize optional cursor cursor.qualifier? = pair
  obtain ⟨library, start⟩ := pair
  refine bind_image (datasetName?_behind start) fun (dataset, stop) => ?_
  simp only [Prod.map_apply, skipSpace_behind,
    optional_behind (datasetOptions?_behind stop.skipSpace)]
  rfl

theorem datasetList_behind (cursor : Cursor) :
    (cursor.behind before).datasetList = Prod.map id (behind before) cursor.datasetList :=
  separated_behind datasetReference?_behind space?_behind cursor

theorem datasetEnumeration_behind (cursor : Cursor) :
    (cursor.behind before).datasetEnumeration =
      Prod.map id (behind before) cursor.datasetEnumeration :=
  separated_behind datasetReference?_behind comma?_behind cursor

/-! ## Macro arguments -/

theorem defaultRun?_behind : StepsBehind before defaultRun? := by
  intro cursor
  have hrest : (cursor.behind before).rest = cursor.rest := rfl
  unfold defaultRun?
  rw [skip_behind, hrest, apply_ite (Option.map (behind before))]
  rfl

theorem defaultPiece?_behind : StepsBehind before defaultPiece? :=
  fun cursor => orElse_image (defaultRun?_behind cursor)
    (orElse_image (snd_image (macroVariable?_behind cursor))
      (snd_image (quotedString?_behind cursor)))

theorem defaultEnd_behind (cursor : Cursor) :
    (cursor.behind before).defaultEnd = cursor.defaultEnd.behind before := by
  fun_induction defaultEnd cursor with
  | case1 cursor hnone =>
      have hbehind : (cursor.behind before).defaultPiece? = none := by
        rw [defaultPiece?_behind, hnone]
        rfl
      rw [defaultEnd_of_none hbehind]
  | case2 cursor after hsome ih =>
      have hbehind : (cursor.behind before).defaultPiece? = some (after.behind before) := by
        rw [defaultPiece?_behind, hsome]
        rfl
      rw [defaultEnd_of_some hbehind, ih]

theorem argumentDefault?_behind : ReadsBehind before argumentDefault? := by
  intro cursor
  refine bind_image (cursor.char?_behind before '=') fun equals => ?_
  simp [defaultEnd_behind]

theorem macroArgument?_behind : ReadsBehind before macroArgument? := by
  intro cursor
  refine bind_image (dynamicName?_behind cursor) fun (name, stop) => ?_
  simp only [Prod.map_apply, skipSpace_behind,
    optional_behind (argumentDefault?_behind stop.skipSpace)]
  generalize optional stop.skipSpace stop.skipSpace.argumentDefault? = pair
  obtain ⟨default, stop⟩ := pair
  simp only [Prod.map_apply, skipSpace_behind, optional_behind (comment?_behind stop.skipSpace)]
  rfl

theorem argumentList?_behind : ReadsBehind before argumentList? := by
  intro cursor
  refine bind_image (cursor.char?_behind before '(') fun opened => ?_
  rw [skipSpace_behind, separated_behind macroArgument?_behind comma?_behind]
  generalize separated macroArgument? comma? opened.skipSpace = pair
  obtain ⟨arguments, closing⟩ := pair
  exact bind_image (spacedChar?_behind ')' closing) fun stop => rfl

end Cursor

/-! ## Steps that look back -/

/-- The text in front does not change whether a character of the class stands in front. -/
theorem Cursor.previous_behind {inClass : Char → Bool} (hclass : Halts inClass before)
    (cursor : Cursor) :
    (cursor.behind before).previous.any inClass = cursor.previous.any inClass := by
  obtain ⟨read, rest⟩ := cursor
  cases read with
  | nil => exact hclass
  | cons ch read => rfl

theorem Cursor.findBefore?_behind {pattern : Pattern} (hpattern : StepsBehind before pattern)
    (cursor limit : Cursor) :
    (cursor.behind before).findBefore? pattern (limit.behind before) =
      (cursor.findBefore? pattern limit).map fun found =>
        ⟨found.start.behind before, found.stop.behind before⟩ := by
  unfold findBefore?
  rw [find?_behind before cursor hpattern, remaining_behind]
  cases cursor.find? pattern with
  | none => rfl
  | some found =>
      simp only [Option.map_some, Option.filter_some, remaining_behind]
      rw [apply_ite (Option.map _)]
      rfl

section LookingBack

variable (hbefore : EndsWord before)

include hbefore

theorem Cursor.word?_behind (word : String) (cursor : Cursor) :
    (cursor.behind before).word? word = (cursor.word? word).map (behind before) := by
  have hglue : (cursor.behind before).followsGlue = cursor.followsGlue :=
    previous_behind hbefore.glue cursor
  have hkept (later : Cursor) : (!(later.behind before).precedesGlue) = !later.precedesGlue := rfl
  unfold word?
  rw [hglue, keyword?_behind, filter_image hkept, apply_ite (Option.map (behind before))]
  rfl

theorem Cursor.atBoundary_behind (cursor : Cursor) :
    (cursor.behind before).atBoundary = cursor.atBoundary := by
  unfold atBoundary
  rw [previous_behind hbefore.word]
  rfl

namespace Pattern

open Cursor

theorem opening_behind (word : String) : StepsBehind before (opening word) := by
  intro cursor
  unfold opening
  rw [atBoundary_behind hbefore, letters?_behind, apply_ite (Option.map (behind before))]
  rfl

theorem wholeWord_behind (word : String) : StepsBehind before (wholeWord word) := by
  intro cursor
  unfold wholeWord
  rw [opening_behind hbefore word cursor, filter_image (atBoundary_behind hbefore)]

theorem terminated_behind (word : String) : StepsBehind before (terminated word) := by
  intro cursor
  exact bind_image (opening_behind hbefore word cursor) fun stop => spacedChar?_behind ';' stop

theorem assigned_behind (word : String) : StepsBehind before (assigned word) := by
  intro cursor
  refine bind_image (opening_behind hbefore word cursor) fun stop => ?_
  refine bind_image (spacedChar?_behind '=' stop) fun equals => ?_
  exact congrArg some (skipSpace_behind equals)

theorem spaced_behind (word : String) : StepsBehind before (spaced word) := by
  intro cursor
  exact bind_image (opening_behind hbefore word cursor) fun stop => space?_behind stop

theorem setOrMerge_behind : StepsBehind before setOrMerge :=
  fun cursor => orElse_image (wholeWord_behind hbefore "set" cursor)
    (wholeWord_behind hbefore "merge" cursor)

theorem stepEnd_behind : StepsBehind before stepEnd :=
  fun cursor => orElse_image (terminated_behind hbefore "run" cursor)
    (terminated_behind hbefore "quit" cursor)

end Pattern

end LookingBack

end SasOutline
