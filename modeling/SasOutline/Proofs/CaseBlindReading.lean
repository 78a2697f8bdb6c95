import SasOutline.DatasetReference
import SasOutline.MacroStatements
import SasOutline.Proofs.CaseBlindCursor

/-!
# Names, options and references in a lowered text

The readers of names, quotations, comments, dataset options, dataset references
and macro arguments ignore case.  Each of them does because the readers and the
classes of characters it is made of do.
-/

namespace SasOutline

/-! ## Lowered values -/

def NameSegment.lowered : NameSegment → NameSegment
  | literal text => literal text.toLower
  | reference written => reference ⟨written.raw.toLower⟩

def DynamicName.lowered (name : DynamicName) : DynamicName :=
  ⟨name.segments.map NameSegment.lowered⟩

def DatasetOption.lowered (option : DatasetOption) : DatasetOption :=
  ⟨option.name.lowered, option.setting.map String.toLower⟩

def DatasetReference.lowered (object : DatasetReference) : DatasetReference :=
  ⟨object.library.map DynamicName.lowered, object.dataset.lowered,
    object.options.map (List.map DatasetOption.lowered)⟩

def Comment.lowered (comment : Comment) : Comment := ⟨comment.text.toLower⟩

def MacroArgument.lowered (argument : MacroArgument) : MacroArgument :=
  ⟨argument.name.lowered, argument.default.map String.toLower,
    argument.doc.map Comment.lowered⟩

@[simp] theorem NameSegment.text_lowered (segment : NameSegment) :
    segment.lowered.text = segment.text.toLower := by
  cases segment <;> rfl

theorem DynamicName.text_lowered (name : DynamicName) :
    name.lowered.text = name.text.toLower := by
  rw [← String.toList_inj]
  unfold DynamicName.lowered DynamicName.text
  induction name.segments with
  | nil => simp
  | cons segment segments ih => simp_all

/-! ## Names -/

theorem isNameCharacter_toLower (ch : Char) : isNameCharacter ch.toLower = isNameCharacter ch :=
  apply_toLower isNameCharacter (by decide) ch

theorem isQuotationMark_toLower (ch : Char) : isQuotationMark ch.toLower = isQuotationMark ch :=
  apply_toLower isQuotationMark (by decide) ch

namespace Cursor

theorem skipDot_lowered (cursor : Cursor) : cursor.lowered.skipDot = cursor.skipDot.lowered := by
  unfold skipDot
  rw [char?_lowered (by decide) cursor]
  cases cursor.char? '.' with
  | none => rfl
  | some stop => rfl

theorem plainName?_lowered : IgnoresCase String.toLower plainName? := by
  intro cursor
  unfold plainName?
  rw [run?_lowered isNameCharacter_toLower cursor, Option.map_map, Option.map_map]
  congr 1
  funext stop
  simp

theorem referenceEnd?_lowered : StepIgnoresCase referenceEnd? := by
  intro cursor
  refine bind_image (char?_lowered (by decide) cursor) fun first => ?_
  simp only [run?_lowered isNameCharacter_toLower first]
  cases first.run? isNameCharacter with
  | some stop => exact congrArg some (skipDot_lowered stop)
  | none =>
      refine bind_image (char?_lowered (by decide) first) fun second => ?_
      refine bind_image (run?_lowered isNameCharacter_toLower second) fun outer => ?_
      refine bind_image (f := lowered) ?_ fun third => ?_
      · rw [skipDot_lowered]
        exact char?_lowered (by decide) outer.skipDot
      · refine bind_image (run?_lowered isNameCharacter_toLower third) fun inner => ?_
        exact congrArg some (skipDot_lowered inner)

theorem nameSegment?_lowered : IgnoresCase NameSegment.lowered nameSegment? := by
  intro cursor
  unfold nameSegment? macroVariable?
  rw [plainName?_lowered cursor, referenceEnd?_lowered cursor]
  cases cursor.plainName? with
  | some pair => rfl
  | none =>
      cases cursor.referenceEnd? with
      | none => rfl
      | some stop => simp [NameSegment.lowered]

theorem nameSegments_lowered (cursor : Cursor) :
    cursor.lowered.nameSegments =
      Prod.map (List.map NameSegment.lowered) lowered cursor.nameSegments := by
  fun_induction nameSegments cursor with
  | case1 cursor hnone =>
      have hlowered : cursor.lowered.nameSegment? = none := by
        rw [nameSegment?_lowered, hnone]
        rfl
      rw [nameSegments_of_none hlowered]
      rfl
  | case2 cursor segment after hsome more stop hmore ih =>
      have hlowered : cursor.lowered.nameSegment? = some (segment.lowered, after.lowered) := by
        rw [nameSegment?_lowered, hsome]
        rfl
      rw [nameSegments_of_some hlowered, ih, hmore]
      rfl

theorem dynamicName?_lowered : IgnoresCase DynamicName.lowered dynamicName? := by
  intro cursor
  unfold dynamicName?
  rw [nameSegments_lowered]
  generalize cursor.nameSegments = pair
  obtain ⟨segments, stop⟩ := pair
  cases segments with
  | nil => rfl
  | cons segment segments => rfl

/-! ## Quotations and comments -/

theorem quotationMark?_lowered : StepIgnoresCase quotationMark? := by
  intro cursor
  simp only [quotationMark?, peek_lowered, any_toLower isQuotationMark_toLower, skip_lowered]
  split <;> rfl

theorem isCaseBlind_not_isQuotationMark : IsCaseBlind (! isQuotationMark ·) := by
  intro ch
  simp only [isQuotationMark_toLower]

theorem quotedString?_lowered : IgnoresCase String.toLower quotedString? := by
  intro cursor
  refine bind_image (quotationMark?_lowered cursor) fun opened => ?_
  refine bind_image (f := lowered) ?_ fun stop => ?_
  · rw [skipWhile_lowered isCaseBlind_not_isQuotationMark]
    exact quotationMark?_lowered _
  · simp

theorem quotedPath?_lowered : IgnoresCase String.toLower quotedPath? := by
  intro cursor
  refine bind_image (quotationMark?_lowered cursor) fun opened => ?_
  refine bind_image (run?_lowered isCaseBlind_not_isQuotationMark opened) fun closing => ?_
  refine bind_image (quotationMark?_lowered closing) fun stop => ?_
  simp

theorem starComment?_lowered : IgnoresCase Comment.lowered starComment? := by
  intro cursor
  refine bind_image (char?_lowered (by decide) cursor) fun opened => ?_
  refine bind_image (run?_lowered (isCaseBlind_ne (by decide)) opened) fun closing => ?_
  refine bind_image (char?_lowered (by decide) closing) fun stop => ?_
  simp [Comment.lowered]

theorem blockCloser_lowered : StepIgnoresCase Pattern.blockCloser := by
  intro cursor
  exact bind_image (char?_lowered (by decide) cursor) fun middle =>
    char?_lowered (by decide) middle

theorem blockComment?_lowered : IgnoresCase Comment.lowered blockComment? := by
  intro cursor
  refine bind_image (char?_lowered (by decide) cursor) fun slash => ?_
  refine bind_image (char?_lowered (by decide) slash) fun opened => ?_
  refine bind_image (bump?_lowered opened) fun (_, body) => ?_
  refine bind_image (find?_lowered blockCloser_lowered body) fun closer => ?_
  simp [Comment.lowered, Found.lowered]

theorem comment?_lowered : IgnoresCase Comment.lowered comment? :=
  fun cursor => orElse_image (starComment?_lowered cursor) (blockComment?_lowered cursor)

/-! ## Options and references -/

theorem optionName?_lowered : IgnoresCase DynamicName.lowered optionName? := by
  intro cursor
  refine bind_image (dynamicName?_lowered cursor) fun (name, stop) => ?_
  refine bind_image (spacedChar?_lowered (by decide) stop) fun equals => ?_
  simp

theorem isCaseBlind_setting : IsCaseBlind fun ch => ch != ')' && ch != ';' :=
  (isCaseBlind_ne (by decide)).and (isCaseBlind_ne (by decide))

theorem parenthesisedOption?_lowered : IgnoresCase DatasetOption.lowered parenthesisedOption? := by
  intro cursor
  refine bind_image (optionName?_lowered cursor) fun (name, setting) => ?_
  refine bind_image (char?_lowered (by decide) setting) fun opened => ?_
  refine bind_image (f := lowered) ?_ fun stop => ?_
  · rw [skipWhile_lowered isCaseBlind_setting]
    exact char?_lowered (by decide) _
  · simp [DatasetOption.lowered]

theorem quotedOption?_lowered : IgnoresCase DatasetOption.lowered quotedOption? := by
  intro cursor
  refine bind_image (optionName?_lowered cursor) fun (name, setting) => ?_
  refine bind_image (quotedPath?_lowered setting) fun (path, stop) => ?_
  simp [DatasetOption.lowered]

theorem bareSettingEnd?_lowered : StepIgnoresCase bareSettingEnd? := by
  intro cursor
  have hbound := skipWhile_lowered isCaseBlind_setting cursor
  have hsegment : (⟨cursor.lowered.before, cursor.lowered.textUntil
      (cursor.skipWhile fun ch => ch != ')' && ch != ';').lowered⟩ : Cursor) =
      lowered ⟨cursor.before, cursor.textUntil
        (cursor.skipWhile fun ch => ch != ')' && ch != ';')⟩ := by
    rw [textUntil_lowered]
    rfl
  have hatEnd (cursor : Cursor) : cursor.lowered.atEnd = cursor.atEnd := by
    simp [atEnd, lowered]
  simp only [bareSettingEnd?, hbound, hsegment, find?_lowered Pattern.nextOption_lowered, hatEnd,
    remaining_lowered]
  generalize find? _ Pattern.nextOption = found?
  cases found? with
  | some found => simp [Found.lowered, skip_lowered]
  | none =>
      simp only [Option.map_none]
      split <;> rfl

theorem bareOption?_lowered : IgnoresCase DatasetOption.lowered bareOption? := by
  intro cursor
  refine bind_image (optionName?_lowered cursor) fun (name, setting) => ?_
  refine bind_image (bareSettingEnd?_lowered setting) fun stop => ?_
  simp [DatasetOption.lowered]

theorem flagOption?_lowered : IgnoresCase DatasetOption.lowered flagOption? := by
  intro cursor
  exact bind_image (dynamicName?_lowered cursor) fun (name, stop) => rfl

theorem datasetOption?_lowered : IgnoresCase DatasetOption.lowered datasetOption? :=
  fun cursor => orElse_image (parenthesisedOption?_lowered cursor)
    (orElse_image (quotedOption?_lowered cursor)
      (orElse_image (bareOption?_lowered cursor) (flagOption?_lowered cursor)))

theorem macroOption?_lowered : IgnoresCase DatasetOption.lowered macroOption? :=
  fun cursor => orElse_image (parenthesisedOption?_lowered cursor)
    (orElse_image (quotedOption?_lowered cursor) (flagOption?_lowered cursor))

theorem datasetOptions?_lowered :
    IgnoresCase (List.map DatasetOption.lowered) datasetOptions? := by
  intro cursor
  refine bind_image (char?_lowered (by decide) cursor) fun opened => ?_
  rw [skipSpace_lowered, separated_lowered datasetOption?_lowered space?_lowered]
  generalize separated datasetOption? space? opened.skipSpace = pair
  obtain ⟨options, closing⟩ := pair
  exact bind_image (spacedChar?_lowered (by decide) closing) fun stop => rfl

theorem qualifier?_lowered : IgnoresCase DynamicName.lowered qualifier? := by
  intro cursor
  refine bind_image (dynamicName?_lowered cursor) fun (library, stop) => ?_
  exact bind_image (char?_lowered (by decide) stop) fun dot => rfl

theorem datasetName?_lowered : IgnoresCase DynamicName.lowered datasetName? := by
  intro cursor
  refine orElse_image ?_ (dynamicName?_lowered cursor)
  exact bind_image (char?_lowered (by decide) cursor) fun dot => dynamicName?_lowered dot

theorem datasetReference?_lowered :
    IgnoresCase DatasetReference.lowered datasetReference? := by
  intro cursor
  unfold datasetReference?
  rw [optional_lowered (qualifier?_lowered cursor)]
  generalize optional cursor cursor.qualifier? = pair
  obtain ⟨library, start⟩ := pair
  refine bind_image (datasetName?_lowered start) fun (dataset, stop) => ?_
  simp only [Prod.map_apply, skipSpace_lowered,
    optional_lowered (datasetOptions?_lowered stop.skipSpace)]
  rfl

theorem datasetList_lowered (cursor : Cursor) :
    cursor.lowered.datasetList =
      Prod.map (List.map DatasetReference.lowered) lowered cursor.datasetList :=
  separated_lowered datasetReference?_lowered space?_lowered cursor

theorem datasetEnumeration_lowered (cursor : Cursor) :
    cursor.lowered.datasetEnumeration =
      Prod.map (List.map DatasetReference.lowered) lowered cursor.datasetEnumeration :=
  separated_lowered datasetReference?_lowered comma?_lowered cursor

/-! ## Macro arguments -/

theorem isDefaultCharacter_toLower (ch : Char) :
    isDefaultCharacter ch.toLower = isDefaultCharacter ch :=
  apply_toLower isDefaultCharacter (by decide) ch

theorem isSeparator_toLower (ch : Char) :
    (ch.toLower == '/' || ch.toLower == '\\') = (ch == '/' || ch == '\\') :=
  apply_toLower (fun ch => ch == '/' || ch == '\\') (by decide) ch

theorem opensComment_toLower (ch? : Option Char) :
    (ch?.map Char.toLower != some '*') = (ch? != some '*') := by
  cases ch? with
  | none => rfl
  | some ch => exact apply_toLower (fun ch => some ch != some '*') (by decide) ch

theorem defaultRunLength_map_toLower (text : List Char) :
    defaultRunLength (text.map Char.toLower) = defaultRunLength text := by
  induction text with
  | nil => rfl
  | cons ch text ih =>
      simp only [List.map_cons, defaultRunLength, ih, isDefaultCharacter_toLower,
        isSeparator_toLower, List.head?_map, opensComment_toLower]

theorem defaultRun?_lowered : StepIgnoresCase defaultRun? := by
  intro cursor
  have hlength : defaultRunLength cursor.lowered.rest = defaultRunLength cursor.rest :=
    defaultRunLength_map_toLower cursor.rest
  simp only [defaultRun?, hlength, skip_lowered]
  split <;> rfl

theorem macroVariable?_lowered :
    IgnoresCase (fun written => ⟨written.raw.toLower⟩) macroVariable? := by
  intro cursor
  unfold macroVariable?
  rw [referenceEnd?_lowered cursor, Option.map_map, Option.map_map]
  congr 1
  funext stop
  simp

theorem defaultPiece?_lowered : StepIgnoresCase defaultPiece? :=
  fun cursor => orElse_image (defaultRun?_lowered cursor)
    (orElse_image (snd_image (macroVariable?_lowered cursor))
      (snd_image (quotedString?_lowered cursor)))

theorem defaultEnd_lowered (cursor : Cursor) :
    cursor.lowered.defaultEnd = cursor.defaultEnd.lowered := by
  fun_induction defaultEnd cursor with
  | case1 cursor hnone =>
      have hlowered : cursor.lowered.defaultPiece? = none := by
        rw [defaultPiece?_lowered, hnone]
        rfl
      rw [defaultEnd_of_none hlowered]
  | case2 cursor after hsome ih =>
      have hlowered : cursor.lowered.defaultPiece? = some after.lowered := by
        rw [defaultPiece?_lowered, hsome]
        rfl
      rw [defaultEnd_of_some hlowered, ih]

theorem argumentDefault?_lowered : IgnoresCase String.toLower argumentDefault? := by
  intro cursor
  refine bind_image (char?_lowered (by decide) cursor) fun equals => ?_
  simp [defaultEnd_lowered]

theorem macroArgument?_lowered : IgnoresCase MacroArgument.lowered macroArgument? := by
  intro cursor
  refine bind_image (dynamicName?_lowered cursor) fun (name, stop) => ?_
  simp only [Prod.map_apply, skipSpace_lowered,
    optional_lowered (argumentDefault?_lowered stop.skipSpace)]
  generalize optional stop.skipSpace stop.skipSpace.argumentDefault? = pair
  obtain ⟨default, stop⟩ := pair
  simp only [Prod.map_apply, skipSpace_lowered, optional_lowered (comment?_lowered stop.skipSpace)]
  rfl

theorem argumentList?_lowered : IgnoresCase (List.map MacroArgument.lowered) argumentList? := by
  intro cursor
  refine bind_image (char?_lowered (by decide) cursor) fun opened => ?_
  rw [skipSpace_lowered, separated_lowered macroArgument?_lowered comma?_lowered]
  generalize separated macroArgument? comma? opened.skipSpace = pair
  obtain ⟨arguments, closing⟩ := pair
  exact bind_image (spacedChar?_lowered (by decide) closing) fun stop => rfl

end Cursor

/-! ## Canonical names -/

namespace DatasetReference

theorem dataset_lowered (object : DatasetReference) :
    object.lowered.dataset = object.dataset.lowered := rfl

theorem libraryName_lowered (object : DatasetReference) :
    object.lowered.libraryName = object.libraryName := by
  unfold libraryName
  cases hlibrary : object.library with
  | none => simp [lowered, hlibrary]
  | some library =>
      simp [lowered, hlibrary, DynamicName.text_lowered, lowerCase_toLower]

theorem datasetName_lowered (object : DatasetReference) :
    object.lowered.datasetName = object.datasetName := by
  unfold datasetName
  rw [dataset_lowered, DynamicName.text_lowered,
    lowerCase_toLower]

theorem identifier_lowered (object : DatasetReference) :
    object.lowered.identifier = object.identifier := by
  unfold identifier name
  rw [libraryName_lowered, datasetName_lowered]

end DatasetReference

end SasOutline
