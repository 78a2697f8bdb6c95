import SasOutline.Grammar
import SasOutline.Proofs.CaseBlindReading

/-!
# Constructs in a lowered text

Statements, steps, blocks and macro markers ignore case, and so does a grammar:
in a lowered text it finds the lowered form of the match that it finds in the
text itself, with the same items between the same characters.
-/

namespace SasOutline

/-! ## Lowered constructs -/

def MacroVariableDefinition.lowered (definition : MacroVariableDefinition) :
    MacroVariableDefinition :=
  ⟨definition.name.lowered, definition.value.map String.toLower⟩

def Inclusion.lowered (inclusion : Inclusion) : Inclusion :=
  ⟨inclusion.path.toLower, inclusion.resolved⟩

def LibraryTarget.lowered : LibraryTarget → LibraryTarget
  | path location => path location.toLower
  | pointer library => pointer library.lowered

def LibraryBinding.lowered (binding : LibraryBinding) : LibraryBinding :=
  ⟨binding.library.lowered, binding.target.lowered, binding.resolved⟩

def MacroStart.lowered (marker : MacroStart) : MacroStart :=
  ⟨marker.name.lowered, marker.arguments.map (List.map MacroArgument.lowered),
    marker.options.map (List.map DatasetOption.lowered)⟩

def MacroCall.lowered (call : MacroCall) : MacroCall :=
  ⟨call.name.lowered, call.arguments.map (List.map MacroArgument.lowered)⟩

def DataStep.lowered (step : DataStep) : DataStep where
  outputs := step.outputs.map DatasetReference.lowered
  inputs := step.inputs.map DatasetReference.lowered
  header := step.header.toLower
  body := step.body.toLower
  options := step.options.map (List.map DatasetOption.lowered)

/-- The kind of a procedure is in lower case already. -/
def Procedure.lowered (procedure : Procedure) : Procedure where
  kind := procedure.kind
  inputs := procedure.inputs.map DatasetReference.lowered
  outputs := procedure.outputs.map DatasetReference.lowered

def SqlStatement.lowered (statement : SqlStatement) : SqlStatement :=
  ⟨statement.text.toLower⟩

/-- A scan finds no whole macro definitions, so they are left alone here. -/
def Node.lowered : Node → Node
  | .newline => .newline
  | .comment remark => .comment remark.lowered
  | .macroVariable definition => .macroVariable definition.lowered
  | .inclusion statement => .inclusion statement.lowered
  | .libraryBinding binding => .libraryBinding binding.lowered
  | .dataStep step => .dataStep step.lowered
  | .procedure step => .procedure step.lowered
  | .sqlStatement statement => .sqlStatement statement.lowered
  | .macroStart marker => .macroStart marker.lowered
  | .macroEnd => .macroEnd
  | .macroDefinition heading contents terminated =>
      .macroDefinition heading contents terminated
  | .macroCall call => .macroCall call.lowered

@[simp] theorem Node.kind_lowered (node : Node) : node.lowered.kind = node.kind := by
  cases node <;> rfl

def MatchItem.lowered (item : MatchItem) : MatchItem :=
  ⟨item.node.lowered, item.start.lowered, item.stop.lowered⟩

def ConstructMatch.lowered (found : ConstructMatch) : ConstructMatch :=
  ⟨found.items.map MatchItem.lowered, found.rest.lowered⟩

namespace Cursor

/-! ## Statements outside of steps -/

theorem newline?_lowered : StepIgnoresCase newline? := by
  intro cursor
  refine orElse_image (char?_lowered (by decide) cursor) ?_
  exact bind_image (char?_lowered (by decide) cursor) fun stop => char?_lowered (by decide) stop

theorem semicolon?_lowered : StepIgnoresCase semicolon? :=
  spacedChar?_lowered (by decide)

theorem letValue_lowered (cursor : Cursor) :
    cursor.lowered.letValue = Prod.map (Option.map String.toLower) lowered cursor.letValue := by
  unfold letValue
  rw [run?_lowered (isCaseBlind_ne (by decide)) cursor]
  cases cursor.run? (· != ';') with
  | none => rfl
  | some stop => simp

theorem macroVariableDefinition?_lowered :
    IgnoresCase MacroVariableDefinition.lowered macroVariableDefinition? := by
  intro cursor
  refine bind_image (keyword?_lowered "%let" cursor) fun keyword => ?_
  refine bind_image (space?_lowered keyword) fun start => ?_
  refine bind_image (dynamicName?_lowered start) fun (name, stop) => ?_
  refine bind_image (spacedChar?_lowered (by decide) stop) fun equals => ?_
  rw [letValue_lowered]
  generalize equals.letValue = pair
  obtain ⟨value, stop⟩ := pair
  exact bind_image (char?_lowered (by decide) stop) fun stop => rfl

theorem inclusion?_lowered : IgnoresCase Inclusion.lowered inclusion? := by
  intro cursor
  refine bind_image (keyword?_lowered "%include" cursor) fun keyword => ?_
  refine bind_image (space?_lowered keyword) fun start => ?_
  refine bind_image (quotedPath?_lowered start) fun (path, stop) => ?_
  exact bind_image (semicolon?_lowered stop) fun stop => rfl

theorem pathTarget?_lowered : IgnoresCase LibraryTarget.lowered pathTarget? := by
  intro cursor
  refine bind_image (quotedPath?_lowered cursor) fun (path, stop) => ?_
  exact bind_image (semicolon?_lowered stop) fun stop => rfl

theorem pointerTarget?_lowered : IgnoresCase LibraryTarget.lowered pointerTarget? := by
  intro cursor
  refine bind_image (char?_lowered (by decide) cursor) fun opened => ?_
  rw [skipSpace_lowered]
  refine bind_image (dynamicName?_lowered opened.skipSpace) fun (library, stop) => ?_
  refine bind_image (spacedChar?_lowered (by decide) stop) fun closed => ?_
  exact bind_image (semicolon?_lowered closed) fun stop => rfl

theorem libraryBinding?_lowered : IgnoresCase LibraryBinding.lowered libraryBinding? := by
  intro cursor
  refine bind_image (word?_lowered "libname" cursor) fun keyword => ?_
  refine bind_image (space?_lowered keyword) fun start => ?_
  refine bind_image (dynamicName?_lowered start) fun (library, stop) => ?_
  refine bind_image (space?_lowered stop) fun start => ?_
  refine bind_image (orElse_image (pathTarget?_lowered start) (pointerTarget?_lowered start))
    fun (target, stop) => rfl

/-! ## Macro markers and calls -/

theorem slashedList_lowered {item : Reader DatasetOption}
    (hitem : IgnoresCase DatasetOption.lowered item) (cursor : Cursor) :
    ((cursor.lowered.skipSpace.char? '/').bind fun slash =>
        some (separated item space? slash.skipSpace)) =
      ((cursor.skipSpace.char? '/').bind fun slash =>
        some (separated item space? slash.skipSpace)).map
          (Prod.map (List.map DatasetOption.lowered) lowered) := by
  refine bind_image (spacedChar?_lowered (by decide) cursor) fun slash => ?_
  rw [skipSpace_lowered, separated_lowered hitem space?_lowered]
  rfl

theorem macroOptions?_lowered :
    IgnoresCase (List.map DatasetOption.lowered) macroOptions? :=
  slashedList_lowered macroOption?_lowered

theorem optionalArguments_lowered (cursor : Cursor) :
    optional cursor.lowered cursor.lowered.skipSpace.argumentList? =
      Prod.map (Option.map (List.map MacroArgument.lowered)) lowered
        (optional cursor cursor.skipSpace.argumentList?) := by
  rw [skipSpace_lowered]
  exact optional_lowered (argumentList?_lowered cursor.skipSpace)

theorem macroStart?_lowered : IgnoresCase MacroStart.lowered macroStart? := by
  intro cursor
  refine bind_image (keyword?_lowered "%macro" cursor) fun keyword => ?_
  refine bind_image (space?_lowered keyword) fun start => ?_
  refine bind_image (dynamicName?_lowered start) fun (name, stop) => ?_
  simp only [Prod.map_apply, optionalArguments_lowered]
  generalize optional stop stop.skipSpace.argumentList? = arguments
  obtain ⟨arguments, stop⟩ := arguments
  simp only [Prod.map_apply, optional_lowered (macroOptions?_lowered stop)]
  generalize optional stop stop.macroOptions? = options
  obtain ⟨options, stop⟩ := options
  exact bind_image (semicolon?_lowered stop) fun stop => rfl

theorem macroEnd?_lowered : StepIgnoresCase macroEnd? := by
  intro cursor
  have hline : IsCaseBlind fun ch => ch != '\n' && ch != ';' :=
    (isCaseBlind_ne (by decide)).and (isCaseBlind_ne (by decide))
  refine bind_image (letters?_lowered foldedLetter_toLower "%mend" cursor) fun keyword => ?_
  rw [skipWhile_lowered hline]
  exact char?_lowered (by decide) _

theorem isReserved_lowered (name : DynamicName) : name.lowered.isReserved = name.isReserved := by
  have hreference (segment : NameSegment) :
      segment.lowered.isReference = segment.isReference := by
    cases segment <;> rfl
  have hdynamic : name.lowered.isDynamic = name.isDynamic := by
    simp [DynamicName.isDynamic, DynamicName.lowered, List.any_map, hreference, Function.comp_def]
  have hcompare : equalIgnoringCase name.text.toLower = equalIgnoringCase name.text :=
    funext (equalIgnoringCase_toLower name.text)
  unfold DynamicName.isReserved
  rw [hdynamic, DynamicName.text_lowered, hcompare]

theorem macroCall?_lowered : IgnoresCase MacroCall.lowered macroCall? := by
  intro cursor
  refine bind_image (char?_lowered (by decide) cursor) fun start => ?_
  refine bind_image (dynamicName?_lowered start) fun (name, stop) => ?_
  simp only [Prod.map_apply, isReserved_lowered]
  split
  · rfl
  · rw [optionalArguments_lowered]
    generalize optional stop stop.skipSpace.argumentList? = arguments
    obtain ⟨arguments, stop⟩ := arguments
    exact bind_image (semicolon?_lowered stop) fun stop => rfl

/-! ## Steps -/

theorem stepOptions?_lowered : IgnoresCase (List.map DatasetOption.lowered) stepOptions? :=
  slashedList_lowered datasetOption?_lowered

theorem dataStatement?_lowered :
    IgnoresCase (Prod.map (List.map DatasetReference.lowered)
      (Option.map (List.map DatasetOption.lowered))) dataStatement? := by
  intro cursor
  refine bind_image (word?_lowered "data" cursor) fun keyword => ?_
  refine bind_image (space?_lowered keyword) fun start => ?_
  rw [datasetList_lowered]
  generalize start.datasetList = outputs
  obtain ⟨outputs, stop⟩ := outputs
  simp only [Prod.map_apply, optional_lowered (stepOptions?_lowered stop)]
  generalize optional stop stop.stepOptions? = options
  obtain ⟨options, stop⟩ := options
  exact bind_image (semicolon?_lowered stop) fun stop => rfl

theorem stepHeader?_lowered : IgnoresCase String.toLower stepHeader? := by
  intro cursor
  refine bind_image (find?_lowered Pattern.setOrMerge_lowered cursor) fun found => ?_
  simp only [Found.lowered, findBefore?_lowered (Pattern.wholeWord_lowered "run"), Pattern.run,
    Option.isSome_map]
  by_cases hrun : (cursor.findBefore? (Pattern.wholeWord "run") found.start).isSome = true
  · simp [hrun]
  · simp [hrun]

theorem setStatement?_lowered :
    IgnoresCase (List.map DatasetReference.lowered) setStatement? := by
  intro cursor
  unfold setStatement?
  rw [skipSpace_lowered]
  refine bind_image (orElse_image (word?_lowered "set" _) (word?_lowered "merge" _))
    fun keyword => ?_
  rw [skipSpace_lowered, datasetList_lowered]
  generalize keyword.skipSpace.datasetList = inputs
  obtain ⟨inputs, stop⟩ := inputs
  exact bind_image (semicolon?_lowered stop) fun stop => rfl

theorem dataStep?_lowered : IgnoresCase DataStep.lowered dataStep? := by
  intro cursor
  refine bind_image (dataStatement?_lowered cursor) fun ((outputs, options), start) => ?_
  simp only [Prod.map_apply, optional_lowered (stepHeader?_lowered start)]
  generalize optional start start.stepHeader? = header
  obtain ⟨header, stop⟩ := header
  simp only [Prod.map_apply, optional_lowered (setStatement?_lowered stop)]
  generalize optional stop stop.setStatement? = inputs
  obtain ⟨inputs, bodyStart⟩ := inputs
  refine bind_image (find?_lowered (Pattern.wholeWord_lowered "run") bodyStart) fun run => ?_
  refine bind_image (semicolon?_lowered run.stop) fun stop => ?_
  have hempty : "".toLower = "" := by
    rw [← String.toList_inj]
    simp
  cases inputs <;> cases header <;> simp [DataStep.lowered, Found.lowered, hempty]

theorem outOption?_lowered (cursor limit : Cursor) :
    cursor.lowered.outOption? limit.lowered =
      (cursor.outOption? limit).map (Prod.map DatasetReference.lowered lowered) :=
  bind_image (findBefore?_lowered (Pattern.assigned_lowered "out") cursor limit) fun found =>
    datasetReference?_lowered found.stop

theorem outOptions_lowered (cursor limit : Cursor) :
    cursor.lowered.outOptions limit.lowered =
      Prod.map (List.map DatasetReference.lowered) lowered (cursor.outOptions limit) := by
  fun_induction outOptions cursor limit with
  | case1 cursor hnone =>
      have hlowered : cursor.lowered.outOption? limit.lowered = none := by
        rw [outOption?_lowered, hnone]
        rfl
      rw [outOptions_of_none hlowered]
      rfl
  | case2 cursor output after hsome more stop hmore ih =>
      have hlowered : cursor.lowered.outOption? limit.lowered =
          some (output.lowered, after.lowered) := by
        rw [outOption?_lowered, hsome]
        rfl
      rw [outOptions_of_some hlowered, ih, hmore]
      rfl

theorem procedure?_lowered : IgnoresCase Procedure.lowered procedure? := by
  intro cursor
  refine bind_image (word?_lowered "proc" cursor) fun keyword => ?_
  refine bind_image (space?_lowered keyword) fun start => ?_
  refine bind_image (plainName?_lowered start) fun (kind, stop) => ?_
  simp only [Prod.map_apply, equalIgnoringCase_toLower, lowerCase_toLower]
  split
  · rfl
  · refine bind_image (space?_lowered stop) fun start => ?_
    refine bind_image (find?_lowered Pattern.stepEnd_lowered start) fun limit => ?_
    refine bind_image (findBefore?_lowered (Pattern.assigned_lowered "data") start limit.start)
      fun data => ?_
    refine bind_image (datasetReference?_lowered data.stop) fun (input, stop) => ?_
    simp only [Prod.map_apply, Found.lowered, outOptions_lowered]
    generalize stop.outOptions limit.start = outputs
    obtain ⟨outputs, stop⟩ := outputs
    exact bind_image (find?_lowered Pattern.stepEnd_lowered stop) fun terminator => rfl

/-! ## Statements of the `sql` procedure -/

theorem fromClause?_lowered :
    IgnoresCase (List.map DatasetReference.lowered) fromClause? := by
  intro cursor
  unfold fromClause?
  rw [skipWhile_lowered (isCaseBlind_ne (by decide))]
  refine bind_image (findBefore?_lowered (Pattern.spaced_lowered "from") cursor _) fun found => ?_
  exact congrArg some (datasetEnumeration_lowered found.stop)

theorem fromClauses_lowered (cursor : Cursor) :
    cursor.lowered.fromClauses =
      Prod.map (List.map DatasetReference.lowered) lowered cursor.fromClauses := by
  fun_induction fromClauses cursor with
  | case1 cursor hnone =>
      have hlowered : cursor.lowered.fromClause? = none := by
        rw [fromClause?_lowered, hnone]
        rfl
      rw [fromClauses_of_none hlowered]
      rfl
  | case2 cursor sources after hsome more stop hmore ih =>
      have hlowered : cursor.lowered.fromClause? =
          some (sources.map DatasetReference.lowered, after.lowered) := by
        rw [fromClause?_lowered, hsome]
        rfl
      rw [fromClauses_of_some hlowered, ih, hmore]
      simp only [Prod.map_apply, List.map_append]

theorem createTable?_lowered : IgnoresCase Procedure.lowered createTable? := by
  intro cursor
  refine bind_image (word?_lowered "create" cursor) fun create => ?_
  refine bind_image (space?_lowered create) fun start => ?_
  refine bind_image (word?_lowered "table" start) fun table => ?_
  rw [skipSpace_lowered, datasetEnumeration_lowered]
  generalize table.skipSpace.datasetEnumeration = outputs
  obtain ⟨outputs, stop⟩ := outputs
  simp only [Prod.map_apply, skipSpace_lowered]
  refine bind_image (word?_lowered "as" stop.skipSpace) fun query => ?_
  rw [fromClauses_lowered]
  generalize query.fromClauses = inputs
  obtain ⟨inputs, stop⟩ := inputs
  exact bind_image (through?_lowered (by decide) stop) fun (_, stop) => rfl

theorem trimEnd_map_toLower (text : List Char) :
    trimEnd (text.map Char.toLower) = (trimEnd text).map Char.toLower := by
  have hclass : isWhiteSpace ∘ Char.toLower = isWhiteSpace := funext isWhiteSpace_toLower
  unfold trimEnd
  rw [← List.map_reverse, List.dropWhile_map, hclass, List.map_reverse]

theorem endsInQuit_map_toLower (text : List Char) :
    endsInQuit (text.map Char.toLower) = endsInQuit text := by
  have hfold : Char.toLower ∘ Char.toLower = Char.toLower := funext toLower_toLower
  unfold endsInQuit
  rw [trimEnd_map_toLower, ← List.map_reverse, ← List.map_take, List.map_map, hfold]

theorem sqlStatement?_lowered : IgnoresCase SqlStatement.lowered sqlStatement? := by
  intro cursor
  refine bind_image (through?_lowered (by decide) cursor) fun (text, stop) => ?_
  simp only [Prod.map_apply, endsInQuit_map_toLower]
  split
  · rfl
  · simp [SqlStatement.lowered]

theorem sqlItem?_lowered : IgnoresCase MatchItem.lowered sqlItem? := by
  intro cursor
  unfold sqlItem?
  refine orElse_image ?_ ?_
  · rw [createTable?_lowered cursor, Option.map_map, Option.map_map]
    rfl
  · rw [sqlStatement?_lowered cursor, Option.map_map, Option.map_map]
    rfl

theorem sqlBlock?_lowered (cursor : Cursor) :
    cursor.lowered.sqlBlock? = cursor.sqlBlock?.map ConstructMatch.lowered := by
  have hblanks : StepIgnoresCase fun cursor => some cursor.skipSpace :=
    fun cursor => congrArg some (skipSpace_lowered cursor)
  refine bind_image (word?_lowered "proc" cursor) fun keyword => ?_
  refine bind_image (space?_lowered keyword) fun start => ?_
  refine bind_image (word?_lowered "sql" start) fun kind => ?_
  refine bind_image (through?_lowered (by decide) kind) fun (_, body) => ?_
  simp only [Prod.map_apply, skipSpace_lowered, separated_lowered sqlItem?_lowered hblanks]
  generalize separated sqlItem? (fun cursor => some cursor.skipSpace) body.skipSpace = items
  obtain ⟨items, stop⟩ := items
  exact bind_image (find?_lowered (Pattern.terminated_lowered "quit") stop) fun quit => rfl

end Cursor

/-! ## Constructs and grammars -/

namespace Construct

open Cursor

theorem covering_lowered {α : Type} {lower : α → α} {wrap : α → Node} {read : Reader α}
    (hread : IgnoresCase lower read) (hwrap : ∀ value, wrap (lower value) = (wrap value).lowered)
    (cursor : Cursor) :
    ((read cursor.lowered).map fun (value, stop) =>
        ConstructMatch.single cursor.lowered (wrap value) stop) =
      ((read cursor).map fun (value, stop) =>
        ConstructMatch.single cursor (wrap value) stop).map ConstructMatch.lowered := by
  rw [hread cursor, Option.map_map, Option.map_map]
  congr 1
  funext pair
  simp [ConstructMatch.single, ConstructMatch.lowered, MatchItem.lowered, hwrap]

theorem marker_lowered {node : Node} (hnode : node.lowered = node)
    {step : Cursor → Option Cursor} (hstep : StepIgnoresCase step) (cursor : Cursor) :
    (step cursor.lowered).map (ConstructMatch.single cursor.lowered node) =
      ((step cursor).map (ConstructMatch.single cursor node)).map ConstructMatch.lowered := by
  rw [hstep cursor, Option.map_map, Option.map_map]
  congr 1
  funext stop
  simp [ConstructMatch.single, ConstructMatch.lowered, MatchItem.lowered, hnode]

theorem read?_lowered (construct : Construct) (cursor : Cursor) :
    construct.read? cursor.lowered = (construct.read? cursor).map ConstructMatch.lowered := by
  cases construct with
  | newline => exact marker_lowered rfl newline?_lowered cursor
  | macroVariable => exact covering_lowered macroVariableDefinition?_lowered (fun _ => rfl) cursor
  | comment => exact covering_lowered comment?_lowered (fun _ => rfl) cursor
  | dataStep => exact covering_lowered dataStep?_lowered (fun _ => rfl) cursor
  | procedure => exact covering_lowered procedure?_lowered (fun _ => rfl) cursor
  | sqlBlock => exact sqlBlock?_lowered cursor
  | sqlStatement => exact covering_lowered sqlStatement?_lowered (fun _ => rfl) cursor
  | createTable => exact covering_lowered createTable?_lowered (fun _ => rfl) cursor
  | libraryBinding => exact covering_lowered libraryBinding?_lowered (fun _ => rfl) cursor
  | inclusion => exact covering_lowered inclusion?_lowered (fun _ => rfl) cursor
  | macroStart => exact covering_lowered macroStart?_lowered (fun _ => rfl) cursor
  | macroEnd => exact marker_lowered rfl macroEnd?_lowered cursor
  | macroCall => exact covering_lowered macroCall?_lowered (fun _ => rfl) cursor
  | nothing => rfl

end Construct

namespace Grammar

theorem firstMatch?_lowered (grammar : Grammar) (cursor : Cursor) :
    grammar.firstMatch? cursor.lowered =
      (grammar.firstMatch? cursor).map ConstructMatch.lowered := by
  have hrule (construct : Construct) :
      ((construct.read? cursor.lowered).filter fun found =>
          found.rest.remaining < cursor.lowered.remaining) =
        ((construct.read? cursor).filter fun found =>
          found.rest.remaining < cursor.remaining).map ConstructMatch.lowered := by
    rw [construct.read?_lowered]
    cases construct.read? cursor with
    | none => rfl
    | some found =>
        have hrest : found.lowered.rest.remaining = found.rest.remaining :=
          Cursor.remaining_lowered found.rest
        simp only [Option.map_some, Option.filter_some, hrest, Cursor.remaining_lowered]
        split <;> rfl
  unfold firstMatch?
  simp only [hrule]
  induction grammar.rules with
  | nil => rfl
  | cons rule rules ih =>
      simp only [List.findSome?_cons]
      cases (rule.2.read? cursor).filter fun found => found.rest.remaining < cursor.remaining with
      | none => exact ih
      | some found => rfl

end Grammar

end SasOutline
