import SasOutline.Grammar
import SasOutline.Proofs.TextInFront

/-!
# Constructs with more text in front

What a grammar finds at a cursor it finds as well behind text that does not end in a part
of a word: the same nodes, between cursors that have the text in front.
-/

namespace SasOutline

variable {before : List Char}

def MatchItem.behind (before : List Char) (item : MatchItem) : MatchItem :=
  ⟨item.node, item.start.behind before, item.stop.behind before⟩

def ConstructMatch.behind (before : List Char) (found : ConstructMatch) : ConstructMatch :=
  ⟨found.items.map (MatchItem.behind before), found.rest.behind before⟩

namespace Cursor

/-! ## Statements outside of steps -/

theorem newline?_behind : StepsBehind before newline? := by
  intro cursor
  refine orElse_image (cursor.char?_behind before '\n') ?_
  exact bind_image (cursor.char?_behind before '\r') fun stop => stop.char?_behind before '\n'

theorem semicolon?_behind : StepsBehind before semicolon? :=
  spacedChar?_behind ';'

theorem letValue_behind (cursor : Cursor) :
    (cursor.behind before).letValue = Prod.map id (behind before) cursor.letValue := by
  unfold letValue
  rw [run?_behind]
  cases cursor.run? (· != ';') <;> rfl

theorem macroVariableDefinition?_behind : ReadsBehind before macroVariableDefinition? := by
  intro cursor
  refine bind_image (keyword?_behind "%let" cursor) fun keyword => ?_
  refine bind_image (space?_behind keyword) fun start => ?_
  refine bind_image (dynamicName?_behind start) fun (name, stop) => ?_
  refine bind_image (spacedChar?_behind '=' stop) fun equals => ?_
  rw [letValue_behind]
  generalize equals.letValue = pair
  obtain ⟨value, stop⟩ := pair
  exact bind_image (stop.char?_behind before ';') fun stop => rfl

theorem inclusion?_behind : ReadsBehind before inclusion? := by
  intro cursor
  refine bind_image (keyword?_behind "%include" cursor) fun keyword => ?_
  refine bind_image (space?_behind keyword) fun start => ?_
  refine bind_image (quotedPath?_behind start) fun (path, stop) => ?_
  exact bind_image (semicolon?_behind stop) fun stop => rfl

theorem pathTarget?_behind : ReadsBehind before pathTarget? := by
  intro cursor
  refine bind_image (quotedPath?_behind cursor) fun (path, stop) => ?_
  exact bind_image (semicolon?_behind stop) fun stop => rfl

theorem pointerTarget?_behind : ReadsBehind before pointerTarget? := by
  intro cursor
  refine bind_image (cursor.char?_behind before '(') fun opened => ?_
  rw [skipSpace_behind]
  refine bind_image (dynamicName?_behind opened.skipSpace) fun (library, stop) => ?_
  refine bind_image (spacedChar?_behind ')' stop) fun closed => ?_
  exact bind_image (semicolon?_behind closed) fun stop => rfl

/-! ## Macro markers and calls -/

theorem slashedList_behind {item : Reader DatasetOption} (hitem : ReadsBehind before item)
    (cursor : Cursor) :
    (((cursor.behind before).skipSpace.char? '/').bind fun slash =>
        some (separated item space? slash.skipSpace)) =
      ((cursor.skipSpace.char? '/').bind fun slash =>
        some (separated item space? slash.skipSpace)).map (Prod.map id (behind before)) := by
  refine bind_image (spacedChar?_behind '/' cursor) fun slash => ?_
  rw [skipSpace_behind, separated_behind hitem space?_behind]
  rfl

theorem macroOptions?_behind : ReadsBehind before macroOptions? :=
  slashedList_behind macroOption?_behind

theorem stepOptions?_behind : ReadsBehind before stepOptions? :=
  slashedList_behind datasetOption?_behind

theorem optionalArguments_behind (cursor : Cursor) :
    optional (cursor.behind before) (cursor.behind before).skipSpace.argumentList? =
      Prod.map id (behind before) (optional cursor cursor.skipSpace.argumentList?) := by
  rw [skipSpace_behind]
  exact optional_behind (argumentList?_behind cursor.skipSpace)

theorem macroStart?_behind : ReadsBehind before macroStart? := by
  intro cursor
  refine bind_image (keyword?_behind "%macro" cursor) fun keyword => ?_
  refine bind_image (space?_behind keyword) fun start => ?_
  refine bind_image (dynamicName?_behind start) fun (name, stop) => ?_
  simp only [Prod.map_apply, optionalArguments_behind]
  generalize optional stop stop.skipSpace.argumentList? = arguments
  obtain ⟨arguments, stop⟩ := arguments
  simp only [Prod.map_apply, optional_behind (macroOptions?_behind stop)]
  generalize optional stop stop.macroOptions? = options
  obtain ⟨options, stop⟩ := options
  exact bind_image (semicolon?_behind stop) fun stop => rfl

theorem macroEnd?_behind : StepsBehind before macroEnd? := by
  intro cursor
  refine bind_image (cursor.letters?_behind before foldedLetter "%mend") fun keyword => ?_
  rw [keyword.skipWhile_behind]
  exact Cursor.char?_behind before _ ';'

theorem macroCall?_behind : ReadsBehind before macroCall? := by
  intro cursor
  refine bind_image (cursor.char?_behind before '%') fun start => ?_
  refine bind_image (dynamicName?_behind start) fun (name, stop) => ?_
  simp only [Prod.map_apply, id_eq]
  split
  · rfl
  · rw [optionalArguments_behind]
    generalize optional stop stop.skipSpace.argumentList? = arguments
    obtain ⟨arguments, stop⟩ := arguments
    exact bind_image (semicolon?_behind stop) fun stop => rfl

/-! ## Steps -/

section LookingBack

variable (hbefore : EndsWord before)

include hbefore

theorem libraryBinding?_behind : ReadsBehind before libraryBinding? := by
  intro cursor
  refine bind_image (word?_behind hbefore "libname" cursor) fun keyword => ?_
  refine bind_image (space?_behind keyword) fun start => ?_
  refine bind_image (dynamicName?_behind start) fun (library, stop) => ?_
  refine bind_image (space?_behind stop) fun start => ?_
  refine bind_image (orElse_image (pathTarget?_behind start) (pointerTarget?_behind start))
    fun (target, stop) => rfl

theorem dataStatement?_behind : ReadsBehind before dataStatement? := by
  intro cursor
  refine bind_image (word?_behind hbefore "data" cursor) fun keyword => ?_
  refine bind_image (space?_behind keyword) fun start => ?_
  rw [datasetList_behind]
  generalize start.datasetList = outputs
  obtain ⟨outputs, stop⟩ := outputs
  simp only [Prod.map_apply, optional_behind (stepOptions?_behind stop)]
  generalize optional stop stop.stepOptions? = options
  obtain ⟨options, stop⟩ := options
  exact bind_image (semicolon?_behind stop) fun stop => rfl

theorem stepHeader?_behind : ReadsBehind before stepHeader? := by
  intro cursor
  refine bind_image (cursor.find?_behind before (Pattern.setOrMerge_behind hbefore)) fun found => ?_
  simp only [findBefore?_behind (Pattern.wholeWord_behind hbefore "run"), Pattern.run,
    Option.isSome_map]
  by_cases hrun : (cursor.findBefore? (Pattern.wholeWord "run") found.start).isSome = true
  · simp [hrun]
  · simp [hrun]

theorem setStatement?_behind : ReadsBehind before setStatement? := by
  intro cursor
  unfold setStatement?
  rw [skipSpace_behind]
  refine bind_image (orElse_image (word?_behind hbefore "set" _) (word?_behind hbefore "merge" _))
    fun keyword => ?_
  rw [skipSpace_behind, datasetList_behind]
  generalize keyword.skipSpace.datasetList = inputs
  obtain ⟨inputs, stop⟩ := inputs
  exact bind_image (semicolon?_behind stop) fun stop => rfl

theorem dataStep?_behind : ReadsBehind before dataStep? := by
  intro cursor
  refine bind_image (dataStatement?_behind hbefore cursor) fun ((outputs, options), start) => ?_
  simp only [Prod.map_apply, optional_behind (stepHeader?_behind hbefore start)]
  generalize optional start start.stepHeader? = header
  obtain ⟨header, stop⟩ := header
  simp only [Prod.map_apply, optional_behind (setStatement?_behind hbefore stop)]
  generalize optional stop stop.setStatement? = inputs
  obtain ⟨inputs, bodyStart⟩ := inputs
  refine bind_image (bodyStart.find?_behind before (Pattern.wholeWord_behind hbefore "run"))
    fun run => ?_
  exact bind_image (semicolon?_behind run.stop) fun stop => rfl

theorem outOption?_behind (cursor limit : Cursor) :
    (cursor.behind before).outOption? (limit.behind before) =
      (cursor.outOption? limit).map (Prod.map id (behind before)) :=
  bind_image (findBefore?_behind (Pattern.assigned_behind hbefore "out") cursor limit) fun found =>
    datasetReference?_behind found.stop

theorem outOptions_behind (cursor limit : Cursor) :
    (cursor.behind before).outOptions (limit.behind before) =
      Prod.map id (behind before) (cursor.outOptions limit) := by
  fun_induction outOptions cursor limit with
  | case1 cursor hnone =>
      have hbehind : (cursor.behind before).outOption? (limit.behind before) = none := by
        rw [outOption?_behind hbefore, hnone]
        rfl
      rw [outOptions_of_none hbehind]
      rfl
  | case2 cursor output after hsome more stop hmore ih =>
      have hbehind : (cursor.behind before).outOption? (limit.behind before) =
          some (output, after.behind before) := by
        rw [outOption?_behind hbefore, hsome]
        rfl
      rw [outOptions_of_some hbehind, ih, hmore]
      rfl

theorem procedure?_behind : ReadsBehind before procedure? := by
  intro cursor
  refine bind_image (word?_behind hbefore "proc" cursor) fun keyword => ?_
  refine bind_image (space?_behind keyword) fun start => ?_
  refine bind_image (plainName?_behind start) fun (kind, stop) => ?_
  simp only [Prod.map_apply, id_eq]
  split
  · rfl
  · refine bind_image (space?_behind stop) fun start => ?_
    refine bind_image (start.find?_behind before (Pattern.stepEnd_behind hbefore)) fun limit => ?_
    have hassigned := Pattern.assigned_behind hbefore "data"
    refine bind_image (findBefore?_behind hassigned start limit.start) fun data => ?_
    refine bind_image (datasetReference?_behind data.stop) fun (input, stop) => ?_
    simp only [Prod.map_apply, outOptions_behind hbefore]
    generalize stop.outOptions limit.start = outputs
    obtain ⟨outputs, stop⟩ := outputs
    exact bind_image (stop.find?_behind before (Pattern.stepEnd_behind hbefore))
      fun terminator => rfl

/-! ## Statements of the `sql` procedure -/

theorem fromClause?_behind : ReadsBehind before fromClause? := by
  intro cursor
  unfold fromClause?
  rw [skipWhile_behind]
  refine bind_image (findBefore?_behind (Pattern.spaced_behind hbefore "from") cursor _)
    fun found => ?_
  exact congrArg some (datasetEnumeration_behind found.stop)

theorem fromClauses_behind (cursor : Cursor) :
    (cursor.behind before).fromClauses = Prod.map id (behind before) cursor.fromClauses := by
  fun_induction fromClauses cursor with
  | case1 cursor hnone =>
      have hbehind : (cursor.behind before).fromClause? = none := by
        rw [fromClause?_behind hbefore, hnone]
        rfl
      rw [fromClauses_of_none hbehind]
      rfl
  | case2 cursor sources after hsome more stop hmore ih =>
      have hbehind : (cursor.behind before).fromClause? = some (sources, after.behind before) := by
        rw [fromClause?_behind hbefore, hsome]
        rfl
      rw [fromClauses_of_some hbehind, ih, hmore]
      rfl

theorem createTable?_behind : ReadsBehind before createTable? := by
  intro cursor
  refine bind_image (word?_behind hbefore "create" cursor) fun create => ?_
  refine bind_image (space?_behind create) fun start => ?_
  refine bind_image (word?_behind hbefore "table" start) fun table => ?_
  rw [skipSpace_behind, datasetEnumeration_behind]
  generalize table.skipSpace.datasetEnumeration = outputs
  obtain ⟨outputs, stop⟩ := outputs
  simp only [Prod.map_apply, skipSpace_behind]
  refine bind_image (word?_behind hbefore "as" stop.skipSpace) fun query => ?_
  rw [fromClauses_behind hbefore]
  generalize query.fromClauses = inputs
  obtain ⟨inputs, stop⟩ := inputs
  exact bind_image (through?_behind ';' stop) fun (_, stop) => rfl

omit hbefore in
theorem sqlStatement?_behind : ReadsBehind before sqlStatement? := by
  intro cursor
  refine bind_image (through?_behind ';' cursor) fun (text, stop) => ?_
  simp only [Prod.map_apply, id_eq]
  split <;> rfl

theorem sqlItem?_behind (cursor : Cursor) :
    (cursor.behind before).sqlItem? =
      cursor.sqlItem?.map (Prod.map (MatchItem.behind before) (behind before)) := by
  unfold sqlItem?
  refine orElse_image ?_ ?_
  · rw [createTable?_behind hbefore cursor, Option.map_map, Option.map_map]
    rfl
  · rw [sqlStatement?_behind cursor, Option.map_map, Option.map_map]
    rfl

theorem sqlBlock?_behind (cursor : Cursor) :
    (cursor.behind before).sqlBlock? = cursor.sqlBlock?.map (ConstructMatch.behind before) := by
  have hitems (cursor : Cursor) :
      separated sqlItem? (fun cursor => some cursor.skipSpace) (cursor.behind before) =
        Prod.map (List.map (MatchItem.behind before)) (behind before)
          (separated sqlItem? (fun cursor => some cursor.skipSpace) cursor) := by
    refine separated_image remaining_behind (sqlItem?_behind hbefore) (fun cursor => ?_) cursor
    exact congrArg some (skipSpace_behind cursor)
  refine bind_image (word?_behind hbefore "proc" cursor) fun keyword => ?_
  refine bind_image (space?_behind keyword) fun start => ?_
  refine bind_image (word?_behind hbefore "sql" start) fun kind => ?_
  refine bind_image (through?_behind ';' kind) fun (_, body) => ?_
  simp only [Prod.map_apply, skipSpace_behind, hitems]
  generalize separated sqlItem? (fun cursor => some cursor.skipSpace) body.skipSpace = items
  obtain ⟨items, stop⟩ := items
  exact bind_image (stop.find?_behind before (Pattern.terminated_behind hbefore "quit"))
    fun quit => rfl

end LookingBack

end Cursor

/-! ## Constructs and grammars -/

namespace Construct

theorem covering_behind {α : Type} (wrap : α → Node) {read : Reader α}
    (hread : ReadsBehind before read) (cursor : Cursor) :
    ((read (cursor.behind before)).map fun (value, stop) =>
        ConstructMatch.single (cursor.behind before) (wrap value) stop) =
      ((read cursor).map fun (value, stop) =>
        ConstructMatch.single cursor (wrap value) stop).map (ConstructMatch.behind before) := by
  rw [hread cursor, Option.map_map, Option.map_map]
  rfl

theorem marker_behind (node : Node) {step : Cursor → Option Cursor}
    (hstep : StepsBehind before step) (cursor : Cursor) :
    (step (cursor.behind before)).map (ConstructMatch.single (cursor.behind before) node) =
      ((step cursor).map (ConstructMatch.single cursor node)).map
        (ConstructMatch.behind before) := by
  rw [hstep cursor, Option.map_map, Option.map_map]
  rfl

open Cursor in
theorem read?_behind (hbefore : EndsWord before) (construct : Construct) (cursor : Cursor) :
    construct.read? (cursor.behind before) =
      (construct.read? cursor).map (ConstructMatch.behind before) := by
  cases construct with
  | newline => exact marker_behind _ newline?_behind cursor
  | macroVariable => exact covering_behind _ macroVariableDefinition?_behind cursor
  | comment => exact covering_behind _ comment?_behind cursor
  | dataStep => exact covering_behind _ (dataStep?_behind hbefore) cursor
  | procedure => exact covering_behind _ (procedure?_behind hbefore) cursor
  | sqlBlock => exact sqlBlock?_behind hbefore cursor
  | sqlStatement => exact covering_behind _ sqlStatement?_behind cursor
  | createTable => exact covering_behind _ (createTable?_behind hbefore) cursor
  | libraryBinding => exact covering_behind _ (libraryBinding?_behind hbefore) cursor
  | inclusion => exact covering_behind _ inclusion?_behind cursor
  | macroStart => exact covering_behind _ macroStart?_behind cursor
  | macroEnd => exact marker_behind _ macroEnd?_behind cursor
  | macroCall => exact covering_behind _ macroCall?_behind cursor
  | nothing => rfl

end Construct

namespace Grammar

theorem firstMatch?_behind (hbefore : EndsWord before) (grammar : Grammar) (cursor : Cursor) :
    grammar.firstMatch? (cursor.behind before) =
      (grammar.firstMatch? cursor).map (ConstructMatch.behind before) := by
  have hrule (construct : Construct) :
      ((construct.read? (cursor.behind before)).filter fun found =>
          found.rest.remaining < (cursor.behind before).remaining) =
        ((construct.read? cursor).filter fun found =>
          found.rest.remaining < cursor.remaining).map (ConstructMatch.behind before) := by
    rw [construct.read?_behind hbefore]
    cases construct.read? cursor with
    | none => rfl
    | some found =>
        simp only [Option.map_some, Option.filter_some]
        rw [apply_ite (Option.map _)]
        rfl
  unfold firstMatch?
  simp only [hrule]
  induction grammar.rules with
  | nil => rfl
  | cons rule rules ih =>
      simp only [List.findSome?_cons]
      cases (rule.2.read? cursor).filter fun found => found.rest.remaining < cursor.remaining with
      | none => exact ih
      | some found => rfl

end Grammar

end SasOutline
