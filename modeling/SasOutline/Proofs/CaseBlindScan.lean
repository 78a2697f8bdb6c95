import SasOutline.Program
import SasOutline.Proofs.CaseBlindConstructs
import SasOutline.Proofs.FoldedLineage
import SasOutline.Proofs.ScanTurns

/-!
# Scans and lineage of a lowered text

A scan of a lowered text takes the same steps as a scan of the text itself, so
the counts, the kinds of the nodes and their spans agree.  The lineage of a
program compares datasets by identifiers that have no case, and so it is the same
for all spellings of a text.
-/

namespace SasOutline

/-! ## The steps of a scan -/

def ScanStep.lowered : ScanStep → ScanStep
  | .matched start found => .matched start.lowered found.lowered
  | .skipped ch => .skipped ch.toLower

def Spanned.lowered (item : Spanned Node) : Spanned Node :=
  ⟨item.node.lowered, item.span⟩

namespace Position

theorem advanceChar_toLower (position : Position) (ch : Char) :
    position.advanceChar ch.toLower = position.advanceChar ch := by
  have hfeed : ch.toLower = '\n' ↔ ch = '\n' := toLower_eq_iff (by decide) ch
  simp only [advanceChar, hfeed]

theorem advance_map_toLower (position : Position) (text : List Char) :
    position.advance (text.map Char.toLower) = position.advance text := by
  induction text generalizing position with
  | nil => rfl
  | cons ch text ih =>
      rw [List.map_cons, advance_cons, advance_cons, advanceChar_toLower, ih]

end Position

theorem steps_lowered (grammar : Grammar) (cursor : Cursor) :
    grammar.steps cursor.lowered = (grammar.steps cursor).map ScanStep.lowered := by
  fun_induction Grammar.steps grammar cursor with
  | case1 cursor found hfound ih =>
      have hlowered : grammar.firstMatch? cursor.lowered = some found.lowered := by
        rw [grammar.firstMatch?_lowered, hfound]
        rfl
      rw [Grammar.steps_of_firstMatch? hlowered]
      exact congrArg _ ih
  | case2 cursor hnone ch after hbump ih =>
      have hlowered : grammar.firstMatch? cursor.lowered = none := by
        rw [grammar.firstMatch?_lowered, hnone]
        rfl
      have hstep : cursor.lowered.bump? = some (ch.toLower, after.lowered) := by
        rw [Cursor.bump?_lowered, hbump]
        rfl
      rw [Grammar.steps_of_bump? hlowered hstep]
      exact congrArg _ ih
  | case3 cursor hnone hbump =>
      have hrest : cursor.lowered.rest = [] := by
        simp [Cursor.lowered, Cursor.bump?_eq_none hbump]
      have hend : grammar.steps ⟨cursor.lowered.before, []⟩ = [] := Grammar.steps_end _
      rw [← hrest] at hend
      exact hend

theorem placeItems_lowered (position : Position) (scanned rest : Cursor)
    (items : List MatchItem) :
    placeItems position scanned.lowered rest.lowered (items.map MatchItem.lowered) =
      Prod.map (List.map Spanned.lowered) id (placeItems position scanned rest items) := by
  induction items generalizing position scanned with
  | nil =>
      simp only [List.map_nil, placeItems, Cursor.textUntil_lowered,
        Position.advance_map_toLower]
      rfl
  | cons item items ih =>
      simp only [List.map_cons, placeItems, MatchItem.lowered, Cursor.textUntil_lowered,
        Position.advance_map_toLower, ih]
      rfl

theorem placeSteps_lowered (position : Position) (steps : List ScanStep) :
    placeSteps position (steps.map ScanStep.lowered) =
      (placeSteps position steps).map Spanned.lowered := by
  induction steps generalizing position with
  | nil => rfl
  | cons step steps ih =>
      cases step with
      | skipped ch =>
          simp only [List.map_cons, ScanStep.lowered, placeSteps, Position.advanceChar_toLower, ih]
      | matched start found =>
          simp only [List.map_cons, ScanStep.lowered, ConstructMatch.lowered, placeSteps,
            placeItems_lowered, Prod.map_fst, Prod.map_snd, id_eq, ih, List.map_append]

theorem matchedLength_lowered (step : ScanStep) :
    step.lowered.matchedLength = step.matchedLength := by
  cases step with
  | skipped ch => rfl
  | matched start found =>
      have hread := Cursor.textUntil_lowered start found.rest
      simp only [ScanStep.lowered, ScanStep.matchedLength]
      rw [show found.lowered.rest = found.rest.lowered from rfl, hread, List.length_map]

theorem isMatch_lowered (step : ScanStep) : step.lowered.isMatch = step.isMatch := by
  cases step <;> rfl

theorem scan_toLower (grammar : Grammar) (text : String) :
    grammar.scan text.toLower =
      ⟨(grammar.scan text).nodes.map Spanned.lowered, (grammar.scan text).counts⟩ := by
  have hstart : Cursor.ofText text.toLower = (Cursor.ofText text).lowered := by
    simp [Cursor.ofText, Cursor.lowered]
  have hlength : text.toLower.length = text.length := by
    rw [← String.length_toList, ← String.length_toList]
    simp
  simp only [Grammar.scan, hstart, hlength, steps_lowered, placeSteps_lowered, List.foldr_map,
    List.countP_map, Function.comp_def, matchedLength_lowered, isMatch_lowered]

/-! ## Lineage -/

namespace DatasetReference

theorem isEmpty_lowered (name : DynamicName) : name.lowered.isEmpty = name.isEmpty := by
  have hsegment (segment : NameSegment) :
      segment.lowered.text.isEmpty = segment.text.isEmpty := by
    rw [NameSegment.text_lowered, Bool.eq_iff_iff, String.isEmpty_iff, String.isEmpty_iff,
      ← String.toList_eq_nil_iff, ← String.toList_eq_nil_iff]
    simp
  unfold DynamicName.isEmpty DynamicName.lowered
  simp only [List.all_map, Function.comp_def, hsegment]

theorem defect?_lowered (object : DatasetReference) :
    object.lowered.defect? = object.defect? := by
  have hlibrary : object.lowered.library.any DynamicName.isEmpty =
      object.library.any DynamicName.isEmpty := by
    cases hlibrary : object.library with
    | none => simp [lowered, hlibrary]
    | some library => simp [lowered, hlibrary, isEmpty_lowered]
  unfold defect?
  rw [dataset_lowered, isEmpty_lowered, hlibrary]

end DatasetReference

def LineageStatement.lowered (statement : LineageStatement) : LineageStatement :=
  { statement with
    inputs := statement.inputs.map DatasetReference.lowered
    outputs := statement.outputs.map DatasetReference.lowered }

namespace LineageGraph

theorem addPair_lowered (graph : LineageGraph) (line : Nat) (label : Option String)
    (pair : DatasetReference × DatasetReference) :
    graph.addPair line label (Prod.map DatasetReference.lowered DatasetReference.lowered pair) =
      graph.addPair line label pair := by
  have hnode (object : DatasetReference) :
      LineageNode.ofReference object.lowered line = LineageNode.ofReference object line := by
    unfold LineageNode.ofReference
    rw [object.identifier_lowered, object.libraryName_lowered, object.datasetName_lowered]
  simp only [addPair, Prod.map_fst, Prod.map_snd, hnode, DatasetReference.identifier_lowered]

theorem addStatement_lowered (graph : LineageGraph) (statement : LineageStatement) :
    graph.addStatement statement.lowered = graph.addStatement statement := by
  have hdefect : statement.lowered.defect? = statement.defect? := by
    unfold LineageStatement.defect? LineageStatement.lowered
    rw [← List.map_append, List.findSome?_map]
    simp only [Function.comp_def, DatasetReference.defect?_lowered]
  have hpairs : statement.lowered.pairs =
      statement.pairs.map (Prod.map DatasetReference.lowered DatasetReference.lowered) := by
    simp [LineageStatement.pairs, LineageStatement.lowered, List.flatMap_map, List.map_flatMap,
      Function.comp_def]
  unfold addStatement
  rw [hdefect, hpairs, List.foldl_map]
  simp only [addPair_lowered]
  rfl

theorem foldl_documentStatements_lowered (graph : LineageGraph)
    (nodes : List (Spanned Node)) :
    (documentStatements (nodes.map Spanned.lowered)).foldl addStatement graph =
      (documentStatements nodes).foldl addStatement graph := by
  fun_induction documentStatements nodes generalizing graph with
  | case1 => simp [documentStatements]
  | case2 step span rest ih =>
      have hhead := graph.addStatement_lowered
        ⟨span.start.line, .dataStep, step.inputs, step.outputs, none⟩
      simp only [LineageStatement.lowered] at hhead
      simp only [List.map_cons, Spanned.lowered, Node.lowered, documentStatements,
        DataStep.lowered, List.foldl_cons, hhead, ih]
  | case3 procedure span rest ih =>
      have hhead := graph.addStatement_lowered
        ⟨span.start.line, .procedure, procedure.inputs, procedure.outputs,
          some ("proc " ++ procedure.kind)⟩
      simp only [LineageStatement.lowered] at hhead
      simp only [List.map_cons, Spanned.lowered, Node.lowered, documentStatements,
        Procedure.lowered, List.foldl_cons, hhead, ih]
  | case4 heading contents terminated span rest _ ih =>
      simp only [List.map_cons, Spanned.lowered, Node.lowered, documentStatements,
        List.foldl_append, ih]
  | case5 item rest hstep hprocedure hdefinition ih =>
      have hleaf : documentStatements (item.lowered :: rest.map Spanned.lowered) =
          documentStatements (rest.map Spanned.lowered) := by
        obtain ⟨node, span⟩ := item
        cases node with
        | dataStep step => exact (hstep step span rfl).elim
        | procedure procedure => exact (hprocedure procedure span rfl).elim
        | macroDefinition heading contents terminated =>
            exact (hdefinition heading contents terminated span rfl).elim
        | _ => simp [Spanned.lowered, Node.lowered, documentStatements]
      rw [List.map_cons, hleaf, ih]

end LineageGraph

/-- The lineage of a program can be read off its scan. -/
theorem lineage_parse (grammar : Grammar) (text : String) (name : Option String) :
    (Program.parse grammar text name).lineage =
      (documentStatements (grammar.scan text).nodes).foldl LineageGraph.addStatement .empty := by
  unfold Program.parse Program.lineage LineageGraph.ofNodes
  rw [addNodes_foldMacros, LineageGraph.addNodes_eq]

theorem lineage_parse_toLower (grammar : Grammar) (text : String) (name : Option String) :
    (Program.parse grammar text.toLower name).lineage =
      (Program.parse grammar text name).lineage := by
  rw [lineage_parse, lineage_parse, scan_toLower]
  exact LineageGraph.foldl_documentStatements_lowered _ _

/-! ## Two spellings of a text -/

/-- What is seen of a node without its texts. -/
def Spanned.outline (item : Spanned Node) : NodeKind × Span := (item.kind, item.span)

theorem outline_scan_toLower (grammar : Grammar) (text : String) :
    (grammar.scan text.toLower).nodes.map Spanned.outline =
      (grammar.scan text).nodes.map Spanned.outline := by
  have houtline (item : Spanned Node) : item.lowered.outline = item.outline := by
    simp [Spanned.outline, Spanned.lowered, Spanned.kind]
  rw [scan_toLower]
  simp only [List.map_map, Function.comp_def, houtline]

/-- Texts that differ in the case of ASCII letters have the same counts, nodes of
the same kinds with the same spans, and the same lineage. -/
theorem scan_ignores_case (grammar : Grammar) (text other : String)
    (hsame : equalIgnoringCase text other = true) :
    (grammar.scan text).counts = (grammar.scan other).counts ∧
      (grammar.scan text).nodes.map Spanned.outline =
        (grammar.scan other).nodes.map Spanned.outline ∧
      ∀ name otherName, (Program.parse grammar text name).lineage =
        (Program.parse grammar other otherName).lineage := by
  have hlowered : text.toLower = other.toLower := equalIgnoringCase_iff.mp hsame
  refine ⟨?_, ?_, ?_⟩
  · have htext : (grammar.scan text.toLower).counts = (grammar.scan text).counts := by
      rw [scan_toLower]
    have hother : (grammar.scan other.toLower).counts = (grammar.scan other).counts := by
      rw [scan_toLower]
    rw [← htext, ← hother, hlowered]
  · rw [← outline_scan_toLower grammar text, ← outline_scan_toLower grammar other, hlowered]
  · intro name otherName
    calc (Program.parse grammar text name).lineage
        = (Program.parse grammar text.toLower name).lineage :=
          (lineage_parse_toLower grammar text name).symm
      _ = (Program.parse grammar other.toLower otherName).lineage := by
          rw [lineage_parse, lineage_parse, hlowered]
      _ = (Program.parse grammar other otherName).lineage :=
          lineage_parse_toLower grammar other otherName

theorem scan_ignores_case_of_step :
    let first := "DATA Mart.Sales;\n  Set raw.ORDERS;\nRUN;\n"
    let second := "data mart.SALES;\n  set RAW.orders;\nrun;\n"
    equalIgnoringCase first second = true ∧
      (Grammar.full.scan first).counts = (Grammar.full.scan second).counts ∧
        (Grammar.full.scan first).nodes.map Spanned.outline =
          (Grammar.full.scan second).nodes.map Spanned.outline ∧
        ∀ name otherName, (Program.parse .full first name).lineage =
          (Program.parse .full second otherName).lineage := by
  intro first second
  have hsame : equalIgnoringCase first second = true := by decide
  exact ⟨hsame, scan_ignores_case .full first second hsame⟩

end SasOutline
