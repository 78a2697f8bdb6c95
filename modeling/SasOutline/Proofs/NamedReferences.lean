import SasOutline.Proofs.FoldedObjects
import SasOutline.Proofs.NodeOrigin
import SasOutline.Proofs.ReferenceIdentity
import SasOutline.Program

/-!
# The references of a program name datasets

A reference is read from a name that has at least one character, and so is the
library in front of it.  No step and no procedure of a program therefore has a
reference that names nothing, and the lineage of a program leaves no statement
out.

The kind of a procedure is in lower case.  The reader of procedure steps refuses
the `sql` procedure, so that kind tells that a `create table` statement was read.
-/

namespace SasOutline

/-! ## Names that are not empty -/

/-- The dataset has a name, and so has the library where there is one. -/
def DatasetReference.IsNamed (object : DatasetReference) : Prop :=
  object.dataset.text ≠ "" ∧ ∀ library, object.library = some library → library.text ≠ ""

theorem DatasetReference.isNamed_iff {object : DatasetReference} :
    object.IsNamed ↔ ¬ object.LacksName := by
  unfold IsNamed LacksName
  rw [not_or]
  refine and_congr_right fun _ => ?_
  cases object.library <;> simp

theorem DatasetReference.IsNamed.defect?_eq_none {object : DatasetReference}
    (h : object.IsNamed) : object.defect? = none := by
  rw [defect?_eq, if_neg (isNamed_iff.mp h)]

theorem DynamicName.ReadsBefore.text_ne_empty {name : DynamicName} {following : List Char}
    (h : name.ReadsBefore following) : name.text ≠ "" := by
  obtain ⟨hsegments, hreading⟩ := h
  rw [ne_eq, ← String.toList_eq_nil_iff, DynamicName.toList_text]
  cases hname : name.segments with
  | nil => exact absurd hname hsegments
  | cons segment segments =>
      rw [hname] at hreading
      have hfirst : segment.written ≠ [] := hreading.1.written_ne_nil
      simp [writtenName, hfirst]

theorem DatasetReference.WellFormed.isNamed {object : DatasetReference}
    (h : object.WellFormed) : object.IsNamed := by
  constructor
  · exact h.dataset.text_ne_empty
  · intro library hlibrary
    have hqualified : object.qualified.library = some library := by
      simp [DatasetReference.qualified, hlibrary]
    exact (h.library library hqualified []).text_ne_empty

/-! ## The readers of steps -/

namespace Cursor

theorem datasetReference?_isNamed {cursor stop : Cursor} {object : DatasetReference}
    (h : cursor.datasetReference? = some (object, stop)) : object.IsNamed :=
  (datasetReference?_wellFormed h).isNamed

theorem datasetList_isNamed (cursor : Cursor) :
    ∀ object ∈ cursor.datasetList.1, object.IsNamed :=
  forall_mem_separated (fun _ _ _ => datasetReference?_isNamed) cursor

theorem datasetEnumeration_isNamed (cursor : Cursor) :
    ∀ object ∈ cursor.datasetEnumeration.1, object.IsNamed :=
  forall_mem_separated (fun _ _ _ => datasetReference?_isNamed) cursor

theorem dataStatement?_isNamed {cursor stop : Cursor} {outputs : List DatasetReference}
    {options : Option (List DatasetOption)}
    (h : cursor.dataStatement? = some ((outputs, options), stop)) :
    ∀ object ∈ outputs, object.IsNamed := by
  obtain ⟨keyword, -, h⟩ := Option.bind_eq_some_iff.1 h
  obtain ⟨start, -, h⟩ := Option.bind_eq_some_iff.1 h
  obtain ⟨last, -, h⟩ := Option.bind_eq_some_iff.1 h
  have houtputs : start.datasetList.1 = outputs :=
    congrArg (fun read => read.1.1) (Option.some.inj h)
  rw [← houtputs]
  exact start.datasetList_isNamed

theorem setStatement?_isNamed {cursor stop : Cursor} {inputs : List DatasetReference}
    (h : cursor.setStatement? = some (inputs, stop)) :
    ∀ object ∈ inputs, object.IsNamed := by
  obtain ⟨keyword, -, h⟩ := Option.bind_eq_some_iff.1 h
  obtain ⟨last, -, h⟩ := Option.bind_eq_some_iff.1 h
  have hinputs : keyword.skipSpace.datasetList.1 = inputs :=
    congrArg Prod.fst (Option.some.inj h)
  rw [← hinputs]
  exact keyword.skipSpace.datasetList_isNamed

/-- A step without a statement for its inputs has none. -/
theorem optionalInputs_isNamed (cursor : Cursor) :
    ∀ object ∈ (optional cursor cursor.setStatement?).1.getD [], object.IsNamed := by
  cases hread : cursor.setStatement? with
  | none => exact List.forall_mem_nil _
  | some read => exact setStatement?_isNamed hread

theorem dataStep?_isNamed {cursor stop : Cursor} {step : DataStep}
    (h : cursor.dataStep? = some (step, stop)) :
    ∀ object ∈ step.inputs ++ step.outputs, object.IsNamed := by
  obtain ⟨⟨⟨outputs, options⟩, start⟩, hstatement, h⟩ := Option.bind_eq_some_iff.1 h
  obtain ⟨run, -, h⟩ := Option.bind_eq_some_iff.1 h
  obtain ⟨last, -, h⟩ := Option.bind_eq_some_iff.1 h
  obtain ⟨rfl, -⟩ := Prod.mk.inj (Option.some.inj h)
  exact List.forall_mem_append.2 ⟨optionalInputs_isNamed _, dataStatement?_isNamed hstatement⟩

theorem outOptions_isNamed (cursor limit : Cursor) :
    ∀ object ∈ (cursor.outOptions limit).1, object.IsNamed := by
  fun_induction outOptions cursor limit with
  | case1 cursor hoption => exact List.forall_mem_nil _
  | case2 cursor output after hoption more stop hmore ih =>
      rw [hmore] at ih
      obtain ⟨found, -, hread⟩ := Option.bind_eq_some_iff.1 hoption
      exact List.forall_mem_cons.2 ⟨datasetReference?_isNamed hread, ih⟩

theorem plainName?_isAscii {cursor stop : Cursor} {name : String}
    (h : cursor.plainName? = some (name, stop)) : IsAscii name.toList := by
  obtain ⟨last, hrun, heq⟩ := Option.map_eq_some_iff.1 h
  obtain ⟨rfl, rfl⟩ := Prod.mk.inj heq
  obtain ⟨read, hne, hread, -, hrest, -⟩ := run?_eq_some hrun
  have htext : cursor.textUntil last = read := by
    simp [textUntil, remaining, hrest]
  simpa [stringUntil, htext] using isAscii_of_isPlainText ⟨hne, hread⟩

/-- The inputs and outputs of a procedure step, and the name it was written with. -/
theorem procedure?_eq_some {cursor stop : Cursor} {procedure : Procedure}
    (h : cursor.procedure? = some (procedure, stop)) :
    (∀ object ∈ procedure.inputs ++ procedure.outputs, object.IsNamed) ∧
      ∃ written, IsAscii written.toList ∧ equalIgnoringCase written "sql" = false ∧
        procedure.kind = lowerCase written := by
  obtain ⟨keyword, -, h⟩ := Option.bind_eq_some_iff.1 h
  obtain ⟨start, -, h⟩ := Option.bind_eq_some_iff.1 h
  obtain ⟨⟨written, kindStop⟩, hkind, h⟩ := Option.bind_eq_some_iff.1 h
  simp only at h
  split at h
  · contradiction
  · next hsql =>
    obtain ⟨body, -, h⟩ := Option.bind_eq_some_iff.1 h
    obtain ⟨limit, -, h⟩ := Option.bind_eq_some_iff.1 h
    obtain ⟨data, -, h⟩ := Option.bind_eq_some_iff.1 h
    obtain ⟨⟨input, inputStop⟩, hinput, h⟩ := Option.bind_eq_some_iff.1 h
    obtain ⟨terminator, -, h⟩ := Option.bind_eq_some_iff.1 h
    obtain ⟨rfl, -⟩ := Prod.mk.inj (Option.some.inj h)
    constructor
    · exact List.forall_mem_cons.2
        ⟨datasetReference?_isNamed hinput, outOptions_isNamed inputStop limit.start⟩
    · exact ⟨written, plainName?_isAscii hkind, by simpa using hsql, rfl⟩

theorem fromClauses_isNamed (cursor : Cursor) :
    ∀ object ∈ cursor.fromClauses.1, object.IsNamed := by
  fun_induction fromClauses cursor with
  | case1 cursor hclause => exact List.forall_mem_nil _
  | case2 cursor sources after hclause more stop hmore ih =>
      rw [hmore] at ih
      obtain ⟨found, -, hread⟩ := Option.bind_eq_some_iff.1 hclause
      have hsources : found.stop.datasetEnumeration.1 = sources :=
        congrArg Prod.fst (Option.some.inj hread)
      rw [← hsources]
      exact List.forall_mem_append.2 ⟨found.stop.datasetEnumeration_isNamed, ih⟩

theorem createTable?_eq_some {cursor stop : Cursor} {procedure : Procedure}
    (h : cursor.createTable? = some (procedure, stop)) :
    (∀ object ∈ procedure.inputs ++ procedure.outputs, object.IsNamed) ∧
      procedure.kind = "sql" := by
  obtain ⟨create, -, h⟩ := Option.bind_eq_some_iff.1 h
  obtain ⟨start, -, h⟩ := Option.bind_eq_some_iff.1 h
  obtain ⟨table, -, h⟩ := Option.bind_eq_some_iff.1 h
  obtain ⟨query, -, h⟩ := Option.bind_eq_some_iff.1 h
  obtain ⟨last, -, h⟩ := Option.bind_eq_some_iff.1 h
  obtain ⟨rfl, -⟩ := Prod.mk.inj (Option.some.inj h)
  exact ⟨List.forall_mem_append.2
    ⟨query.fromClauses_isNamed, table.skipSpace.datasetEnumeration_isNamed⟩, rfl⟩

end Cursor

/-! ## Nodes -/

/-- The datasets a node reads and writes. -/
def Node.references : Node → List DatasetReference
  | .dataStep step => step.inputs ++ step.outputs
  | .procedure statement => statement.inputs ++ statement.outputs
  | _ => []

theorem IsRead.references_isNamed {start stop : Cursor} {node : Node}
    (h : IsRead start stop node) : ∀ object ∈ node.references, object.IsNamed := by
  cases h with
  | dataStep hread => exact Cursor.dataStep?_isNamed hread
  | procedure hread => exact (Cursor.procedure?_eq_some hread).1
  | createTable hread => exact (Cursor.createTable?_eq_some hread).1
  | _ => exact List.forall_mem_nil _

theorem lowerCase_lowerCase_of_ascii {text : String} (htext : IsAscii text.toList) :
    lowerCase (lowerCase text) = lowerCase text := by
  rw [lowerCase_of_ascii htext, lowerCase_toLower, lowerCase_of_ascii htext]

theorem IsRead.procedure_kind {start stop : Cursor} {procedure : Procedure}
    (h : IsRead start stop (.procedure procedure)) :
    lowerCase procedure.kind = procedure.kind ∧
      (procedure.kind = "sql" → start.createTable? = some (procedure, stop)) := by
  cases h with
  | procedure hread =>
      obtain ⟨-, written, hascii, hsql, hkind⟩ := Cursor.procedure?_eq_some hread
      rw [hkind]
      refine ⟨lowerCase_lowerCase_of_ascii hascii, ?_⟩
      intro hlower
      -- The reader has refused every spelling of this name.
      have hplain : "sql".toLower = "sql" := by
        rw [← String.toList_inj, toList_toLower]
        decide
      have hsame : equalIgnoringCase written "sql" = true := by
        rw [equalIgnoringCase_iff, ← lowerCase_of_ascii hascii, hlower, hplain]
      rw [hsql] at hsame
      contradiction
  | createTable hread =>
      rw [(Cursor.createTable?_eq_some hread).2]
      exact ⟨by decide +kernel, fun _ => hread⟩

/-! ## Programs -/

/-- A `create table` statement of the text was read as the procedure, and the span
is the region of the statement. -/
def IsCreateTable (text : String) (procedure : Procedure) (span : Span) : Prop :=
  ∃ start stop : Cursor, start.InText text ∧ stop.InText text ∧
    start.createTable? = some (procedure, stop) ∧ span = ⟨start.position, stop.position⟩

/-- Folding adds macro definitions only, and they are no objects. -/
theorem Program.mem_scan_of_mem_objects {grammar : Grammar} {text : String}
    {name : Option String} {item : Spanned Node}
    (h : item ∈ (Program.parse grammar text name).objects) :
    item ∈ (grammar.scan text).nodes := by
  have hobjects := objects_foldMacros (grammar.scan_flat text)
  have hunpaired : item ∈ unpairedNodes (grammar.scan text).nodes := by
    rw [← hobjects]
    exact h
  exact mem_of_mem_unpairedNodes hunpaired

theorem LineageStatement.firstLack?_eq_none {statement : LineageStatement}
    (hnamed : ∀ object ∈ statement.inputs ++ statement.outputs, object.IsNamed) :
    statement.firstLack? = none := by
  rw [firstLack?, List.find?_eq_none]
  intro object hobject
  simpa using DatasetReference.isNamed_iff.mp (hnamed object hobject)

namespace LineageGraph

theorem reference_defects_eq_nil {statements : List LineageStatement}
    (hnamed : ∀ statement ∈ statements,
      ∀ object ∈ statement.inputs ++ statement.outputs, object.IsNamed) :
    (reference statements).defects = [] := by
  change statements.filterMap LineageStatement.reportedDefect? = []
  rw [List.filterMap_eq_nil_iff]
  intro statement hstatement
  rw [LineageStatement.reportedDefect?,
    LineageStatement.firstLack?_eq_none (hnamed statement hstatement), Option.map_none]

/-- An edge belongs to a pair of one of the statements. -/
theorem exists_statement_of_mem_edges {statements : List LineageStatement} {edge : LineageEdge}
    (hedge : edge ∈ (reference statements).edges) :
    ∃ statement ∈ statements, edge.label = statement.label ∧
      edge.source ∈ statement.inputs.map DatasetReference.identifier ∧
      edge.target ∈ statement.outputs.map DatasetReference.identifier := by
  have hlink := (List.mem_filter.mp (mem_firstOccurrences_id.mp hedge)).1
  obtain ⟨statement, hsound, hlink⟩ := List.mem_flatMap.mp hlink
  obtain ⟨input, hinput, hlink⟩ := List.mem_flatMap.mp hlink
  obtain ⟨output, houtput, rfl⟩ := List.mem_map.mp hlink
  exact ⟨statement, (List.mem_filter.mp hsound).1, rfl,
    List.mem_map_of_mem hinput, List.mem_map_of_mem houtput⟩

end LineageGraph

theorem exists_object_of_mem_documentStatements {nodes : List (Spanned Node)}
    {statement : LineageStatement} (h : statement ∈ documentStatements nodes) :
    ∃ item ∈ objects nodes, LineageStatement.ofItem? item = some statement := by
  rw [← filterMap_ofItem?_documentOrder, ← objects_eq_documentOrder] at h
  exact List.mem_filterMap.mp h

theorem LineageStatement.references_ofItem? {item : Spanned Node}
    {statement : LineageStatement} (h : ofItem? item = some statement) :
    item.node.references = statement.inputs ++ statement.outputs := by
  obtain ⟨node, span⟩ := item
  cases node <;> simp only [ofItem?, reduceCtorEq, Option.some.injEq] at h
  · subst h
    rfl
  · subst h
    rfl

/-- The label of a statement tells the kind of its procedure. -/
theorem LineageStatement.procedure_of_label {item : Spanned Node}
    {statement : LineageStatement} (h : ofItem? item = some statement)
    (hlabel : statement.label = some "proc sql") :
    ∃ procedure, item.node = .procedure procedure ∧ procedure.kind = "sql" ∧
      procedure.inputs = statement.inputs ∧ procedure.outputs = statement.outputs := by
  obtain ⟨node, span⟩ := item
  cases node <;> simp only [ofItem?, reduceCtorEq, Option.some.injEq] at h
  · subst h
    contradiction
  · next procedure =>
    subst h
    have hprinted : "proc " ++ procedure.kind = "proc " ++ "sql" := Option.some.inj hlabel
    have hkind : procedure.kind = "sql" := by
      rw [← String.toList_inj, String.toList_append, String.toList_append] at hprinted
      exact String.toList_inj.mp (List.append_cancel_left hprinted)
    exact ⟨procedure, rfl, hkind, rfl, rfl⟩

/-- All references of a program are named, procedure kinds are in lower case, and
the kind `sql` comes from `create table` statements.  Hence the lineage of a program
has no defects, and its edges labelled with that kind belong to such statements. -/
theorem parse_names_datasets (grammar : Grammar) (text : String) (name : Option String) :
    (∀ item ∈ (Program.parse grammar text name).objects,
        ∀ object ∈ item.node.references, object.IsNamed ∧ object.defect? = none) ∧
      (∀ item ∈ (Program.parse grammar text name).objects,
        ∀ procedure, item.node = .procedure procedure →
          lowerCase procedure.kind = procedure.kind ∧
            (procedure.kind = "sql" → IsCreateTable text procedure item.span)) ∧
      (Program.parse grammar text name).lineage.defects = [] ∧
      ∀ edge ∈ (Program.parse grammar text name).lineage.edges,
        edge.label = some "proc sql" →
          ∃ item ∈ (Program.parse grammar text name).objects,
            ∃ procedure, item.node = .procedure procedure ∧
              IsCreateTable text procedure item.span ∧
              edge.source ∈ procedure.inputs.map DatasetReference.identifier ∧
              edge.target ∈ procedure.outputs.map DatasetReference.identifier := by
  have hnamed : ∀ item ∈ (Program.parse grammar text name).objects,
      ∀ object ∈ item.node.references, object.IsNamed := by
    intro item hitem
    obtain ⟨start, stop, -, -, hread, -⟩ :=
      Grammar.scan_node_isRead (Program.mem_scan_of_mem_objects hitem)
    exact hread.references_isNamed
  have hkind : ∀ item ∈ (Program.parse grammar text name).objects,
      ∀ procedure, item.node = .procedure procedure →
        lowerCase procedure.kind = procedure.kind ∧
          (procedure.kind = "sql" → IsCreateTable text procedure item.span) := by
    intro item hitem procedure hprocedure
    obtain ⟨start, stop, hstart, hstop, hread, hspan⟩ :=
      Grammar.scan_node_isRead (Program.mem_scan_of_mem_objects hitem)
    rw [hprocedure] at hread
    obtain ⟨hlower, hcreated⟩ := hread.procedure_kind
    exact ⟨hlower, fun hsql => ⟨start, stop, hstart, hstop, hcreated hsql, hspan⟩⟩
  have hlineage : (Program.parse grammar text name).lineage =
      .reference (documentStatements (Program.parse grammar text name).contents) :=
    LineageGraph.ofNodes_eq_reference _
  refine ⟨?_, hkind, ?_, ?_⟩
  · intro item hitem object hobject
    have hobject := hnamed item hitem object hobject
    exact ⟨hobject, hobject.defect?_eq_none⟩
  · rw [hlineage]
    apply LineageGraph.reference_defects_eq_nil
    intro statement hstatement
    obtain ⟨item, hitem, hof⟩ := exists_object_of_mem_documentStatements hstatement
    rw [← LineageStatement.references_ofItem? hof]
    exact hnamed item hitem
  · intro edge hedge hlabel
    rw [hlineage] at hedge
    obtain ⟨statement, hstatement, hsame, hsource, htarget⟩ :=
      LineageGraph.exists_statement_of_mem_edges hedge
    obtain ⟨item, hitem, hof⟩ := exists_object_of_mem_documentStatements hstatement
    rw [hlabel] at hsame
    obtain ⟨procedure, hprocedure, hsql, hinputs, houtputs⟩ :=
      LineageStatement.procedure_of_label hof hsame.symm
    refine ⟨item, hitem, procedure, hprocedure, (hkind item hitem procedure hprocedure).2 hsql,
      ?_, ?_⟩
    · rwa [hinputs]
    · rwa [houtputs]

end SasOutline
