import SasOutline.LineageGraph
import SasOutline.Proofs.DocumentOrder
import SasOutline.Proofs.FirstOccurrence

/-!
# The lineage graph as a whole

A lineage graph grows by one program after the other and by one pair of datasets
after the other.  What it grows into can be said at once: take the statements of
all programs in document order, set the defective ones aside, write down the
datasets and the edges of all pairs of the others, and keep the first
occurrences.
-/

namespace SasOutline

/-! ## Statements and what is wrong with them -/

/-- The data steps and procedures of a tree, with its macro definitions opened
up. -/
def documentStatements : List (Spanned Node) → List LineageStatement
  | [] => []
  | ⟨.dataStep step, span⟩ :: rest =>
      ⟨span.start.line, .dataStep, step.inputs, step.outputs, none⟩ ::
        documentStatements rest
  | ⟨.procedure procedure, span⟩ :: rest =>
      ⟨span.start.line, .procedure, procedure.inputs, procedure.outputs,
        some ("proc " ++ procedure.kind)⟩ :: documentStatements rest
  | ⟨.macroDefinition _ contents _, _⟩ :: rest =>
      documentStatements contents ++ documentStatements rest
  | _ :: rest => documentStatements rest

namespace DatasetReference

/-- The printed name of the dataset is empty, or that of a library in front of it. -/
def LacksName (object : DatasetReference) : Prop :=
  object.dataset.text = "" ∨ object.library.map DynamicName.text = some ""

instance (object : DatasetReference) : Decidable object.LacksName :=
  inferInstanceAs (Decidable (_ ∨ _))

/-- The dataset is looked at before the library. -/
def lackReason (object : DatasetReference) : ReferenceDefect :=
  if object.dataset.text = "" then .emptyDataset else .emptyLibrary

end DatasetReference

namespace LineageStatement

/-- The first reference without a name, inputs before outputs. -/
def firstLack? (statement : LineageStatement) : Option DatasetReference :=
  (statement.inputs ++ statement.outputs).find? fun object => object.LacksName

def reportedDefect? (statement : LineageStatement) : Option LineageDefect :=
  statement.firstLack?.map fun object =>
    ⟨statement.line, statement.kind, object.lackReason⟩

/-- The datasets of all pairs, the input of a pair in front of its output. -/
def mentions (statement : LineageStatement) : List LineageNode :=
  statement.inputs.flatMap fun input => statement.outputs.flatMap fun output =>
    [.ofReference input statement.line, .ofReference output statement.line]

/-- The edges of all pairs, those from a dataset to itself included. -/
def links (statement : LineageStatement) : List LineageEdge :=
  statement.inputs.flatMap fun input => statement.outputs.map fun output =>
    ⟨input.identifier, output.identifier, statement.label⟩

end LineageStatement

namespace LineageGraph

def collected (mentions : List LineageNode) (links : List LineageEdge)
    (defects : List LineageDefect) : LineageGraph where
  nodes := firstOccurrences LineageNode.id mentions
  edges := firstOccurrences id (links.filter fun link => link.source ≠ link.target)
  defects := defects

/-- The graph of a list of statements. -/
def reference (statements : List LineageStatement) : LineageGraph :=
  let sound := statements.filter fun statement => statement.firstLack?.isNone
  collected (sound.flatMap LineageStatement.mentions) (sound.flatMap LineageStatement.links)
    (statements.filterMap LineageStatement.reportedDefect?)

end LineageGraph

/-! ## Names -/

theorem DynamicName.isEmpty_iff (name : DynamicName) :
    name.isEmpty = true ↔ name.text = "" := by
  unfold DynamicName.isEmpty DynamicName.text
  induction name.segments with
  | nil => simp
  | cons segment segments ih =>
      rw [List.all_cons, List.map_cons, String.join_cons, Bool.and_eq_true, ih]
      simp [← String.toList_eq_nil_iff]

namespace DatasetReference

theorem any_isEmpty_iff (library : Option DynamicName) :
    library.any DynamicName.isEmpty = true ↔ library.map DynamicName.text = some "" := by
  cases library with
  | none => simp
  | some library => simp [DynamicName.isEmpty_iff]

theorem defect?_eq (object : DatasetReference) :
    object.defect? = if object.LacksName then some object.lackReason else none := by
  unfold defect? LacksName lackReason
  simp only [DynamicName.isEmpty_iff, any_isEmpty_iff]
  by_cases hdataset : object.dataset.text = ""
  · simp [hdataset]
  · simp [hdataset]

end DatasetReference

theorem findSome?_eq_find?_map {α β : Type} (keep : α → Bool) (value : α → β)
    (entries : List α) :
    entries.findSome? (fun entry => if keep entry then some (value entry) else none) =
      (entries.find? keep).map value := by
  induction entries with
  | nil => rfl
  | cons entry entries ih =>
      by_cases hkeep : keep entry = true
      · simp [hkeep]
      · simp [hkeep, ih]

theorem LineageStatement.defect?_eq (statement : LineageStatement) :
    statement.defect? = statement.firstLack?.map DatasetReference.lackReason := by
  unfold LineageStatement.defect? LineageStatement.firstLack?
  rw [← findSome?_eq_find?_map]
  congr 1
  funext object
  simp [DatasetReference.defect?_eq]

/-! ## The statements of a tree -/

theorem filterMap_ofItem?_documentOrder (nodes : List (Spanned Node)) :
    (documentOrder nodes).filterMap LineageStatement.ofItem? = documentStatements nodes := by
  fun_induction documentStatements nodes with
  | case1 => simp [documentOrder]
  | case2 step span rest ih =>
      simp [documentOrder, LineageStatement.ofItem?, ih, Spanned.kind, Node.kind]
  | case3 procedure span rest ih =>
      simp [documentOrder, LineageStatement.ofItem?, ih, Spanned.kind, Node.kind,
        Procedure.label]
  | case4 heading contents terminated span rest ihContents ih =>
      rw [documentOrder, List.filterMap_append, ihContents, ih]
  | case5 item rest hstep hprocedure hmacro ih =>
      rw [documentOrder, List.filterMap_cons, ih]
      · have hnone : LineageStatement.ofItem? item = none := by
          obtain ⟨node, span⟩ := item
          cases node with
          | dataStep step => exact (hstep step span rfl).elim
          | procedure procedure => exact (hprocedure procedure span rfl).elim
          | _ => rfl
        rw [hnone]
      · exact hmacro

namespace LineageGraph

theorem addNodes_eq (graph : LineageGraph) (nodes : List (Spanned Node)) :
    graph.addNodes nodes = (documentStatements nodes).foldl addStatement graph := by
  unfold addNodes
  rw [objects_eq_documentOrder, filterMap_ofItem?_documentOrder]

/-! ## One pair, one statement -/

section Collected

variable (mentions : List LineageNode) (links : List LineageEdge)
  (defects : List LineageDefect)

theorem addNode_collected (node : LineageNode) :
    (collected mentions links defects).addNode node =
      collected (mentions ++ [node]) links defects := by
  have hknown := any_firstOccurrences LineageNode.id mentions node.id
  unfold addNode collected
  rw [firstOccurrences_append_singleton]
  by_cases h : mentions.any (fun earlier => earlier.id = node.id) = true
  · rw [if_pos h]
    rw [h] at hknown
    rw [if_pos (by simpa using hknown)]
  · rw [if_neg h]
    rw [Bool.not_eq_true] at h
    rw [h] at hknown
    rw [if_neg (by simpa using hknown)]

theorem addEdge_collected (edge : LineageEdge) :
    (collected mentions links defects).addEdge edge =
      collected mentions (links ++ [edge]) defects := by
  unfold addEdge collected
  rw [List.filter_append]
  by_cases hself : edge.source = edge.target
  · rw [if_pos (Or.inl hself)]
    simp [hself]
  · rw [List.filter_cons_of_pos (by simpa using hself), List.filter_nil,
      firstOccurrences_append_singleton]
    by_cases hknown : edge ∈ links.filter fun link => link.source ≠ link.target
    · rw [if_pos (Or.inr (mem_firstOccurrences_id.2 hknown)), if_pos]
      exact List.any_eq_true.2 ⟨edge, hknown, by simp⟩
    · rw [if_neg, if_neg]
      · intro hany
        obtain ⟨link, hlink, heq⟩ := List.any_eq_true.1 hany
        obtain rfl : link = edge := by simpa using heq
        exact hknown hlink
      · rintro (h | h)
        · exact hself h
        · exact hknown (mem_firstOccurrences_id.1 h)

theorem addPair_collected (line : Nat) (label : Option String)
    (pair : DatasetReference × DatasetReference) :
    (collected mentions links defects).addPair line label pair =
      collected
        (mentions ++ [LineageNode.ofReference pair.1 line, LineageNode.ofReference pair.2 line])
        (links ++ [⟨pair.1.identifier, pair.2.identifier, label⟩]) defects := by
  unfold addPair
  rw [addNode_collected, addNode_collected, addEdge_collected, List.append_assoc]
  rfl

end Collected

theorem foldl_addPair_collected (line : Nat) (label : Option String)
    (pairs : List (DatasetReference × DatasetReference)) (mentions : List LineageNode)
    (links : List LineageEdge) (defects : List LineageDefect) :
    pairs.foldl (fun graph => graph.addPair line label) (collected mentions links defects) =
      collected
        (mentions ++ pairs.flatMap fun pair =>
          [LineageNode.ofReference pair.1 line, LineageNode.ofReference pair.2 line])
        (links ++ pairs.map fun pair => ⟨pair.1.identifier, pair.2.identifier, label⟩)
        defects := by
  induction pairs generalizing mentions links with
  | nil => simp
  | cons pair pairs ih =>
      rw [List.foldl_cons, addPair_collected, ih]
      simp

theorem mentions_eq (statement : LineageStatement) :
    statement.mentions = statement.pairs.flatMap fun pair =>
      [LineageNode.ofReference pair.1 statement.line,
        LineageNode.ofReference pair.2 statement.line] := by
  unfold LineageStatement.mentions LineageStatement.pairs
  rw [List.flatMap_assoc]
  simp only [List.flatMap_map]

theorem links_eq (statement : LineageStatement) :
    statement.links = statement.pairs.map fun pair =>
      ⟨pair.1.identifier, pair.2.identifier, statement.label⟩ := by
  unfold LineageStatement.links LineageStatement.pairs
  rw [List.map_flatMap]
  simp only [List.map_map]
  rfl

theorem addStatement_reference (statements : List LineageStatement)
    (statement : LineageStatement) :
    (reference statements).addStatement statement = reference (statements ++ [statement]) := by
  unfold addStatement reference
  rw [statement.defect?_eq]
  cases hlack : statement.firstLack? with
  | some object =>
      simp [LineageStatement.reportedDefect?, hlack, collected]
  | none =>
      simp only [Option.map_none]
      rw [foldl_addPair_collected, ← mentions_eq, ← links_eq]
      simp [LineageStatement.reportedDefect?, hlack]

theorem foldl_addStatement_reference (statements : List LineageStatement) :
    statements.foldl addStatement empty = reference statements := by
  induction statements using List.reverseRecOn with
  | nil => rfl
  | append_singleton statements statement ih =>
      rw [List.foldl_append, ih]
      exact addStatement_reference statements statement

theorem ofNodes_eq_reference (nodes : List (Spanned Node)) :
    ofNodes nodes = reference (documentStatements nodes) := by
  unfold ofNodes
  rw [addNodes_eq, foldl_addStatement_reference]

/-- Adding programs one after the other gives the graph of all their statements. -/
theorem foldl_addNodes_eq_reference (programs : List (List (Spanned Node))) :
    programs.foldl addNodes empty = reference (programs.flatMap documentStatements) := by
  rw [← foldl_addStatement_reference, List.foldl_flatMap]
  congr 1
  funext graph nodes
  exact addNodes_eq graph nodes

end LineageGraph

end SasOutline
