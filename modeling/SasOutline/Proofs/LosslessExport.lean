import SasOutline.Proofs.JsonFields
import SasOutline.Proofs.MacroMarks

/-!
# A tree is determined by its JSON form

Two objects with the same field names are equal only if their fields are.  Every value inside
of a node is written by one list of names, a part that is absent is written as `null`, which
stands for no part that is present, and a piece of a name is a string or an object according to
its sort.  So each of these values can be told from its JSON form.

The names of the fields depend on the kind of a node alone, and the kind is one of the fields.
Two nodes with one JSON form are therefore of one kind and agree field by field; a macro
definition holds further nodes in one of its fields.
-/

namespace SasOutline

namespace Json

theorem field?_object_of_mem {name : String} {value : Json} {fields : List (String × Json)}
    (hnodup : (fields.map Prod.fst).Nodup) (hmem : (name, value) ∈ fields) :
    (object fields).field? name = some value := by
  obtain ⟨earlier, later, rfl⟩ := List.append_of_mem hmem
  have hlater : name ∉ later.map Prod.fst := by
    rw [List.map_append, List.map_cons] at hnodup
    exact (List.nodup_cons.mp hnodup.of_append_right).1
  rw [field?_object, List.lookup_eq_some_iff]
  refine ⟨later.reverse, earlier.reverse, by simp, ?_⟩
  intro field hfield
  rw [bne_iff_ne]
  rintro rfl
  exact hlater (List.mem_map_of_mem (List.mem_reverse.mp hfield))

/-- The order of the fields is lost in an object, but not which value belongs to a name. -/
theorem object_inj {fields others : List (String × Json)}
    (hnames : fields.map Prod.fst = others.map Prod.fst)
    (hnodup : (fields.map Prod.fst).Nodup) : object fields = object others ↔ fields = others := by
  refine ⟨fun h => ?_, congrArg object⟩
  have hlength : fields.length = others.length := by simpa using congrArg List.length hnames
  refine List.ext_getElem hlength fun index hindex hindex' => ?_
  have hname : fields[index].1 = others[index].1 := by
    have hname := List.getElem_of_eq hnames (i := index) (by simpa using hindex)
    rwa [List.getElem_map, List.getElem_map] at hname
  have hvalue : some fields[index].2 = some others[index].2 :=
    calc some fields[index].2
        = (object fields).field? fields[index].1 :=
          (field?_object_of_mem hnodup (List.getElem_mem hindex)).symm
      _ = (object others).field? others[index].1 := by rw [h, hname]
      _ = some others[index].2 :=
          field?_object_of_mem (hnames ▸ hnodup) (List.getElem_mem hindex')
  exact Prod.ext hname (Option.some.inj hvalue)

theorem string_injective : Function.Injective string := fun _ _ => string.inj

variable {α : Type} {encode : α → Json}

theorem ofList_injective (hencode : Function.Injective encode) :
    Function.Injective (ofList encode) :=
  fun _ _ h => List.map_injective_iff.mpr hencode (array.inj h)

theorem ofOption_injective (hencode : Function.Injective encode)
    (hfilled : ∀ value, encode value ≠ null) : Function.Injective (ofOption encode) := by
  intro first second h
  cases first with
  | none =>
      cases second with
      | none => rfl
      | some value => exact absurd h.symm (hfilled value)
  | some value =>
      cases second with
      | none => exact absurd h (hfilled value)
      | some other => exact congrArg some (hencode h)

end Json

/-! ## The parts of a node -/

theorem stringOrNull_injective : Function.Injective stringOrNull :=
  Json.ofOption_injective Json.string_injective fun _ => Json.noConfusion

theorem Position.toJson_injective : Function.Injective toJson := by
  rintro ⟨line, column⟩ ⟨line', column'⟩ h
  simpa [toJson, Json.object_inj, Json.ofNat] using h

theorem Span.toJson_injective : Function.Injective toJson := by
  rintro ⟨start, stop⟩ ⟨start', stop'⟩ h
  simpa [toJson, Json.object_inj, Position.toJson_injective.eq_iff] using h

theorem NameSegment.toJson_injective : Function.Injective toJson := by
  intro first second h
  cases first with
  | literal text =>
      cases second with
      | literal other => exact congrArg literal (Json.string_injective h)
      | reference written => exact Json.noConfusion h
  | reference written =>
      cases second with
      | literal text => exact Json.noConfusion h
      | reference other =>
          obtain ⟨raw⟩ := written
          obtain ⟨raw'⟩ := other
          simpa [toJson, Json.object_inj] using h

theorem DynamicName.toJson_injective : Function.Injective toJson := by
  rintro ⟨segments⟩ ⟨segments'⟩ h
  exact congrArg mk (Json.ofList_injective NameSegment.toJson_injective h)

theorem DatasetOption.toJson_injective : Function.Injective toJson := by
  rintro ⟨name, setting⟩ ⟨name', setting'⟩ h
  simpa [toJson, Json.object_inj, DynamicName.toJson_injective.eq_iff,
    stringOrNull_injective.eq_iff] using h

theorem optionsJson_injective : Function.Injective optionsJson :=
  Json.ofOption_injective (Json.ofList_injective DatasetOption.toJson_injective)
    fun _ => Json.noConfusion

theorem DatasetReference.toJson_injective : Function.Injective toJson := by
  have hlibrary : Function.Injective (Json.ofOption DynamicName.toJson) :=
    Json.ofOption_injective DynamicName.toJson_injective fun _ => Json.noConfusion
  rintro ⟨library, dataset, options⟩ ⟨library', dataset', options'⟩ h
  simpa [toJson, Json.object_inj, hlibrary.eq_iff, DynamicName.toJson_injective.eq_iff,
    optionsJson_injective.eq_iff] using h

theorem datasetsJson_injective : Function.Injective (Json.ofList DatasetReference.toJson) :=
  Json.ofList_injective DatasetReference.toJson_injective

theorem Comment.toJson_injective : Function.Injective toJson := by
  rintro ⟨text⟩ ⟨text'⟩ h
  simpa [toJson, fields, Json.object_inj] using h

theorem MacroArgument.toJson_injective : Function.Injective toJson := by
  have hdoc : Function.Injective (Json.ofOption Comment.toJson) :=
    Json.ofOption_injective Comment.toJson_injective fun _ => Json.noConfusion
  rintro ⟨name, default, doc⟩ ⟨name', default', doc'⟩ h
  simpa [toJson, Json.object_inj, DynamicName.toJson_injective.eq_iff,
    stringOrNull_injective.eq_iff, hdoc.eq_iff] using h

theorem argumentsJson_injective : Function.Injective argumentsJson :=
  Json.ofOption_injective (Json.ofList_injective MacroArgument.toJson_injective)
    fun _ => Json.noConfusion

/-- The two sorts of a target go by different names. -/
theorem LibraryTarget.toJson_injective : Function.Injective toJson := by
  have hapart (location : String) (library : DynamicName) :
      (path location).toJson ≠ (pointer library).toJson := by
    intro h
    have hfield := congrArg (Json.field? "path") h
    simp [toJson, Json.field?_object, Json.lookup_cons_eq] at hfield
  intro first second h
  cases first with
  | path location =>
      cases second with
      | path other => simpa [toJson, Json.object_inj] using h
      | pointer library => exact absurd h (hapart location library)
  | pointer library =>
      cases second with
      | path location => exact absurd h.symm (hapart location library)
      | pointer other =>
          simpa [toJson, Json.object_inj, DynamicName.toJson_injective.eq_iff] using h

/-! ## The fields of a node -/

theorem Comment.fields_injective : Function.Injective fields := by
  rintro ⟨text⟩ ⟨text'⟩ h
  simpa [fields] using h

theorem MacroVariableDefinition.fields_injective : Function.Injective fields := by
  rintro ⟨name, value⟩ ⟨name', value'⟩ h
  simpa [fields, DynamicName.toJson_injective.eq_iff, stringOrNull_injective.eq_iff] using h

theorem Inclusion.fields_injective : Function.Injective fields := by
  rintro ⟨path, resolved⟩ ⟨path', resolved'⟩ h
  simpa [fields, stringOrNull_injective.eq_iff] using h

theorem LibraryBinding.fields_injective : Function.Injective fields := by
  rintro ⟨library, target, resolved⟩ ⟨library', target', resolved'⟩ h
  simpa [fields, DynamicName.toJson_injective.eq_iff, LibraryTarget.toJson_injective.eq_iff,
    stringOrNull_injective.eq_iff] using h

theorem DataStep.fields_injective : Function.Injective fields := by
  rintro ⟨outputs, inputs, header, body, options⟩ ⟨outputs', inputs', header', body', options'⟩ h
  simpa [fields, datasetsJson_injective.eq_iff, optionsJson_injective.eq_iff] using h

theorem Procedure.fields_injective : Function.Injective fields := by
  rintro ⟨kind, inputs, outputs⟩ ⟨kind', inputs', outputs'⟩ h
  simpa [fields, datasetsJson_injective.eq_iff] using h

theorem SqlStatement.fields_injective : Function.Injective fields := by
  rintro ⟨text⟩ ⟨text'⟩ h
  simpa [fields] using h

theorem MacroStart.fields_injective : Function.Injective fields := by
  rintro ⟨name, arguments, options⟩ ⟨name', arguments', options'⟩ h
  simpa [fields, DynamicName.toJson_injective.eq_iff, argumentsJson_injective.eq_iff,
    optionsJson_injective.eq_iff] using h

theorem MacroHeading.fields_injective : Function.Injective fields := by
  rintro ⟨name, arguments, options⟩ ⟨name', arguments', options'⟩ h
  simpa [fields, argumentsJson_injective.eq_iff, optionsJson_injective.eq_iff] using h

theorem MacroCall.fields_injective : Function.Injective fields := by
  rintro ⟨name, arguments⟩ ⟨name', arguments'⟩ h
  simpa [fields, DynamicName.toJson_injective.eq_iff, argumentsJson_injective.eq_iff] using h

/-! ## One node -/

/-- The names beside the kind in the record of a node. -/
def NodeKind.fieldNames : NodeKind → List String
  | newline => []
  | comment => ["text"]
  | macroVariable => ["variable", "value"]
  | inclusion => ["path", "resolved"]
  | libraryBinding => ["alias", "target", "resolved"]
  | dataStep => ["outputs", "inputs", "header", "body", "options"]
  | procedure => ["type", "inputs", "outputs"]
  | sqlStatement => ["text"]
  | macroStart => ["name", "arguments", "options"]
  | macroEnd => []
  | macroDefinition => ["name", "arguments", "options", "contents", "terminated"]
  | macroCall => ["name", "arguments"]

theorem NodeKind.nodup_fieldNames (kind : NodeKind) : ("object" :: kind.fieldNames).Nodup := by
  cases kind <;> decide

theorem NodeKind.name_injective : Function.Injective name := by
  intro first second h
  apply eq_of_equalIgnoringCase
  rw [h, equalIgnoringCase_iff]

namespace Node

theorem map_fst_fields (node : Node) : node.fields.map Prod.fst = node.kind.fieldNames := by
  cases node <;> simp [fields, kind, NodeKind.fieldNames, Comment.fields,
    MacroVariableDefinition.fields, Inclusion.fields, LibraryBinding.fields, DataStep.fields,
    Procedure.fields, SqlStatement.fields, MacroStart.fields, MacroHeading.fields,
    MacroCall.fields]

/-- The record of a node tells its kind, and so which fields there are. -/
theorem toJson_eq_iff {node other : Node} :
    node.toJson = other.toJson ↔ node.kind = other.kind ∧ node.fields = other.fields := by
  constructor
  · intro h
    have htag (node : Node) :
        node.toJson.field? "object" = some (.string node.kind.name) :=
      Json.field?_object_first _ node.object_notMem_fields
    have hkind : node.kind = other.kind := by
      have hname := (htag node).symm.trans ((congrArg (Json.field? "object") h).trans (htag other))
      exact NodeKind.name_injective (Json.string_injective (Option.some.inj hname))
    have hnames (node : Node) :
        (("object", Json.string node.kind.name) :: node.fields).map Prod.fst =
          "object" :: node.kind.fieldNames :=
      congrArg (List.cons "object") node.map_fst_fields
    have hsame := (Json.object_inj ((hnames node).trans (hkind ▸ (hnames other).symm))
      (hnames node ▸ node.kind.nodup_fieldNames)).mp h
    exact ⟨hkind, (List.cons.inj hsame).2⟩
  · rintro ⟨hkind, hfields⟩
    rw [toJson, toJson, hkind, hfields]

theorem eq_of_fields {node other : Node} (hleaf : node.kind ≠ .macroDefinition)
    (hkind : node.kind = other.kind) (hfields : node.fields = other.fields) : node = other := by
  cases node <;> cases other <;> try contradiction
  case newline.newline => rfl
  case comment.comment first second => rw [Comment.fields_injective hfields]
  case macroVariable.macroVariable first second =>
      rw [MacroVariableDefinition.fields_injective hfields]
  case inclusion.inclusion first second => rw [Inclusion.fields_injective hfields]
  case libraryBinding.libraryBinding first second =>
      rw [LibraryBinding.fields_injective hfields]
  case dataStep.dataStep first second => rw [DataStep.fields_injective hfields]
  case procedure.procedure first second => rw [Procedure.fields_injective hfields]
  case sqlStatement.sqlStatement first second => rw [SqlStatement.fields_injective hfields]
  case macroStart.macroStart first second => rw [MacroStart.fields_injective hfields]
  case macroEnd.macroEnd => rfl
  case macroCall.macroCall first second => rw [MacroCall.fields_injective hfields]

/-- A macro definition is determined by its record up to its contents. -/
theorem eq_of_definition {heading : MacroHeading} {contents : List (Spanned Node)}
    {terminated : Bool} {other : Node}
    (h : (macroDefinition heading contents terminated).toJson = other.toJson) :
    ∃ contents', other = macroDefinition heading contents' terminated ∧
      nodesJson contents = nodesJson contents' := by
  obtain ⟨hkind, hfields⟩ := toJson_eq_iff.mp h
  cases other <;> try contradiction
  case macroDefinition heading' contents' terminated' =>
      simp only [fields] at hfields
      obtain ⟨hheading, hrest⟩ := List.append_inj' hfields rfl
      obtain rfl := MacroHeading.fields_injective hheading
      simp only [List.cons.injEq, Prod.mk.injEq, Json.bool.injEq, true_and, and_true] at hrest
      obtain ⟨hcontents, rfl⟩ := hrest
      exact ⟨contents', rfl, hcontents⟩

end Node

/-! ## Lists of nodes -/

theorem nodesJson_nil_eq_iff {nodes : List (Spanned Node)} :
    nodesJson [] = nodesJson nodes ↔ [] = nodes := by
  cases nodes <;> simp [nodesJson_eq_ofList, Json.ofList]

theorem Spanned.toJson_eq_iff {item other : Spanned Node} :
    item.toJson = other.toJson ↔ item.node.toJson = other.node.toJson ∧ item.span = other.span := by
  simp [Spanned.toJson, Json.object_inj, Span.toJson_injective.eq_iff]

theorem exists_cons_of_nodesJson_eq {item : Spanned Node} {rest nodes : List (Spanned Node)}
    (h : nodesJson (item :: rest) = nodesJson nodes) :
    ∃ node others, nodes = ⟨node, item.span⟩ :: others ∧ item.node.toJson = node.toJson ∧
      nodesJson rest = nodesJson others := by
  rw [nodesJson_eq_ofList, nodesJson_eq_ofList, Json.ofList, Json.ofList,
    Json.array.injEq] at h
  cases nodes with
  | nil => contradiction
  | cons other others =>
      obtain ⟨node, span⟩ := other
      obtain ⟨hitem, hrest⟩ := List.cons.inj h
      obtain ⟨hnode, rfl⟩ := Spanned.toJson_eq_iff.mp hitem
      have hothers : nodesJson rest = nodesJson others := by
        rw [nodesJson_eq_ofList, nodesJson_eq_ofList, Json.ofList, Json.ofList, hrest]
      exact ⟨node, others, rfl, hnode, hothers⟩

/-- Different trees are written differently, however deep they are. -/
theorem nodesJson_inj (nodes others : List (Spanned Node)) :
    nodesJson nodes = nodesJson others ↔ nodes = others := by
  refine ⟨fun h => ?_, congrArg nodesJson⟩
  induction nodes using treeInduction generalizing others with
  | nil => exact nodesJson_nil_eq_iff.mp h
  | definition heading contents terminated span rest hcontents hrest =>
      -- The contents are compared as a list of their own.
      obtain ⟨node, others, rfl, hnode, hothers⟩ := exists_cons_of_nodesJson_eq h
      obtain ⟨contents', rfl, hinside⟩ := Node.eq_of_definition hnode
      rw [hcontents contents' hinside, hrest others hothers]
  | leaf item rest hleaf ih =>
      obtain ⟨node, others, rfl, hnode, hothers⟩ := exists_cons_of_nodesJson_eq h
      obtain ⟨hkind, hfields⟩ := Node.toJson_eq_iff.mp hnode
      have hsame : item.node = node := Node.eq_of_fields hleaf hkind hfields
      rw [← hsame, ih others hothers]

end SasOutline
