import SasOutline.NodeExport
import SasOutline.Proofs.AsciiCase

/-!
# The fields of a JSON object

An object is built from a list of fields, and a field that comes later replaces one of
the same name.  So the value of a field is the last one the list gives for its name.

The record of a node names its kind, which no part of a construct hides.
-/

namespace SasOutline

namespace Json

/-- The value of a field; only objects have fields. -/
def field? (name : String) : Json → Option Json
  | sorted fields => fields.lookup name
  | _ => none

theorem lookup_cons_eq (name key : String) (value : Json) (fields : List (String × Json)) :
    ((key, value) :: fields).lookup name =
      if name = key then some value else fields.lookup name := by
  rw [List.lookup_cons]
  by_cases h : name = key
  · simp [h]
  · simp [beq_false_of_ne h, h]

theorem lookup_insertField (name other : String) (value : Json)
    (fields : List (String × Json)) :
    (insertField name value fields).lookup other =
      if other = name then some value else fields.lookup other := by
  induction fields with
  | nil => rw [insertField, lookup_cons_eq]
  | cons field rest ih =>
      obtain ⟨first, held⟩ := field
      rw [insertField]
      split
      · rw [lookup_cons_eq]
      · split
        · next hsame =>
          rw [lookup_cons_eq, lookup_cons_eq]
          split
          · rfl
          · next hother => rw [if_neg (hsame ▸ hother)]
        · next hdifferent =>
          rw [lookup_cons_eq, lookup_cons_eq, ih]
          by_cases hfirst : other = first
          · have hname : other ≠ name := by
              rintro rfl
              exact hdifferent hfirst
            simp only [if_pos hfirst, if_neg hname]
          · simp only [if_neg hfirst]

theorem field?_object (name : String) (fields : List (String × Json)) :
    (object fields).field? name = fields.reverse.lookup name := by
  induction fields using List.reverseRecOn with
  | nil => rfl
  | append_singleton fields field ih =>
      obtain ⟨key, value⟩ := field
      simp only [object, field?] at ih
      simp only [object, field?, List.foldl_append, List.foldl_cons, List.foldl_nil,
        lookup_insertField, ih, List.reverse_append, List.reverse_singleton, List.singleton_append,
        lookup_cons_eq]

/-- The first field keeps its value when no other has its name. -/
theorem field?_object_first {name : String} (value : Json) {fields : List (String × Json)}
    (h : name ∉ fields.map Prod.fst) :
    (object ((name, value) :: fields)).field? name = some value := by
  have hnone : fields.reverse.lookup name = none := by
    rw [List.lookup_eq_none_iff]
    intro field hfield
    rw [bne_iff_ne]
    rintro rfl
    exact h (List.mem_map_of_mem (List.mem_reverse.mp hfield))
  rw [field?_object, List.reverse_cons, List.lookup_append, hnone, Option.none_or,
    lookup_cons_eq, if_pos rfl]

/-- The kind that the record of a node in the text names. -/
def entryKind? (value : Json) : Option Json :=
  (value.field? "node").bind (field? "object")

/-- The record is that of a node whose kind goes by the name. -/
def isOfKind (name : String) (value : Json) : Bool :=
  match value.entryKind? with
  | some (.string kind) => equalIgnoringCase kind name
  | _ => false

end Json

/-- No two kinds go by one name, and case does not tell them apart either. -/
theorem NodeKind.eq_of_equalIgnoringCase {first second : NodeKind}
    (h : equalIgnoringCase first.name second.name = true) : first = second := by
  have hall : ∀ first ∈ all, ∀ second ∈ all,
      equalIgnoringCase first.name second.name = true → first = second := by
    decide +kernel
  exact hall first first.mem_all second second.mem_all h

theorem NodeKind.ofName?_eq_some_iff {name : String} {kind : NodeKind} :
    ofName? name = some kind ↔ equalIgnoringCase kind.name name = true := by
  have hname {found : NodeKind} (h : ofName? name = some found) :
      equalIgnoringCase found.name name = true := by
    rw [ofName?] at h
    have hfound := List.find?_some h
    exact hfound
  constructor
  · exact hname
  · intro h
    cases hfound : ofName? name with
    | none => exact absurd h (List.find?_eq_none.mp hfound kind kind.mem_all)
    | some found =>
        have hlower : found.name.toLower = name.toLower := equalIgnoringCase_iff.mp (hname hfound)
        have hsame : equalIgnoringCase found.name kind.name = true :=
          equalIgnoringCase_iff.mpr (hlower.trans (equalIgnoringCase_iff.mp h).symm)
        rw [eq_of_equalIgnoringCase hsame]

theorem Node.object_notMem_fields (node : Node) : "object" ∉ node.fields.map Prod.fst := by
  cases node <;> simp [Node.fields, Comment.fields, MacroVariableDefinition.fields,
    Inclusion.fields, LibraryBinding.fields, DataStep.fields, Procedure.fields,
    SqlStatement.fields, MacroStart.fields, MacroHeading.fields, MacroCall.fields]

theorem Spanned.entryKind?_toJson (item : Spanned Node) :
    item.toJson.entryKind? = some (.string item.kind.name) := by
  have hnode : item.toJson.field? "node" = some item.node.toJson :=
    Json.field?_object_first item.node.toJson (by simp)
  rw [Json.entryKind?, hnode, Option.bind_some]
  exact Json.field?_object_first _ item.node.object_notMem_fields

theorem Spanned.isOfKind_toJson (name : String) (item : Spanned Node) :
    Json.isOfKind name item.toJson = equalIgnoringCase item.kind.name name := by
  rw [Json.isOfKind, item.entryKind?_toJson]

end SasOutline
