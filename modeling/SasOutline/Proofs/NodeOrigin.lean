import SasOutline.Proofs.NodeSpans

/-!
# Where the nodes of a scan come from

Every node of a scan is what one of the readers made of the text between two
cursors, and its span belongs to these cursors.  Two readers yield procedures:
the one of procedure steps, and inside of a block of the `sql` procedure the one of
`create table` statements.  No reader yields a macro definition.
-/

namespace SasOutline

/-- A reader yields the node at `start` and goes on at `stop`. -/
inductive IsRead (start stop : Cursor) : Node → Prop
  | newline (hread : start.newline? = some stop) : IsRead start stop .newline
  | comment {comment : Comment} (hread : start.comment? = some (comment, stop)) :
      IsRead start stop (.comment comment)
  | macroVariable {definition : MacroVariableDefinition}
      (hread : start.macroVariableDefinition? = some (definition, stop)) :
      IsRead start stop (.macroVariable definition)
  | inclusion {inclusion : Inclusion} (hread : start.inclusion? = some (inclusion, stop)) :
      IsRead start stop (.inclusion inclusion)
  | libraryBinding {binding : LibraryBinding}
      (hread : start.libraryBinding? = some (binding, stop)) :
      IsRead start stop (.libraryBinding binding)
  | dataStep {step : DataStep} (hread : start.dataStep? = some (step, stop)) :
      IsRead start stop (.dataStep step)
  | procedure {procedure : Procedure} (hread : start.procedure? = some (procedure, stop)) :
      IsRead start stop (.procedure procedure)
  | createTable {procedure : Procedure} (hread : start.createTable? = some (procedure, stop)) :
      IsRead start stop (.procedure procedure)
  | sqlStatement {statement : SqlStatement}
      (hread : start.sqlStatement? = some (statement, stop)) :
      IsRead start stop (.sqlStatement statement)
  | macroStart {marker : MacroStart} (hread : start.macroStart? = some (marker, stop)) :
      IsRead start stop (.macroStart marker)
  | macroEnd (hread : start.macroEnd? = some stop) : IsRead start stop .macroEnd
  | macroCall {call : MacroCall} (hread : start.macroCall? = some (call, stop)) :
      IsRead start stop (.macroCall call)

theorem IsRead.kind_ne_macroDefinition {start stop : Cursor} {node : Node}
    (h : IsRead start stop node) : node.kind ≠ .macroDefinition := by
  cases h <;> simp [Node.kind]

/-! ## Lists of items -/

section Separated

variable {α : Type} {item : Reader α} {separator : Cursor → Option Cursor} {P : α → Prop}
  (hitem : ∀ cursor value after, item cursor = some (value, after) → P value)

include hitem

theorem forall_mem_separatedTail (cursor : Cursor) :
    ∀ value ∈ (separatedTail item separator cursor).1, P value := by
  fun_induction separatedTail item separator cursor with
  | case1 cursor hnone => simp
  | case2 cursor next after hpair hless more stop htail ih =>
      rw [htail] at ih
      obtain ⟨middle, -, hnext⟩ := Option.bind_eq_some_iff.1 hpair
      intro value hvalue
      rcases List.mem_cons.mp hvalue with rfl | hlater
      · exact hitem _ _ _ hnext
      · exact ih value hlater
  | case3 cursor next after hpair hless => simp

theorem forall_mem_separated (cursor : Cursor) :
    ∀ value ∈ (separated item separator cursor).1, P value := by
  unfold separated
  split
  · simp
  · next first after hfirst =>
      intro value hvalue
      rcases List.mem_cons.mp hvalue with rfl | hlater
      · exact hitem _ _ _ hfirst
      · exact forall_mem_separatedTail hitem after value hlater

end Separated

/-! ## Constructs -/

def MatchItem.IsRead (item : MatchItem) : Prop :=
  SasOutline.IsRead item.start item.stop item.node

theorem Cursor.sqlItem?_isRead {cursor later : Cursor} {item : MatchItem}
    (h : cursor.sqlItem? = some (item, later)) : item.IsRead := by
  rcases Cursor.sqlItem?_eq_some h with ⟨procedure, hread, rfl⟩ | ⟨statement, -, hread, rfl⟩
  · exact .createTable hread
  · exact .sqlStatement hread

/-- Every item of a block is a statement that was read inside of it. -/
theorem Cursor.forall_mem_sqlBlock {P : MatchItem → Prop}
    (hitem : ∀ cursor item later, sqlItem? cursor = some (item, later) → P item)
    {cursor : Cursor} {found : ConstructMatch} (h : cursor.sqlBlock? = some found) :
    ∀ item ∈ found.items, P item := by
  obtain ⟨body, quit, -, -, rfl⟩ := sqlBlock?_eq_some h
  exact forall_mem_separated hitem body.skipSpace

namespace Construct

private theorem covering_isRead {α : Type} {cursor : Cursor} {found : ConstructMatch}
    {wrap : α → Node} {parsed : Option (α × Cursor)}
    (hparsed : ∀ value stop, parsed = some (value, stop) → IsRead cursor stop (wrap value))
    (h : (parsed.map fun (value, stop) =>
      ConstructMatch.single cursor (wrap value) stop) = some found) :
    ∀ item ∈ found.items, item.IsRead := by
  obtain ⟨⟨value, stop⟩, hvalue, rfl⟩ := Option.map_eq_some_iff.1 h
  exact List.forall_mem_singleton.2 (hparsed value stop hvalue)

private theorem marker_isRead {cursor : Cursor} {found : ConstructMatch} {node : Node}
    {parsed : Option Cursor}
    (hparsed : ∀ stop, parsed = some stop → IsRead cursor stop node)
    (h : parsed.map (ConstructMatch.single cursor node) = some found) :
    ∀ item ∈ found.items, item.IsRead := by
  obtain ⟨stop, hstop, rfl⟩ := Option.map_eq_some_iff.1 h
  exact List.forall_mem_singleton.2 (hparsed stop hstop)

theorem read?_isRead {construct : Construct} {cursor : Cursor} {found : ConstructMatch}
    (h : construct.read? cursor = some found) : ∀ item ∈ found.items, item.IsRead := by
  cases construct with
  | newline => exact marker_isRead (fun _ => .newline) h
  | macroVariable => exact covering_isRead (fun _ _ => .macroVariable) h
  | comment => exact covering_isRead (fun _ _ => .comment) h
  | dataStep => exact covering_isRead (fun _ _ => .dataStep) h
  | procedure => exact covering_isRead (fun _ _ => .procedure) h
  | sqlBlock => exact Cursor.forall_mem_sqlBlock (fun _ _ _ => Cursor.sqlItem?_isRead) h
  | sqlStatement => exact covering_isRead (fun _ _ => .sqlStatement) h
  | createTable => exact covering_isRead (fun _ _ => .createTable) h
  | libraryBinding => exact covering_isRead (fun _ _ => .libraryBinding) h
  | inclusion => exact covering_isRead (fun _ _ => .inclusion) h
  | macroStart => exact covering_isRead (fun _ _ => .macroStart) h
  | macroEnd => exact marker_isRead (fun _ => .macroEnd) h
  | macroCall => exact covering_isRead (fun _ _ => .macroCall) h
  | nothing =>
      obtain rfl := Option.some.inj h
      exact List.forall_mem_nil _

end Construct

/-! ## Scans -/

namespace Grammar

theorem firstMatch?_isRead {grammar : Grammar} {cursor : Cursor} {found : ConstructMatch}
    (h : grammar.firstMatch? cursor = some found) : ∀ item ∈ found.items, item.IsRead := by
  obtain ⟨rule, -, hrule⟩ := List.exists_of_findSome?_eq_some h
  exact Construct.read?_isRead (Option.filter_eq_some_iff.1 hrule).1

/-- What holds of the items of every match holds of the items of a scan. -/
theorem forall_mem_itemsFrom {grammar : Grammar} {P : MatchItem → Prop}
    (hmatch : ∀ cursor found, grammar.firstMatch? cursor = some found →
      ∀ item ∈ found.items, P item) (cursor : Cursor) :
    ∀ item ∈ grammar.itemsFrom cursor, P item := by
  unfold itemsFrom
  fun_induction steps grammar cursor with
  | case1 cursor found hfound ih =>
      intro item hitem
      simp only [List.filterMap_cons, ScanStep.found?_matched, List.flatMap_cons,
        List.mem_append] at hitem
      rcases hitem with hhere | hlater
      · exact hmatch cursor found hfound item hhere
      · exact ih item hlater
  | case2 cursor hnone ch after hbump ih => exact ih
  | case3 cursor hnone hbump => exact List.forall_mem_nil _

theorem itemsFrom_isRead (grammar : Grammar) (cursor : Cursor) :
    ∀ item ∈ grammar.itemsFrom cursor, item.IsRead :=
  forall_mem_itemsFrom (fun _ _ => firstMatch?_isRead) cursor

/-- A reader yields the node somewhere in the text, and the span covers what it
has read. -/
theorem scan_node_isRead {grammar : Grammar} {text : String} {item : Spanned Node}
    (h : item ∈ (grammar.scan text).nodes) :
    ∃ start stop : Cursor, start.InText text ∧ stop.InText text ∧
      IsRead start stop item.node ∧ item.span = ⟨start.position, stop.position⟩ := by
  rw [scan_nodes_eq] at h
  obtain ⟨reported, hreported, rfl⟩ := List.mem_map.1 h
  obtain ⟨hstart, hstop, -⟩ := reportedItems_inText hreported
  exact ⟨_, _, hstart, hstop, grammar.itemsFrom_isRead _ reported hreported, rfl⟩

theorem scan_flat (grammar : Grammar) (text : String) :
    ∀ item ∈ (grammar.scan text).nodes, item.kind ≠ .macroDefinition := by
  intro item hitem
  obtain ⟨start, stop, -, -, hread, -⟩ := scan_node_isRead hitem
  exact hread.kind_ne_macroDefinition

end Grammar

end SasOutline
