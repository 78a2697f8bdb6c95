import SasOutline.Program
import SasOutline.Proofs.AsciiCase
import SasOutline.Proofs.KnownText
import SasOutline.Proofs.MacroNesting
import SasOutline.Proofs.NodeOrigin

/-!
# The grammar without macros

The full grammar has three more rules than the grammar without macros, and they come
last.  A rule of the shorter grammar therefore decides in both grammars, and where the
grammars differ the full one has read a statement of the macro language, which begins
with a percent sign.

The shorter grammar yields no markers, so folding has nothing to pair: the contents of
a program are its nodes without the line ends.
-/

namespace SasOutline

/-- Only the constructs of the macro language yield nodes of these kinds. -/
def NodeKind.IsMacroStatement (kind : NodeKind) : Prop :=
  kind = .macroStart ∨ kind = .macroEnd ∨ kind = .macroCall

instance (kind : NodeKind) : Decidable kind.IsMacroStatement :=
  inferInstanceAs (Decidable (_ ∨ _ ∨ _))

/-! ## What the constructs yield -/

namespace Construct

/-- The kinds of the nodes that a construct yields. -/
def kinds : Construct → List NodeKind
  | newline => [.newline]
  | macroVariable => [.macroVariable]
  | comment => [.comment]
  | dataStep => [.dataStep]
  | procedure => [.procedure]
  | sqlBlock => [.procedure, .sqlStatement]
  | sqlStatement => [.sqlStatement]
  | createTable => [.procedure]
  | libraryBinding => [.libraryBinding]
  | inclusion => [.inclusion]
  | macroStart => [.macroStart]
  | macroEnd => [.macroEnd]
  | macroCall => [.macroCall]
  | nothing => []

theorem sqlItem?_kinds {cursor later : Cursor} {item : MatchItem}
    (h : cursor.sqlItem? = some (item, later)) : item.node.kind ∈ sqlBlock.kinds := by
  rcases Cursor.sqlItem?_eq_some h with ⟨procedure, -, rfl⟩ | ⟨statement, -, -, rfl⟩
  · simp [kinds, Node.kind]
  · simp [kinds, Node.kind]

theorem read?_kinds {construct : Construct} {cursor : Cursor} {found : ConstructMatch}
    (h : construct.read? cursor = some found) :
    ∀ item ∈ found.items, item.node.kind ∈ construct.kinds := by
  cases construct with
  | sqlBlock => exact Cursor.forall_mem_sqlBlock (fun _ _ _ => sqlItem?_kinds) h
  | nothing =>
      obtain rfl := Option.some.inj h
      exact List.forall_mem_nil _
  | _ =>
      obtain ⟨value, -, rfl⟩ := Option.map_eq_some_iff.1 h
      exact List.forall_mem_singleton.2 List.mem_cons_self

end Construct

/-! ## One match -/

namespace Grammar

/-- The rules that the full grammar adds. -/
def macroStatements : Grammar where
  rules :=
    [("macro start", .macroStart),
     ("macro end", .macroEnd),
     ("macro call", .macroCall)]

theorem firstMatch?_full (cursor : Cursor) :
    full.firstMatch? cursor =
      (withoutMacros.firstMatch? cursor).or (macroStatements.firstMatch? cursor) := by
  have hrules : full.rules = withoutMacros.rules ++ macroStatements.rules := rfl
  unfold firstMatch?
  rw [hrules, List.findSome?_append]

theorem withoutMacros_kinds {cursor : Cursor} {found : ConstructMatch}
    (h : withoutMacros.firstMatch? cursor = some found) :
    ∀ item ∈ found.items,
      ¬ item.node.kind.IsMacroStatement ∧ item.node.kind ≠ .macroDefinition := by
  have hkinds : ∀ rule ∈ withoutMacros.rules, ∀ kind ∈ rule.2.kinds,
      ¬ kind.IsMacroStatement ∧ kind ≠ .macroDefinition := by decide
  obtain ⟨rule, hrule, hread⟩ := List.exists_of_findSome?_eq_some h
  intro item hitem
  have hkind := Construct.read?_kinds (Option.filter_eq_some_iff.1 hread).1 item hitem
  exact hkinds rule hrule _ hkind

/-- Each of the added rules yields a single item. -/
theorem macroStatements_kinds {cursor : Cursor} {found : ConstructMatch}
    (h : macroStatements.firstMatch? cursor = some found) :
    ∃ item ∈ found.items, item.node.kind.IsMacroStatement := by
  obtain ⟨rule, hrule, hread⟩ := List.exists_of_findSome?_eq_some h
  have hread := (Option.filter_eq_some_iff.1 hread).1
  simp only [macroStatements, List.mem_cons, List.not_mem_nil, or_false] at hrule
  rcases hrule with rfl | rfl | rfl
  all_goals
    obtain ⟨value, -, rfl⟩ := Option.map_eq_some_iff.1 hread
    exact ⟨_, List.mem_cons_self, by simp [Node.kind, NodeKind.IsMacroStatement]⟩

theorem firstMatch?_full_of_withoutMacros {cursor : Cursor} {found : ConstructMatch}
    (h : withoutMacros.firstMatch? cursor = some found) :
    full.firstMatch? cursor = some found := by
  rw [firstMatch?_full, h, Option.some_or]

theorem firstMatch?_withoutMacros_of_full {cursor : Cursor} {found : ConstructMatch}
    (h : full.firstMatch? cursor = some found)
    (hkinds : ∀ item ∈ found.items, ¬ item.node.kind.IsMacroStatement) :
    withoutMacros.firstMatch? cursor = some found := by
  rw [firstMatch?_full] at h
  rcases Option.or_eq_some_iff.1 h with hshort | ⟨-, hadded⟩
  · exact hshort
  · obtain ⟨item, hitem, hkind⟩ := macroStatements_kinds hadded
    exact absurd hkind (hkinds item hitem)

end Grammar

/-! ## Texts without a percent sign -/

/-- A word with a percent sign in front is read only where a percent sign stands. -/
theorem Cursor.percent_of_letters? {fold : Char → Char} {cursor later : Cursor}
    {word : String} (hfold : ∀ ch, fold ch = '%' ↔ ch = '%')
    (hword : word.toList.head? = some '%') (h : letters? fold cursor word = some later) :
    cursor.rest.head? = some '%' := by
  obtain ⟨letters, hword⟩ := List.head?_eq_some_iff.1 hword
  unfold letters? at h
  split at h
  · next hsame =>
    rw [hword] at hsame
    cases hrest : cursor.rest with
    | nil => simp [hrest] at hsame
    | cons ch rest =>
        simp only [hrest, List.length_cons, List.take_succ_cons, List.map_cons,
          List.cons.injEq, (hfold '%').2 rfl] at hsame
        rw [List.head?_cons, (hfold ch).1 hsame.1]
  · contradiction

theorem foldedLetter_eq_percent_iff (ch : Char) : foldedLetter ch = '%' ↔ ch = '%' := by
  constructor
  · intro h
    unfold foldedLetter at h
    split at h
    · contradiction
    split at h
    · contradiction
    · exact (toLower_eq_iff (by decide) ch).1 h
  · rintro rfl
    decide

namespace Grammar

theorem percent_of_macroStatements {cursor : Cursor} {found : ConstructMatch}
    (h : macroStatements.firstMatch? cursor = some found) : cursor.rest.head? = some '%' := by
  obtain ⟨rule, hrule, hread⟩ := List.exists_of_findSome?_eq_some h
  have hread := (Option.filter_eq_some_iff.1 hread).1
  simp only [macroStatements, List.mem_cons, List.not_mem_nil, or_false] at hrule
  rcases hrule with rfl | rfl | rfl
  · obtain ⟨read, hstart, -⟩ := Option.map_eq_some_iff.1 hread
    obtain ⟨keyword, hkeyword, -⟩ := Option.bind_eq_some_iff.1 hstart
    exact Cursor.percent_of_letters? (toLower_eq_iff (by decide)) (by decide) hkeyword
  · obtain ⟨read, hend, -⟩ := Option.map_eq_some_iff.1 hread
    obtain ⟨keyword, hkeyword, -⟩ := Option.bind_eq_some_iff.1 hend
    exact Cursor.percent_of_letters? foldedLetter_eq_percent_iff (by decide) hkeyword
  · obtain ⟨read, hcall, -⟩ := Option.map_eq_some_iff.1 hread
    obtain ⟨start, hstart, -⟩ := Option.bind_eq_some_iff.1 hcall
    rw [(Cursor.char?_eq_some hstart).1, List.head?_cons]

theorem firstMatch?_eq_of_percent_notMem {cursor : Cursor} (hpercent : '%' ∉ cursor.rest) :
    full.firstMatch? cursor = withoutMacros.firstMatch? cursor := by
  have hadded : macroStatements.firstMatch? cursor = none := by
    rw [Option.eq_none_iff_forall_not_mem]
    intro found hfound
    exact hpercent (List.mem_of_mem_head? (percent_of_macroStatements hfound))
  rw [firstMatch?_full, hadded, Option.or_none]

end Grammar

theorem Cursor.Reaches.notMem {cursor later : Cursor} (reaches : cursor.Reaches later)
    {ch : Char} (h : ch ∉ cursor.rest) : ch ∉ later.rest := by
  obtain ⟨read, hrest, -⟩ := reaches
  rw [hrest, List.mem_append, not_or] at h
  exact h.2

namespace Grammar

theorem steps_eq_of_percent_notMem {cursor : Cursor} (hpercent : '%' ∉ cursor.rest) :
    full.steps cursor = withoutMacros.steps cursor := by
  fun_induction steps full cursor with
  | case1 cursor found hfound ih =>
      have hsame := hfound
      rw [firstMatch?_eq_of_percent_notMem hpercent] at hsame
      rw [steps_of_firstMatch? hsame,
        ih ((firstMatch?_passes hfound).reaches.notMem hpercent)]
  | case2 cursor hnone ch after hbump ih =>
      have hsame := hnone
      rw [firstMatch?_eq_of_percent_notMem hpercent] at hsame
      rw [steps_of_bump? hsame hbump, ih ((Cursor.bump?_passes hbump).reaches.notMem hpercent)]
  | case3 cursor hnone hbump =>
      obtain ⟨before, rest⟩ := cursor
      have hend : rest = [] := Cursor.bump?_eq_none hbump
      rw [hend, steps_end]

theorem scan_eq_of_percent_notMem {text : String} (hpercent : '%' ∉ text.toList) :
    full.scan text = withoutMacros.scan text := by
  have hsteps : full.steps (.ofText text) = withoutMacros.steps (.ofText text) :=
    steps_eq_of_percent_notMem hpercent
  unfold scan
  rw [hsteps]

end Grammar

/-! ## Folding without markers -/

section NoMarkers

variable {nodes : List (Spanned Node)}

theorem foldNodes_without_markers
    (hnodes : ∀ item ∈ nodes, item.kind ≠ .macroStart ∧ item.kind ≠ .macroEnd) :
    foldNodes nodes = ⟨withoutNewlines nodes, []⟩ := by
  induction nodes with
  | nil => rfl
  | cons item rest ih =>
      obtain ⟨hitem, hrest⟩ := List.forall_mem_cons.1 hnodes
      obtain ⟨node, span⟩ := item
      cases node with
      | macroStart => exact absurd rfl hitem.1
      | macroEnd => exact absurd rfl hitem.2
      | newline =>
          simp only [foldNodes, ih hrest]
          rfl
      | _ =>
          simp only [foldNodes, ih hrest]
          rfl

theorem foldMacros_without_markers
    (hnodes : ∀ item ∈ nodes, item.kind ≠ .macroStart ∧ item.kind ≠ .macroEnd) :
    foldMacros nodes = withoutNewlines nodes := by
  unfold foldMacros
  rw [foldNodes_without_markers hnodes]
  simp [FoldedNodes.toList]

theorem macroDefinitions_flat (hflat : ∀ item ∈ nodes, item.kind ≠ .macroDefinition) :
    macroDefinitions nodes = [] := by
  induction nodes with
  | nil => simp [macroDefinitions]
  | cons item rest ih =>
      obtain ⟨hitem, hrest⟩ := List.forall_mem_cons.1 hflat
      rw [macroDefinitions_leaf hitem, ih hrest]

end NoMarkers

theorem Grammar.scan_withoutMacros_kinds (text : String) :
    ∀ item ∈ (withoutMacros.scan text).nodes,
      ¬ item.kind.IsMacroStatement ∧ item.kind ≠ .macroDefinition := by
  intro item hitem
  rw [scan_nodes_eq] at hitem
  obtain ⟨reported, hreported, rfl⟩ := List.mem_map.1 hitem
  exact forall_mem_itemsFrom (fun _ _ => withoutMacros_kinds) _ reported hreported

theorem Program.parse_withoutMacros_contents (text : String) (name : Option String) :
    (Program.parse .withoutMacros text name).contents =
      withoutNewlines (Grammar.withoutMacros.scan text).nodes := by
  apply foldMacros_without_markers
  intro item hitem
  obtain ⟨hstatement, -⟩ := Grammar.scan_withoutMacros_kinds text item hitem
  simp only [NodeKind.IsMacroStatement, not_or] at hstatement
  exact ⟨hstatement.1, hstatement.2.1⟩

/-- Both grammars find the same at a cursor, unless the full one has read a statement of
the macro language.  A text without a percent sign is scanned alike, and the program of
the shorter grammar holds nothing of the macro language at any depth. -/
theorem withoutMacros_agrees_with_full :
    (∀ cursor found, Grammar.withoutMacros.firstMatch? cursor = some found →
        Grammar.full.firstMatch? cursor = some found) ∧
      (∀ cursor found, Grammar.full.firstMatch? cursor = some found →
        (∀ item ∈ found.items, ¬ item.node.kind.IsMacroStatement) →
          Grammar.withoutMacros.firstMatch? cursor = some found) ∧
      (∀ text : String, '%' ∉ text.toList →
        Grammar.full.scan text = Grammar.withoutMacros.scan text) ∧
      ∀ text name,
        (Program.parse .withoutMacros text name).contents =
            withoutNewlines (Grammar.withoutMacros.scan text).nodes ∧
          ∀ level, IsLevel (Program.parse .withoutMacros text name).contents level →
            ∀ item ∈ level, ¬ item.kind.IsMacroStatement ∧ item.kind ≠ .macroDefinition := by
  refine ⟨?_, ?_, ?_, ?_⟩
  · intro cursor found
    exact Grammar.firstMatch?_full_of_withoutMacros
  · intro cursor found
    exact Grammar.firstMatch?_withoutMacros_of_full
  · intro text
    exact Grammar.scan_eq_of_percent_notMem
  · intro text name
    have hcontents := Program.parse_withoutMacros_contents text name
    have hkinds : ∀ item ∈ (Program.parse .withoutMacros text name).contents,
        ¬ item.kind.IsMacroStatement ∧ item.kind ≠ .macroDefinition := by
      intro item hitem
      rw [hcontents] at hitem
      exact Grammar.scan_withoutMacros_kinds text item (List.mem_filter.1 hitem).1
    refine ⟨hcontents, ?_⟩
    rintro level (rfl | ⟨heading, terminated, span, hmem⟩)
    · exact hkinds
    · rw [macroDefinitions_flat fun item hitem => (hkinds item hitem).2] at hmem
      contradiction

def definitionInFrontOfCall : Cursor := .ofText "%let year=1;%load;"

def definitionMatch : ConstructMatch :=
  .single definitionInFrontOfCall (.macroVariable ⟨.ofLiteral "year", some "1"⟩)
    ⟨"%let year=1;".toList.reverse, "%load;".toList⟩

theorem withoutMacros_agrees_on_definition :
    Grammar.withoutMacros.firstMatch? definitionInFrontOfCall = some definitionMatch ∧
      Grammar.full.firstMatch? definitionInFrontOfCall = some definitionMatch ∧
      (∀ item ∈ definitionMatch.items, ¬ item.node.kind.IsMacroStatement) ∧
      '%' ∉ "data a; set b; run;".toList ∧
      Grammar.full.scan "data a; set b; run;" =
        Grammar.withoutMacros.scan "data a; set b; run;" := by
  obtain ⟨hshort, hfull, hscan, -⟩ := withoutMacros_agrees_with_full
  have hread : Grammar.withoutMacros.firstMatch? definitionInFrontOfCall =
      some definitionMatch := by decide +kernel
  have hkinds : ∀ item ∈ definitionMatch.items, ¬ item.node.kind.IsMacroStatement := by
    simp [definitionMatch, ConstructMatch.single, Node.kind, NodeKind.IsMacroStatement]
  have hpercent : '%' ∉ "data a; set b; run;".toList := by decide
  have hagain := hshort _ _ hread
  exact ⟨hfull _ _ hagain hkinds, hagain, hkinds, hpercent, hscan _ hpercent⟩

end SasOutline
