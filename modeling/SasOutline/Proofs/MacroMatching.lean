import SasOutline.Proofs.MacroNesting

/-!
# The tree of a bracket word

A tree matches the brackets of a flat list when it reads like the list, keeps a
closing marker as a node only where no macro is open, and stays open only at its
end.  The fold yields such a tree, and up to the regions of the definitions there
is no other.
-/

namespace SasOutline

structure IsBracketMatching (nodes tree : List (Spanned Node)) : Prop where
  written : (writtenMarks tree).map Mark.plain = (withoutNewlines nodes).map Mark.ofItem
  stray_iff : ∀ i span,
    (writtenMarks tree)[i]? = some (.node ⟨.macroEnd, span⟩) ↔
      (withoutNewlines nodes)[i]? = some ⟨.macroEnd, span⟩ ∧
        openMacros ((withoutNewlines nodes).take i) = 0
  nested : IsNested tree

/-- A tree without the regions of its definitions, which its marks do not show. -/
def withoutRegions : List (Spanned Node) → List (Spanned Node)
  | [] => []
  | ⟨.macroDefinition heading contents terminated, _⟩ :: rest =>
      ⟨.macroDefinition heading (withoutRegions contents) terminated, default⟩ ::
        withoutRegions rest
  | item :: rest => item :: withoutRegions rest

theorem withoutRegions_leaf {item : Spanned Node} (hleaf : item.kind ≠ .macroDefinition)
    (rest : List (Spanned Node)) :
    withoutRegions (item :: rest) = item :: withoutRegions rest := by
  obtain ⟨node, span⟩ := item
  cases node <;> simp_all [withoutRegions, Spanned.kind, Node.kind]

/-! ## One tree for one reading -/

/-- What stands behind a list of nodes: the end of everything when the list may
stay open, and a closing marker when it may not. -/
def Resumes (unfinished : Bool) (marks : List Mark) : Prop :=
  if unfinished then marks = [] else ∃ behind, marks = .closing :: behind

theorem Resumes.ne_opening {unfinished : Bool} {heading : MacroHeading} {marks : List Mark} :
    ¬ Resumes unfinished (.opening heading :: marks) := by
  cases unfinished <;> simp [Resumes]

theorem Resumes.ne_node {unfinished : Bool} {item : Spanned Node} {marks : List Mark} :
    ¬ Resumes unfinished (.node item :: marks) := by
  cases unfinished <;> simp [Resumes]

theorem Resumes.unfinished_eq {unfinished other : Bool} {marks : List Mark}
    (hleft : Resumes unfinished marks) (hright : Resumes other marks) :
    unfinished = other := by
  cases unfinished <;> cases other <;> simp_all [Resumes]

theorem Resumes.behind_definition {unfinished terminated : Bool}
    {rest : List (Spanned Node)} {marks : List Mark} (hresumes : Resumes unfinished marks)
    (hlast : terminated = false → unfinished = true ∧ rest = []) :
    Resumes (!terminated) (Mark.ending terminated ++ (writtenMarks rest ++ marks)) := by
  cases terminated with
  | true => exact ⟨_, rfl⟩
  | false =>
      obtain ⟨rfl, rfl⟩ := hlast rfl
      have hmarks : marks = [] := hresumes
      simp [Resumes, Mark.ending, writtenMarks, hmarks]

/-- What a nested tree reads like tells the tree and where it stops. -/
theorem withoutRegions_eq_of_writtenMarks {strays strays' unfinished unfinished' : Bool}
    {tree tree' : List (Spanned Node)} {marks marks' : List Mark}
    (hnested : WellNested strays unfinished tree)
    (hnested' : WellNested strays' unfinished' tree')
    (hresumes : Resumes unfinished marks) (hresumes' : Resumes unfinished' marks')
    (hmarks : writtenMarks tree ++ marks = writtenMarks tree' ++ marks') :
    withoutRegions tree = withoutRegions tree' ∧ marks = marks' := by
  induction tree using treeInduction
    generalizing strays strays' unfinished unfinished' tree' marks marks' with
  | nil =>
      cases tree' using treeInduction with
      | nil => exact ⟨rfl, by simpa [writtenMarks] using hmarks⟩
      | definition heading contents terminated span rest _ _ =>
          simp only [writtenMarks, List.nil_append, List.cons_append] at hmarks
          rw [hmarks] at hresumes
          exact absurd hresumes Resumes.ne_opening
      | leaf item rest hleaf _ =>
          rw [writtenMarks_leaf hleaf] at hmarks
          simp only [writtenMarks, List.nil_append, List.cons_append] at hmarks
          rw [hmarks] at hresumes
          exact absurd hresumes Resumes.ne_node
  | definition heading contents terminated span rest hcontents hrest =>
      cases tree' using treeInduction with
      | nil =>
          simp only [writtenMarks, List.nil_append, List.cons_append] at hmarks
          rw [← hmarks] at hresumes'
          exact absurd hresumes' Resumes.ne_opening
      | definition heading' contents' terminated' span' rest' _ _ =>
          simp only [WellNested] at hnested hnested'
          simp only [writtenMarks, List.cons_append, List.append_assoc, List.cons.injEq,
            Mark.opening.injEq] at hmarks
          have hbehind := hresumes.behind_definition hnested.2.1
          have hbehind' := hresumes'.behind_definition hnested'.2.1
          obtain ⟨hinside, hends⟩ :=
            hcontents hnested.1 hnested'.1 hbehind hbehind' hmarks.2
          -- Both definitions end alike, since the same marks stand behind them.
          rw [← hends] at hbehind'
          have hterminated : terminated = terminated' := by
            simpa using hbehind.unfinished_eq hbehind'
          subst hterminated
          obtain ⟨houtside, hsame⟩ :=
            hrest hnested.2.2 hnested'.2.2 hresumes hresumes' (List.append_cancel_left hends)
          refine ⟨?_, hsame⟩
          simp only [withoutRegions]
          rw [hmarks.1, hinside, houtside]
      | leaf item rest' hleaf _ =>
          rw [writtenMarks_leaf hleaf] at hmarks
          simp [writtenMarks] at hmarks
  | leaf item rest hleaf ih =>
      rw [writtenMarks_leaf hleaf] at hmarks
      rw [wellNested_leaf hleaf] at hnested
      cases tree' using treeInduction with
      | nil =>
          simp only [writtenMarks, List.nil_append, List.cons_append] at hmarks
          rw [← hmarks] at hresumes'
          exact absurd hresumes' Resumes.ne_node
      | definition heading contents terminated span rest' _ _ =>
          simp [writtenMarks] at hmarks
      | leaf item' rest' hleaf' _ =>
          rw [writtenMarks_leaf hleaf'] at hmarks
          rw [wellNested_leaf hleaf'] at hnested'
          simp only [List.cons_append, List.cons.injEq, Mark.node.injEq] at hmarks
          obtain ⟨hrest, hsame⟩ := ih hnested.2 hnested'.2 hresumes hresumes' hmarks.2
          refine ⟨?_, hsame⟩
          rw [withoutRegions_leaf hleaf, withoutRegions_leaf hleaf', hmarks.1, hrest]

theorem Mark.map_plain_eq_self {mark? : Option Mark}
    (hplain : ∀ span, mark? ≠ some (.node ⟨.macroEnd, span⟩)) :
    mark?.map Mark.plain = mark? := by
  cases mark? with
  | none => rfl
  | some mark =>
      rw [Option.map_some, Option.some.injEq]
      unfold Mark.plain
      split
      next span => exact absurd rfl (hplain span)
      next => rfl

/-- Marks that look alike and have their stray closing markers in the same places
are the same. -/
theorem eq_of_map_plain_eq {marks marks' : List Mark}
    (hplain : marks.map Mark.plain = marks'.map Mark.plain)
    (hstrays : ∀ (i : Nat) span, marks[i]? = some (.node ⟨.macroEnd, span⟩) ↔
      marks'[i]? = some (.node ⟨.macroEnd, span⟩)) :
    marks = marks' := by
  apply List.ext_getElem?
  intro i
  have hat : marks[i]?.map Mark.plain = marks'[i]?.map Mark.plain := by
    rw [← List.getElem?_map, ← List.getElem?_map, hplain]
  by_cases hstray : ∃ span, marks[i]? = some (.node ⟨.macroEnd, span⟩)
  · obtain ⟨span, hmark⟩ := hstray
    rw [hmark, (hstrays i span).mp hmark]
  · push Not at hstray
    have hstray' : ∀ span, marks'[i]? ≠ some (.node ⟨.macroEnd, span⟩) := by
      intro span hmark
      exact hstray span ((hstrays i span).mpr hmark)
    rwa [Mark.map_plain_eq_self hstray, Mark.map_plain_eq_self hstray'] at hat

/-! ## The fold -/

/-- The fold of a flat list matches its brackets, and no other tree does. -/
theorem foldMacros_unique_matching (nodes : List (Spanned Node))
    (hflat : ∀ item ∈ nodes, item.kind ≠ .macroDefinition) :
    IsBracketMatching nodes (foldMacros nodes) ∧
      ∀ tree, IsBracketMatching nodes tree →
        withoutRegions tree = withoutRegions (foldMacros nodes) := by
  have hmarks := writtenMarks_foldMacros nodes hflat
  have hnested := wellNested_foldMacros nodes hflat
  constructor
  · constructor
    · rw [hmarks, map_plain_marksFrom]
    · intro i span
      rw [hmarks]
      exact marksFrom_stray_iff 0 (withoutNewlines nodes) i span
    · exact hnested.isNested
  · intro tree hmatching
    have hsame : writtenMarks tree = writtenMarks (foldMacros nodes) := by
      rw [hmarks]
      apply eq_of_map_plain_eq
      · rw [hmatching.written, map_plain_marksFrom]
      · intro i span
        rw [hmatching.stray_iff, marksFrom_stray_iff]
        rfl
    have htree : WellNested true true tree := by
      apply hmatching.nested.wellNested
      · simp
      · simp
    have hempty : Resumes true [] := rfl
    apply (withoutRegions_eq_of_writtenMarks htree hnested hempty hempty ?_).1
    rw [hsame]

def lineSpan (line : Nat) : Span := ⟨⟨line, 0⟩, ⟨line, 6⟩⟩

/-- A closing marker too many in front of two opening markers too many. -/
def unbalancedNodes : List (Spanned Node) :=
  [⟨.macroEnd, lineSpan 1⟩,
   ⟨.macroStart ⟨.ofLiteral "a", none, none⟩, lineSpan 2⟩,
   ⟨.newline, lineSpan 3⟩,
   ⟨.macroStart ⟨.ofLiteral "b", some [], none⟩, lineSpan 4⟩,
   ⟨.comment ⟨"inside"⟩, lineSpan 5⟩,
   ⟨.macroEnd, lineSpan 6⟩,
   ⟨.macroStart ⟨.ofLiteral "c", none, some []⟩, lineSpan 7⟩]

def unbalancedTree : List (Spanned Node) :=
  [⟨.macroEnd, lineSpan 1⟩,
   ⟨.macroDefinition ⟨"a", none, none⟩
      [⟨.macroDefinition ⟨"b", some [], none⟩ [⟨.comment ⟨"inside"⟩, lineSpan 5⟩] true,
         ⟨⟨4, 0⟩, ⟨6, 6⟩⟩⟩,
       ⟨.macroDefinition ⟨"c", none, some []⟩ [] false, lineSpan 7⟩] false,
     ⟨⟨2, 0⟩, ⟨7, 6⟩⟩⟩]

theorem unbalancedTree_unique_matching :
    (∀ item ∈ unbalancedNodes, item.kind ≠ .macroDefinition) ∧
      IsBracketMatching unbalancedNodes unbalancedTree ∧
      ∀ tree, IsBracketMatching unbalancedNodes tree →
        withoutRegions tree = withoutRegions unbalancedTree := by
  have hflat : ∀ item ∈ unbalancedNodes, item.kind ≠ .macroDefinition := by decide
  have hfold : foldMacros unbalancedNodes = unbalancedTree := by rfl
  rw [← hfold]
  exact ⟨hflat, foldMacros_unique_matching unbalancedNodes hflat⟩

end SasOutline
