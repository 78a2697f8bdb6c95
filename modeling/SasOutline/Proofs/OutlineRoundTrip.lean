import SasOutline.Program
import SasOutline.Proofs.LineageReference
import SasOutline.Proofs.PrintedStatements
import SasOutline.Proofs.ScanTurns

/-!
# Reading a printed outline

An outline is a forest of macro definitions with macro variable definitions and
data steps for leaves.  It is printed one statement per line, where a macro
definition gets a line of its own in front of its contents and one behind them.

Scanning the printed lines yields the statements and the line ends between them,
and folding the markers among them gives the forest back, whatever its shape and
whatever words its names are.
-/

namespace SasOutline

/-! ## Outlines -/

/-- Each constructor gives the first node of a forest and the `later` ones. -/
inductive Outline where
  | done
  | definition (name : Word) (value : LetValue) (later : Outline)
  | dataStep (outputs inputs : TableList) (later : Outline)
  | macroDefinition (name : Word) (contents later : Outline)

namespace Outline

/-- The lines of the printed forest. -/
def statements : Outline → List Statement
  | done => []
  | definition name value later => .definition name value :: later.statements
  | dataStep outputs inputs later => .dataStep outputs inputs :: later.statements
  | macroDefinition name contents later =>
      .opening name :: (contents.statements ++ .closing :: later.statements)

end Outline

/-- One statement per line; `closed` tells whether a line feed ends the last
line too. -/
def printedLines (closed : Bool) : List Statement → List Char
  | [] => []
  | statement :: later =>
      statement.text ++
        (if later.isEmpty && !closed then [] else ['\n'] ++ printedLines closed later)

def Outline.text (outline : Outline) (closed : Bool) : String :=
  String.ofList (printedLines closed outline.statements)

/-- Where the line behind a statement begins. -/
def nextLine (position : Position) (statement : Statement) : Position :=
  (position.advance statement.text).advanceChar '\n'

namespace Outline

/-- The nodes of a forest whose first line begins at `position`. -/
def nodes (position : Position) : Outline → List (Spanned Node)
  | done => []
  | definition name value later =>
      let statement := Statement.definition name value
      ⟨statement.node, position, position.advance statement.text⟩ ::
        later.nodes (nextLine position statement)
  | dataStep outputs inputs later =>
      let statement := Statement.dataStep outputs inputs
      ⟨statement.node, position, position.advance statement.text⟩ ::
        later.nodes (nextLine position statement)
  | macroDefinition name contents later =>
      let inside := nextLine position (.opening name)
      let last := contents.statements.foldl nextLine inside
      ⟨.macroDefinition ⟨name.text, none, none⟩ (contents.nodes inside) true,
          position, last.advance Statement.closing.text⟩ ::
        later.nodes (nextLine last .closing)

/-- The data steps of a forest in document order, each with the line it is on. -/
def flows (position : Position) : Outline → List LineageStatement
  | done => []
  | definition name value later => later.flows (nextLine position (.definition name value))
  | dataStep outputs inputs later =>
      ⟨position.line, .dataStep, inputs.references, outputs.references, none⟩ ::
        later.flows (nextLine position (.dataStep outputs inputs))
  | macroDefinition name contents later =>
      let inside := nextLine position (.opening name)
      let last := contents.statements.foldl nextLine inside
      contents.flows inside ++ later.flows (nextLine last .closing)

end Outline

/-! ## Scanning the lines -/

theorem placeSteps_single (position : Position) (node : Node) (before read rest : List Char)
    (steps : List ScanStep) :
    placeSteps position (.matched ⟨before, read ++ rest⟩
        (.single ⟨before, read ++ rest⟩ node ⟨read.reverse ++ before, rest⟩) :: steps) =
      ⟨node, position, position.advance read⟩ :: placeSteps (position.advance read) steps := by
  have hread := Cursor.textUntil_append before (read.reverse ++ before) read rest
  have hstart := Cursor.textUntil_append before before [] (read ++ rest)
  have hstop := Cursor.textUntil_append (read.reverse ++ before) (read.reverse ++ before) [] rest
  simp only [List.nil_append] at hstart hstop
  simp [placeSteps, ConstructMatch.single, placeItems, hread, hstart, hstop]

/-- The statements as nodes, where the line ends between them are left out. -/
def lineNodes (position : Position) : List Statement → List (Spanned Node)
  | [] => []
  | statement :: later =>
      ⟨statement.node, position, position.advance statement.text⟩ ::
        lineNodes (nextLine position statement) later

theorem foldNodes_newline (span : Span) (nodes : List (Spanned Node)) :
    foldNodes (⟨.newline, span⟩ :: nodes) = foldNodes nodes := by
  simp [foldNodes]

theorem foldNodes_cons_congr (item : Spanned Node) {first second : List (Spanned Node)}
    (h : foldNodes first = foldNodes second) :
    foldNodes (item :: first) = foldNodes (item :: second) := by
  simp only [foldNodes, h]

theorem steps_statement (statement : Statement) {before : List Char}
    (hbefore : Halts isKeywordGlue before) (rest : List Char) :
    Grammar.full.steps ⟨before, statement.text ++ rest⟩ =
      .matched ⟨before, statement.text ++ rest⟩
          (.single ⟨before, statement.text ++ rest⟩ statement.node
            ⟨statement.text.reverse ++ before, rest⟩) ::
        Grammar.full.steps ⟨statement.text.reverse ++ before, rest⟩ :=
  Grammar.steps_of_firstMatch? (statement.firstMatch?_append hbefore rest)

theorem steps_lineFeed (before rest : List Char) :
    Grammar.full.steps ⟨before, ['\n'] ++ rest⟩ =
      .matched ⟨before, ['\n'] ++ rest⟩
          (.single ⟨before, ['\n'] ++ rest⟩ .newline ⟨['\n'].reverse ++ before, rest⟩) ::
        Grammar.full.steps ⟨['\n'].reverse ++ before, rest⟩ :=
  Grammar.steps_of_firstMatch? (Grammar.firstMatch?_lineFeed before rest)

/-- A scan of printed lines takes a step for each statement and each line end. -/
theorem steps_printedLines (closed : Bool) (statements : List Statement) (position : Position)
    {before : List Char} (hbefore : Halts isKeywordGlue before) :
    foldNodes (placeSteps position
        (Grammar.full.steps ⟨before, printedLines closed statements⟩)) =
      foldNodes (lineNodes position statements) ∧
    ∀ step ∈ Grammar.full.steps ⟨before, printedLines closed statements⟩,
      step.isMatch = true := by
  induction statements generalizing position before with
  | nil => simp [printedLines, Grammar.steps_end, placeSteps, lineNodes]
  | cons statement later ih =>
      unfold printedLines lineNodes
      rw [steps_statement statement hbefore, placeSteps_single]
      by_cases hlast : (later.isEmpty && !closed) = true
      · have hempty : later = [] := List.isEmpty_iff.1 (Bool.and_eq_true_iff.1 hlast).1
        rw [if_pos hlast, Grammar.steps_end, hempty]
        simp [placeSteps, lineNodes, ScanStep.isMatch]
      · have hfeed : Halts isKeywordGlue ('\n' :: (statement.text.reverse ++ before)) := by
          rw [halts_cons]
          decide +kernel
        obtain ⟨hnodes, hsteps⟩ := ih (nextLine position statement) hfeed
        have hline := steps_lineFeed (statement.text.reverse ++ before)
          (printedLines closed later)
        rw [if_neg hlast, hline]
        constructor
        · apply foldNodes_cons_congr
          rw [placeSteps_single, foldNodes_newline]
          exact hnodes
        · intro step hstep
          simp only [List.mem_cons] at hstep
          rcases hstep with rfl | rfl | hstep
          · rfl
          · rfl
          · exact hsteps step hstep

/-! ## Folding the lines -/

def FoldedNodes.prepend (items : List (Spanned Node)) (folded : FoldedNodes) : FoldedNodes :=
  ⟨items ++ folded.leading, folded.closings⟩

/-- The lines of a forest fold to its nodes, whatever lines follow. -/
theorem foldNodes_lineNodes (outline : Outline) (position : Position) (later : List Statement) :
    foldNodes (lineNodes position (outline.statements ++ later)) =
      (foldNodes (lineNodes (outline.statements.foldl nextLine position) later)).prepend
        (outline.nodes position) := by
  induction outline generalizing position later with
  | done => rfl
  | definition name value rest ih =>
      have hrest := ih (nextLine position (.definition name value)) later
      simp only [Outline.statements, List.cons_append, lineNodes, Statement.node, foldNodes,
        hrest, List.foldl_cons]
      rfl
  | dataStep outputs inputs rest ih =>
      have hrest := ih (nextLine position (.dataStep outputs inputs)) later
      simp only [Outline.statements, List.cons_append, lineNodes, Statement.node, foldNodes,
        hrest, List.foldl_cons]
      rfl
  | macroDefinition name contents rest ihContents ih =>
      have hcontents := ihContents (nextLine position (.opening name))
        (.closing :: (rest.statements ++ later))
      have hrest := ih (nextLine (contents.statements.foldl nextLine
        (nextLine position (.opening name))) .closing) later
      simp only [Outline.statements, List.cons_append, List.append_assoc, lineNodes,
        Statement.node, foldNodes, hcontents, hrest, List.foldl_cons, List.foldl_append]
      simp [FoldedNodes.prepend, FoldedNodes.close, FoldedNodes.enclose, Outline.nodes,
        MacroStart.heading, Span.covering]

theorem foldMacros_lineNodes (outline : Outline) (position : Position) :
    (foldNodes (lineNodes position outline.statements)).toList = outline.nodes position := by
  have hfolded := foldNodes_lineNodes outline position []
  rw [List.append_nil] at hfolded
  rw [hfolded]
  simp [lineNodes, foldNodes, FoldedNodes.prepend, FoldedNodes.empty, FoldedNodes.toList]

/-! ## Coverage and lineage -/

theorem ScanCounts.rate_of_nothing_skipped {counts : ScanCounts} (h : counts.skipped = 0) :
    counts.rate = "100.00%" := by
  have hquotient (total : Nat) (htotal : total ≠ 0) :
      Decimal.quotient 0 total = ⟨0, Decimal.maxPlaces⟩ := by
    have hzero : divideHalfEven 0 total = 0 := by
      have hpositive : 0 < total := Nat.pos_of_ne_zero htotal
      simp [divideHalfEven, hpositive]
    have hbound : 0 < Decimal.coefficientBound := by decide
    simp [Decimal.quotient, Decimal.maxPlaces, Decimal.quotientWithin, hzero, hbound]
  have hpercentage : counts.percentage = ⟨10000, 2⟩ := by
    unfold percentage coverage
    by_cases htotal : counts.total = 0
    · rw [if_pos htotal]
      decide
    · rw [if_neg htotal, h, hquotient counts.total htotal]
      decide +kernel
  unfold rate
  rw [hpercentage]
  decide +kernel

theorem documentStatements_nodes (outline : Outline) (position : Position) :
    documentStatements (outline.nodes position) = outline.flows position := by
  induction outline generalizing position with
  | done => simp [Outline.nodes, Outline.flows, documentStatements]
  | definition name value later ih =>
      simp [Outline.nodes, Outline.flows, documentStatements, Statement.node, ih]
  | dataStep outputs inputs later ih =>
      simp [Outline.nodes, Outline.flows, documentStatements, Statement.node, ih]
  | macroDefinition name contents later ihContents ih =>
      simp [Outline.nodes, Outline.flows, documentStatements, ihContents, ih]

/-- A printed outline is read back as the forest it was printed from, and no
character of it is skipped. -/
theorem parse_printed_outline (outline : Outline) (closed : Bool) (name : Option String) :
    let program := Program.parse .full (outline.text closed) name
    program.contents = outline.nodes .start ∧
      program.counts.rate = "100.00%" ∧
      program.counts.skipped = 0 ∧
      program.lineage = .reference (outline.flows .start) := by
  intro program
  have hstart : Halts isKeywordGlue [] := halts_nil _
  have hlines := steps_printedLines closed outline.statements .start hstart
  have hcursor : Cursor.ofText (outline.text closed) =
      ⟨[], printedLines closed outline.statements⟩ := by
    simp [Cursor.ofText, Outline.text]
  rw [← hcursor] at hlines
  have hcontents : program.contents = outline.nodes .start := by
    change (foldNodes (placeSteps .start _)).toList = _
    rw [hlines.1, foldMacros_lineNodes]
  have hskipped : program.counts.skipped = 0 := by
    change List.countP _ _ = 0
    rw [List.countP_eq_zero]
    intro step hstep
    simp [hlines.2 step hstep]
  refine ⟨hcontents, ScanCounts.rate_of_nothing_skipped hskipped, hskipped, ?_⟩
  unfold Program.lineage LineageGraph.ofNodes
  rw [hcontents, LineageGraph.addNodes_eq, documentStatements_nodes,
    LineageGraph.foldl_addStatement_reference]

end SasOutline
