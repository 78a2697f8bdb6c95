import SasOutline.Proofs.ConstructsBehindText
import SasOutline.Proofs.MacroFreeGrammar
import SasOutline.Proofs.RuleChoice

/-!
# Scans of a text behind blanks

Blanks in front of a text are read one by one.  A line feed yields a node of its own, a
space or a tab yields nothing, and behind them the scan takes the steps it takes without
them.  Of a position only the line is moved, and the column where no line feed of the text
itself stands in front of it.
-/

namespace SasOutline

/-! ## Positions -/

namespace Position

/-- The position in a text that begins `lines` lines later and `columns` columns to the
right. -/
def shiftedBy (lines columns : Nat) (position : Position) : Position :=
  ⟨position.line + lines, if position.line = 1 then position.column + columns else position.column⟩

theorem advanceChar_shiftedBy (lines columns : Nat) {position : Position}
    (hline : 1 ≤ position.line) (ch : Char) :
    (position.shiftedBy lines columns).advanceChar ch =
      (position.advanceChar ch).shiftedBy lines columns := by
  have hnext : position.line + 1 ≠ 1 := by omega
  by_cases hfeed : ch = '\n'
  · simp only [advanceChar, shiftedBy, if_pos hfeed, if_neg hnext, mk.injEq, and_true]
    omega
  · simp only [advanceChar, shiftedBy, if_neg hfeed, mk.injEq, true_and]
    split
    · omega
    · rfl

theorem advance_shiftedBy (lines columns : Nat) {position : Position}
    (hline : 1 ≤ position.line) (text : List Char) :
    (position.shiftedBy lines columns).advance text =
      (position.advance text).shiftedBy lines columns := by
  induction text generalizing position with
  | nil => rfl
  | cons ch text ih =>
      have hnext : 1 ≤ (position.advanceChar ch).line := by
        have hcount := position.line_advance [ch]
        rw [advance_cons, advance_nil] at hcount
        omega
      rw [advance_cons, advance_cons, advanceChar_shiftedBy lines columns hline, ih hnext]

end Position

/-- The number of characters behind the last line feed. -/
def lastLineLength (text : List Char) : Nat :=
  (text.reverse.takeWhile (· != '\n')).length

namespace Position

theorem advance_start (text : List Char) :
    start.advance text = start.shiftedBy (text.count '\n') (lastLineLength text) := by
  induction text using List.reverseRecOn with
  | nil => rfl
  | append_singleton text ch ih =>
      rw [advance_append, ih, advance_cons, advance_nil, List.count_append]
      by_cases hfeed : ch = '\n'
      · simp [hfeed, advanceChar, shiftedBy, start, lastLineLength]
        omega
      · simp [hfeed, advanceChar, shiftedBy, start, lastLineLength]

/-- A text in front shifts the positions behind it by its lines and by the length of its
last line. -/
theorem advance_start_append (front text : List Char) :
    start.advance (front ++ text) =
      (start.advance text).shiftedBy (front.count '\n') (lastLineLength front) := by
  rw [advance_append, advance_start front, advance_shiftedBy _ _ (Nat.le_refl 1)]

end Position

def Span.shiftedBy (lines columns : Nat) (span : Span) : Span :=
  ⟨span.start.shiftedBy lines columns, span.stop.shiftedBy lines columns⟩

def Spanned.shiftedBy (lines columns : Nat) (item : Spanned Node) : Spanned Node :=
  ⟨item.node, item.span.shiftedBy lines columns⟩

theorem MatchItem.placed_behind (front : List Char) (item : MatchItem) :
    (item.behind front.reverse).placed =
      item.placed.shiftedBy (front.count '\n') (lastLineLength front) := by
  have hposition (cursor : Cursor) : (cursor.behind front.reverse).position =
      cursor.position.shiftedBy (front.count '\n') (lastLineLength front) := by
    simp only [Cursor.position, Cursor.behind, List.reverse_append, List.reverse_reverse,
      Position.advance_start_append]
  simp only [placed, MatchItem.behind, hposition]
  rfl

/-! ## Steps -/

def ScanStep.behind (before : List Char) : ScanStep → ScanStep
  | .matched start found => .matched (start.behind before) (found.behind before)
  | .skipped ch => .skipped ch

namespace Grammar

theorem steps_behind {before : List Char} (hbefore : EndsWord before) (grammar : Grammar)
    (cursor : Cursor) :
    grammar.steps (cursor.behind before) = (grammar.steps cursor).map (ScanStep.behind before) := by
  fun_induction steps grammar cursor with
  | case1 cursor found hfound ih =>
      have hbehind : grammar.firstMatch? (cursor.behind before) = some (found.behind before) := by
        rw [firstMatch?_behind hbefore, hfound]
        rfl
      rw [steps_of_firstMatch? hbehind]
      exact congrArg _ ih
  | case2 cursor hnone ch after hbump ih =>
      have hbehind : grammar.firstMatch? (cursor.behind before) = none := by
        rw [firstMatch?_behind hbefore, hnone]
        rfl
      have hstep : (cursor.behind before).bump? = some (ch, after.behind before) := by
        rw [Cursor.bump?_behind, hbump]
        rfl
      rw [steps_of_bump? hbehind hstep]
      exact congrArg _ ih
  | case3 cursor hnone hbump =>
      obtain ⟨read, rest⟩ := cursor
      obtain rfl : rest = [] := Cursor.bump?_eq_none hbump
      exact steps_end _

theorem itemsFrom_behind {before : List Char} (hbefore : EndsWord before) (grammar : Grammar)
    (cursor : Cursor) :
    grammar.itemsFrom (cursor.behind before) =
      (grammar.itemsFrom cursor).map (MatchItem.behind before) := by
  have hfound (step : ScanStep) :
      (step.behind before).found? = step.found?.map (ConstructMatch.behind before) := by
    cases step <;> rfl
  unfold itemsFrom
  rw [steps_behind hbefore, List.filterMap_map, List.map_flatMap]
  simp only [Function.comp_def, hfound, ← List.map_filterMap, List.flatMap_map]
  rfl

/-- The nodes of a text behind another one are its own nodes, shifted. -/
theorem placeSteps_behind {front : List Char} (hfront : EndsWord front.reverse)
    (grammar : Grammar) (text : String) :
    placeSteps (Position.start.advance front)
        (grammar.steps ((Cursor.ofText text).behind front.reverse)) =
      (grammar.scan text).nodes.map
        (Spanned.shiftedBy (front.count '\n') (lastLineLength front)) := by
  have hposition : Position.start.advance front =
      ((Cursor.ofText text).behind front.reverse).position := by
    simp [Cursor.position, Cursor.behind, Cursor.ofText]
  rw [hposition, placeSteps_eq, itemsFrom_behind hfront, scan_nodes_eq, List.map_map, List.map_map]
  exact List.map_congr_left fun item _ => item.placed_behind front

end Grammar

theorem ScanStep.isMatch_behind (before : List Char) :
    ScanStep.isMatch ∘ ScanStep.behind before = ScanStep.isMatch := by
  funext step
  cases step <;> rfl

theorem ScanStep.matchedLength_behind (before : List Char) (step : ScanStep) :
    (step.behind before).matchedLength = step.matchedLength := by
  cases step <;> rfl

/-! ## Blanks -/

/-- The text consists of spaces, tabs and line feeds.  Not every blank will do: a carriage
return in front of a line feed belongs to the line end. -/
def IsLayout (text : List Char) : Prop := ∀ ch ∈ text, ch = ' ' ∨ ch = '\t' ∨ ch = '\n'

instance (text : List Char) : Decidable (IsLayout text) :=
  List.decidableBAll _ text

theorem IsLayout.isBlank {text : List Char} (h : IsLayout text) : IsBlank text := by
  intro ch hch
  rcases h ch hch with rfl | rfl | rfl
  · decide
  · decide
  · decide

/-- The step that reads a space, a tab or a line feed. -/
def blankStep (before : List Char) (ch : Char) (rest : List Char) : ScanStep :=
  if ch = '\n' then
    .matched ⟨before, '\n' :: rest⟩ (.single ⟨before, '\n' :: rest⟩ .newline ⟨'\n' :: before, rest⟩)
  else .skipped ch

def blankSteps (rest : List Char) : (before blanks : List Char) → List ScanStep
  | _, [] => []
  | before, ch :: blanks =>
      blankStep before ch (blanks ++ rest) :: blankSteps rest (ch :: before) blanks

/-- The nodes of the line feeds of a text that begins at a position. -/
def lineEndNodes (position : Position) : List Char → List (Spanned Node)
  | [] => []
  | ch :: text =>
      let later := lineEndNodes (position.advanceChar ch) text
      if ch = '\n' then ⟨.newline, ⟨position, position.advanceChar ch⟩⟩ :: later else later

theorem lineEndNodes_newlines (position : Position) (text : List Char) :
    (lineEndNodes position text).map Spanned.node =
      List.replicate (text.count '\n') .newline := by
  induction text generalizing position with
  | nil => rfl
  | cons ch text ih =>
      by_cases hfeed : ch = '\n'
      · simp [lineEndNodes, hfeed, ih, List.replicate_succ]
      · simp [lineEndNodes, hfeed, ih]

namespace Grammar

theorem firstMatch?_space {ch : Char} (hch : ch = ' ' ∨ ch = '\t') (before rest : List Char) :
    full.firstMatch? ⟨before, ch :: rest⟩ = none := by
  have hpercent : ch ≠ '%' := by rcases hch with rfl | rfl <;> decide
  have hmark : ch ∉ ['\n', '\r', '*', '/'] := by rcases hch with rfl | rfl <;> decide
  have hletter : ch.toLower ∉ ['d', 'p', 'l'] := by rcases hch with rfl | rfl <;> decide
  have hlower : ch.toLower ≠ '%'.toLower := by rcases hch with rfl | rfl <;> decide
  have hlet : (⟨before, ch :: rest⟩ : Cursor).macroVariableDefinition? = none := by
    have hword : (⟨before, ch :: rest⟩ : Cursor).keyword? "%let" = none :=
      Cursor.letters?_other Char.toLower (rfl : "%let".toList.head? = some '%') hlower
    simp [Cursor.macroVariableDefinition?, hword]
  have hinclude : (⟨before, ch :: rest⟩ : Cursor).inclusion? = none := by
    have hword : (⟨before, ch :: rest⟩ : Cursor).keyword? "%include" = none :=
      Cursor.letters?_other Char.toLower (rfl : "%include".toList.head? = some '%') hlower
    simp [Cursor.inclusion?, hword]
  have hshort : withoutMacros.firstMatch? ⟨before, ch :: rest⟩ = none := by
    unfold firstMatch?
    rw [List.findSome?_eq_none_iff]
    rintro ⟨name, construct⟩ hrule
    have hread := withoutMacros_other hmark hletter hlet hinclude _ hrule
    simp only [hread, Option.filter_none]
  have hadded : macroStatements.firstMatch? ⟨before, ch :: rest⟩ = none := by
    rw [Option.eq_none_iff_forall_not_mem]
    intro found hfound
    exact hpercent (Option.some.inj (percent_of_macroStatements hfound))
  rw [firstMatch?_full, hshort, hadded]
  rfl

theorem steps_blank {ch : Char} (hch : ch = ' ' ∨ ch = '\t' ∨ ch = '\n')
    (before rest : List Char) :
    full.steps ⟨before, ch :: rest⟩ =
      blankStep before ch rest :: full.steps ⟨ch :: before, rest⟩ := by
  by_cases hfeed : ch = '\n'
  · subst hfeed
    exact steps_of_firstMatch? (firstMatch?_lineFeed before rest)
  · have hspace : ch = ' ' ∨ ch = '\t' := by tauto
    have hbump : (⟨before, ch :: rest⟩ : Cursor).bump? = some (ch, ⟨ch :: before, rest⟩) := rfl
    rw [steps_of_bump? (firstMatch?_space hspace before rest) hbump, blankStep, if_neg hfeed]

/-- A scan reads the blanks one by one, whatever stands around them. -/
theorem steps_blanks {blanks : List Char} (hblanks : IsLayout blanks) (before rest : List Char) :
    full.steps ⟨before, blanks ++ rest⟩ =
      blankSteps rest before blanks ++ full.steps ⟨blanks.reverse ++ before, rest⟩ := by
  induction blanks generalizing before with
  | nil => rfl
  | cons ch blanks ih =>
      obtain ⟨hch, hlater⟩ := List.forall_mem_cons.1 hblanks
      have hrest : full.steps ⟨ch :: before, blanks ++ rest⟩ =
          blankSteps rest (ch :: before) blanks ++
            full.steps ⟨(ch :: blanks).reverse ++ before, rest⟩ := by
        rw [ih hlater, List.reverse_cons, List.append_assoc, List.singleton_append]
      rw [List.cons_append, steps_blank hch, hrest]
      rfl

end Grammar

theorem placeSteps_blankSteps (position : Position) (before blanks rest : List Char)
    (steps : List ScanStep) :
    placeSteps position (blankSteps rest before blanks ++ steps) =
      lineEndNodes position blanks ++ placeSteps (position.advance blanks) steps := by
  induction blanks generalizing position before with
  | nil => rfl
  | cons ch blanks ih =>
      by_cases hfeed : ch = '\n'
      · simp [blankSteps, blankStep, placeSteps, placeItems, lineEndNodes, ConstructMatch.single,
          Cursor.textUntil, Cursor.remaining, hfeed, ih]
      · simp [blankSteps, blankStep, placeSteps, lineEndNodes, hfeed, ih]

theorem countP_blankSteps (before blanks rest : List Char) :
    (blankSteps rest before blanks).countP ScanStep.isMatch = blanks.count '\n' := by
  have hmatch (before : List Char) (ch : Char) (rest : List Char) :
      (blankStep before ch rest).isMatch = (ch == '\n') := by
    unfold blankStep
    split <;> simp_all
  induction blanks generalizing before with
  | nil => rfl
  | cons ch blanks ih => simp [blankSteps, List.countP_cons, List.count_cons, hmatch, ih]

theorem matchedLength_blankSteps (before blanks rest : List Char) (count : Nat) :
    (blankSteps rest before blanks).foldr (fun step count => step.matchedLength + count) count =
      blanks.count '\n' + count := by
  have hlength (before : List Char) (ch : Char) (rest : List Char) :
      (blankStep before ch rest).matchedLength = if ch == '\n' then 1 else 0 := by
    unfold blankStep
    split <;> simp_all [ConstructMatch.single, Cursor.textUntil, Cursor.remaining]
  induction blanks generalizing before with
  | nil => simp [blankSteps]
  | cons ch blanks ih =>
      simp only [blankSteps, List.foldr_cons, hlength, ih, List.count_cons]
      omega

namespace Grammar

theorem steps_blanks_append {blanks : String} (hblanks : IsLayout blanks.toList) (text : String) :
    full.steps (.ofText (blanks ++ text)) =
      blankSteps text.toList [] blanks.toList ++
        full.steps ((Cursor.ofText text).behind blanks.toList.reverse) := by
  have hread := steps_blanks hblanks [] text.toList
  simpa [Cursor.ofText, Cursor.behind] using hread

/-- Spaces, tabs and line feeds in front of a text yield one node for each line feed.  The
nodes of the text follow them, shifted by the lines and, on its first line, by the columns
behind the last line feed.  The line feeds count as matched, the other blanks as skipped. -/
theorem scan_blanks_append (blanks text : String) (hblanks : IsLayout blanks.toList) :
    (full.scan (blanks ++ text)).nodes =
        lineEndNodes .start blanks.toList ++ (full.scan text).nodes.map
          (Spanned.shiftedBy (blanks.toList.count '\n') (lastLineLength blanks.toList)) ∧
      (lineEndNodes .start blanks.toList).map Spanned.node =
        List.replicate (blanks.toList.count '\n') .newline ∧
      (full.scan (blanks ++ text)).counts.matched =
        (full.scan text).counts.matched + blanks.toList.count '\n' ∧
      (full.scan (blanks ++ text)).counts.matchCount =
        (full.scan text).counts.matchCount + blanks.toList.count '\n' ∧
      (full.scan (blanks ++ text)).counts.skipped =
        (full.scan text).counts.skipped + (blanks.length - blanks.toList.count '\n') := by
  have hends : EndsWord blanks.toList.reverse := by
    simpa using endsWord_nil.blanks hblanks.isBlank
  have hmatched : (full.scan (blanks ++ text)).counts.matched =
      (full.scan text).counts.matched + blanks.toList.count '\n' := by
    simp only [scan, steps_blanks_append hblanks, List.foldr_append, matchedLength_blankSteps,
      steps_behind hends, List.foldr_map, ScanStep.matchedLength_behind]
    omega
  refine ⟨?_, lineEndNodes_newlines _ _, hmatched, ?_, ?_⟩
  · simp only [scan, steps_blanks_append hblanks, placeSteps_blankSteps, placeSteps_behind hends]
  · simp only [scan, steps_blanks_append hblanks, List.countP_append, countP_blankSteps,
      steps_behind hends, List.countP_map, ScanStep.isMatch_behind]
    omega
  · -- Every character is matched or skipped, in both scans.
    have hcomplete := (full.scan_accounts text).complete
    have hcomplete' := (full.scan_accounts (blanks ++ text)).complete
    have htotal : (full.scan (blanks ++ text)).counts.total =
        blanks.length + (full.scan text).counts.total := String.length_append _ _
    have hfeeds : blanks.toList.count '\n' ≤ blanks.length := by
      rw [← String.length_toList]
      exact List.count_le_length
    omega

theorem scan_blanks_append_of_lines :
    IsLayout " \n\n\t ".toList ∧
      (full.scan "%load;").nodes =
        [⟨.macroCall ⟨.ofLiteral "load", none⟩, ⟨⟨1, 0⟩, ⟨1, 6⟩⟩⟩] ∧
      (full.scan (" \n\n\t " ++ "%load;")).nodes =
        [⟨.newline, ⟨⟨1, 1⟩, ⟨2, 0⟩⟩⟩, ⟨.newline, ⟨⟨2, 0⟩, ⟨3, 0⟩⟩⟩,
          ⟨.macroCall ⟨.ofLiteral "load", none⟩, ⟨⟨3, 2⟩, ⟨3, 8⟩⟩⟩] := by
  have hblanks : IsLayout " \n\n\t ".toList := by decide
  have hload : (full.scan "%load;").nodes =
      [⟨.macroCall ⟨.ofLiteral "load", none⟩, ⟨⟨1, 0⟩, ⟨1, 6⟩⟩⟩] := by decide +kernel
  refine ⟨hblanks, hload, ?_⟩
  rw [(scan_blanks_append " \n\n\t " "%load;" hblanks).1, hload]
  decide

end Grammar

end SasOutline
