import SasOutline.Proofs.ProcedureParts

/-!
# The order of the options

A procedure step names its input first and its outputs behind it.  An `out=` option in front
of the input is passed over by the search for the input, so the step is read without it: the
order of the two options decides whether the output is known.
-/

namespace SasOutline

def inputOption (table : TableName) : List Char := "data".toList ++ '=' :: table.text

def outputOption (table : TableName) : List Char := "out".toList ++ '=' :: table.text

/-- A procedure with two options and the text behind them. -/
def twoOptions (kind : Word) (first second tail : List Char) : List Char :=
  "proc".toList ++ ' ' :: (kind.text.toList ++ ' ' :: (first ++ ' ' :: (second ++ tail)))

/-- The further statements of a step: the text begins with the end of the first statement and
holds no option. -/
structure FurtherStatements where
  text : List Char
  starts : text.head? = some ';'
  ends : EndsDelimited text
  inputless : (Cursor.mk [] text).find? Pattern.dataOption = none
  outputless : (Cursor.mk [] text).find? Pattern.outOption = none

def FurtherStatements.filler (further : FurtherStatements) : Filler where
  text := further.text
  starts := by
    rw [further.starts]
    rfl
  ends := further.ends
  closed := by
    obtain ⟨more, htext⟩ := List.head?_eq_some_iff.mp further.starts
    rw [htext, Cursor.skipSpace_of_halts (Cursor.halts_space_semicolon more)]
    simp [Cursor.peek]
  outputless := further.outputless

def blankFiller : Filler where
  text := [' ']
  starts := by decide
  ends := by decide
  closed := by decide
  outputless := by decide +kernel

/-! ## An output in front of the input -/

/-- The search for the input passes over the output. -/
theorem find?_dataOption_outputOption (table : TableName) :
    (Cursor.mk [] (' ' :: (outputOption table ++ [' ']))).find? Pattern.dataOption = none := by
  have hname : '=' ∉ table.text := table.not_mem_text (by decide) (by decide)
  have hrest : '=' ∉ table.text ++ [' '] := by simp [hname]
  have hwritten : ' ' :: (outputOption table ++ [' ']) =
      " out=".toList ++ (table.text ++ [' ']) := by
    simp [outputOption]
  have hpast : Cursor.findFrom Pattern.dataOption [] (" out=".toList ++ (table.text ++ [' '])) =
      (Cursor.mk " out=".toList.reverse (table.text ++ [' '])).find? Pattern.dataOption :=
    Pattern.findFrom_assigned_read (rfl : "data".toList.head? = some 'd') (by decide) [] _
  rw [hwritten]
  exact hpast.trans (Pattern.find?_assigned_eq_none "data" hrest)

section Orders

variable (kind : Word) (hkind : equalIgnoringCase kind.text "sql" = false)
  (input output : TableName) (further : FurtherStatements)

def inputFirst : ProcedureStatement where
  kind := kind
  opening := [' ']
  input := input
  following := blankFiller
  outputs := [⟨output, further.filler⟩]
  other_kind := hkind
  opening_starts := by decide
  opening_ends := by decide
  opening_inputless := by decide +kernel

def outputFirst : ProcedureStatement where
  kind := kind
  opening := ' ' :: (outputOption output ++ [' '])
  input := input
  following := further.filler
  outputs := []
  other_kind := hkind
  opening_starts := (by decide : isWhiteSpace ' ' = true)
  opening_ends := EndsDelimited.append (by decide) (by decide) (' ' :: outputOption output)
  opening_inputless := find?_dataOption_outputOption output

theorem inputFirst_text : (inputFirst kind hkind input output further).text =
    twoOptions kind (inputOption input) (outputOption output) further.text := by
  simp [ProcedureStatement.text, ProcedureStatement.options, inputFirst, twoOptions, inputOption,
    outputOption, blankFiller, OutputOption.text, FurtherStatements.filler]

theorem outputFirst_text : (outputFirst kind hkind input output further).text =
    twoOptions kind (outputOption output) (inputOption input) further.text := by
  simp [ProcedureStatement.text, ProcedureStatement.options, outputFirst, twoOptions, inputOption,
    outputOption, FurtherStatements.filler]

end Orders

/-- In both orders the step is read with its kind and its input.  Its output is read behind
the input and lost in front of it. -/
theorem Grammar.firstMatch?_twoOptions {before : List Char} (hbefore : Halts isKeywordGlue before)
    (kind : Word) (hkind : equalIgnoringCase kind.text "sql" = false) (input output : TableName)
    (further : FurtherStatements)
    (hinputFirst : (Cursor.mk [] (twoOptions kind (inputOption input) (outputOption output)
      further.text)).find? Pattern.stepEnd = none)
    (houtputFirst : (Cursor.mk [] (twoOptions kind (outputOption output) (inputOption input)
      further.text)).find? Pattern.stepEnd = none) (suffix : List Char) :
    let inputFirst :=
      twoOptions kind (inputOption input) (outputOption output) further.text ++ "run;".toList
    let outputFirst :=
      twoOptions kind (outputOption output) (inputOption input) further.text ++ "run;".toList
    full.firstMatch? ⟨before, inputFirst ++ suffix⟩ =
        some (.single ⟨before, inputFirst ++ suffix⟩
          (.procedure ⟨lowerCase kind.text, [input.reference], [output.reference]⟩)
          ⟨inputFirst.reverse ++ before, suffix⟩) ∧
      full.firstMatch? ⟨before, outputFirst ++ suffix⟩ =
        some (.single ⟨before, outputFirst ++ suffix⟩
          (.procedure ⟨lowerCase kind.text, [input.reference], []⟩)
          ⟨outputFirst.reverse ++ before, suffix⟩) := by
  intro first second
  have hrun : "run" ∈ Pattern.stepEndWords := List.mem_cons_self
  rw [← inputFirst_text kind hkind] at hinputFirst
  rw [← outputFirst_text kind hkind] at houtputFirst
  have hfirst := (inputFirst kind hkind input output further).procedure?_append hinputFirst hrun
    hbefore suffix
  have hsecond := (outputFirst kind hkind input output further).procedure?_append houtputFirst hrun
    hbefore suffix
  rw [inputFirst_text] at hfirst
  rw [outputFirst_text] at hsecond
  have hwritten (text : List Char) :
      text ++ "run;".toList ++ suffix = text ++ ("run".toList ++ ';' :: suffix) :=
    List.append_assoc _ _ _
  constructor
  · rw [hwritten]
    exact firstMatch?_of_procedure? hfirst
  · rw [hwritten]
    exact firstMatch?_of_procedure? hsecond

/-- One further statement, which mentions both options without setting them. -/
def byStatement : FurtherStatements where
  text := "; by data out;\n".toList
  starts := by decide
  ends := by decide
  inputless := by decide +kernel
  outputless := by decide +kernel

def rankName : Word := ⟨"Rank", by decide⟩

def stagedTable : TableName := ⟨some ⟨"stage", by decide⟩, ⟨"outset", by decide⟩⟩

def databaseTable : TableName := ⟨none, ⟨"database", by decide⟩⟩

theorem Grammar.firstMatch?_twoOptions_of_by :
    equalIgnoringCase rankName.text "sql" = false ∧
      (Cursor.mk [] (twoOptions rankName (inputOption stagedTable) (outputOption databaseTable)
        byStatement.text)).find? Pattern.stepEnd = none ∧
      (Cursor.mk [] (twoOptions rankName (outputOption databaseTable) (inputOption stagedTable)
        byStatement.text)).find? Pattern.stepEnd = none ∧
      (full.firstMatch?
          (.ofText "proc Rank data=stage.outset out=database; by data out;\nrun; x")).map
        (fun found => (found.items.map MatchItem.node, found.rest.rest)) =
      some ([.procedure ⟨"rank", [stagedTable.reference], [databaseTable.reference]⟩],
        " x".toList) ∧
      (full.firstMatch?
          (.ofText "proc Rank out=database data=stage.outset; by data out;\nrun; x")).map
        (fun found => (found.items.map MatchItem.node, found.rest.rest)) =
      some ([.procedure ⟨"rank", [stagedTable.reference], []⟩], " x".toList) := by
  have hkind : equalIgnoringCase rankName.text "sql" = false := by decide
  have hinputFirst : (Cursor.mk [] (twoOptions rankName (inputOption stagedTable)
      (outputOption databaseTable) byStatement.text)).find? Pattern.stepEnd = none := by
    decide +kernel
  have houtputFirst : (Cursor.mk [] (twoOptions rankName (outputOption databaseTable)
      (inputOption stagedTable) byStatement.text)).find? Pattern.stepEnd = none := by
    decide +kernel
  have hlower : lowerCase rankName.text = "rank" := by decide
  obtain ⟨hfirst, hsecond⟩ := Grammar.firstMatch?_twoOptions (halts_nil _) rankName hkind
    stagedTable databaseTable byStatement hinputFirst houtputFirst " x".toList
  rw [hlower] at hfirst hsecond
  exact ⟨hkind, hinputFirst, houtputFirst, congrArg _ hfirst, congrArg _ hsecond⟩

/-- The two orders do not give the same outputs: one of them gives none. -/
theorem Grammar.order_of_options_matters :
    ¬∀ (kind : Word) (input output : TableName) (further : FurtherStatements),
      equalIgnoringCase kind.text "sql" = false →
      (Cursor.mk [] (twoOptions kind (inputOption input) (outputOption output)
        further.text)).find? Pattern.stepEnd = none →
      (Cursor.mk [] (twoOptions kind (outputOption output) (inputOption input)
        further.text)).find? Pattern.stepEnd = none →
      ∃ name, ∀ text ∈ [twoOptions kind (inputOption input) (outputOption output) further.text,
          twoOptions kind (outputOption output) (inputOption input) further.text],
        (full.firstMatch? ⟨[], text ++ "run;".toList⟩).map
          (fun found => found.items.map MatchItem.node) =
        some [.procedure ⟨name, [input.reference], [output.reference]⟩] := by
  intro hall
  obtain ⟨name, hread⟩ := hall rankName stagedTable databaseTable byStatement (by decide)
    (by decide +kernel) (by decide +kernel)
  have hlost : (full.firstMatch? ⟨[], twoOptions rankName (outputOption databaseTable)
      (inputOption stagedTable) byStatement.text ++ "run;".toList⟩).map
        (fun found => found.items.map MatchItem.node) =
      some [.procedure ⟨"rank", [stagedTable.reference], []⟩] := by
    decide +kernel
  have hsame := hlost.symm.trans (hread _ (List.mem_cons_of_mem _ List.mem_cons_self))
  simp at hsame

end SasOutline
