import SasOutline.Proofs.MarkedWords
import SasOutline.Proofs.RuleChoice
import SasOutline.Proofs.TableNames

/-!
# The parts of a procedure step

A procedure step is read by three searches through the rest of the text: for the word that
ends the step, for `data=`, and for each `out=` behind it.  The options may be spread over
several statements.  Where the text between them holds neither of the options and ends in a
blank or a semicolon, the searches find the options that the step was written with, whatever
the tables are called and whatever follows the step.
-/

namespace SasOutline

/-! ## The text of a step -/

/-- What stands behind a table: text between delimiters without a further output.  It opens no
parenthesis, which would belong to the table. -/
structure Filler where
  text : List Char
  starts : text.head?.any isDelimiter = true
  ends : EndsDelimited text
  closed : (Cursor.mk [] text).skipSpace.peek ≠ some '('
  outputless : (Cursor.mk [] text).find? Pattern.outOption = none

/-- An `out=` option with the text behind it. -/
structure OutputOption where
  table : TableName
  following : Filler

def OutputOption.text (output : OutputOption) : List Char :=
  "out".toList ++ '=' :: (output.table.text ++ output.following.text)

def OutputOption.reference (output : OutputOption) : DatasetReference := output.table.reference

/-- A step up to the word that ends it. -/
structure ProcedureStatement where
  kind : Word
  opening : List Char
  input : TableName
  following : Filler
  outputs : List OutputOption
  other_kind : equalIgnoringCase kind.text "sql" = false
  opening_starts : opening.head?.any isWhiteSpace = true
  opening_ends : EndsDelimited opening
  opening_inputless : (Cursor.mk [] opening).find? Pattern.dataOption = none

namespace ProcedureStatement

/-- The text from the input on. -/
def options (statement : ProcedureStatement) : List Char :=
  "data".toList ++ '=' :: (statement.input.text ++
    (statement.following.text ++ statement.outputs.flatMap OutputOption.text))

def text (statement : ProcedureStatement) : List Char :=
  "proc".toList ++ ' ' :: (statement.kind.text.toList ++ (statement.opening ++ statement.options))

def procedure (statement : ProcedureStatement) : Procedure :=
  ⟨lowerCase statement.kind.text, [statement.input.reference],
    statement.outputs.map OutputOption.reference⟩

end ProcedureStatement

/-! ## What stands behind a table -/

theorem startsName_stepEnd {word : String} (hword : word ∈ Pattern.stepEndWords)
    (rest : List Char) : StartsName (word.toList ++ rest) := by
  rcases List.mem_pair.mp hword with rfl | rfl
  · rfl
  · rfl

theorem startsName_outputs (outputs : List OutputOption) {rest : List Char}
    (hrest : StartsName rest) : StartsName (outputs.flatMap OutputOption.text ++ rest) := by
  cases outputs with
  | nil => exact hrest
  | cons output outputs => rfl

theorem Filler.endsTable (filler : Filler) {rest : List Char} (hrest : StartsName rest) :
    EndsTable (filler.text ++ rest) := by
  constructor
  · obtain ⟨ch, hhead, hch⟩ := (Option.any_eq_true _ _).mp filler.starts
    obtain ⟨more, htext⟩ := List.head?_eq_some_iff.mp hhead
    exact ⟨ch, more ++ rest, by rw [htext, List.cons_append], delimiter_ends_name hch⟩
  · intro before hopened
    rw [Cursor.peek_skipSpace_append before [], Cursor.peek_skipSpace_of_startsName hrest,
      Option.or_eq_some_iff] at hopened
    rcases hopened with hinside | ⟨-, hbehind⟩
    · exact filler.closed hinside
    · exact hrest.head?_ne (by decide) hbehind

/-! ## The outputs of a step -/

theorem Filler.findFrom_outOption (filler : Filler) {rest : List Char} (hrest : StartsName rest)
    (before : List Char) :
    Cursor.findFrom Pattern.outOption before (filler.text ++ rest) =
      Cursor.findFrom Pattern.outOption (filler.text.reverse ++ before) rest :=
  Pattern.findFrom_assigned_append (by decide) (by decide) filler.starts filler.ends
    filler.outputless hrest before

theorem Filler.ne_nil (filler : Filler) : filler.text ≠ [] := by
  intro hempty
  have hstarts := filler.starts
  rw [hempty] at hstarts
  contradiction

theorem Filler.endsWord (filler : Filler) (before : List Char) :
    EndsWord (filler.text.reverse ++ before) :=
  filler.ends.endsWord filler.ne_nil before

/-- Behind a filler the next output is found. -/
theorem Filler.outOption?_append (filler : Filler) (output : OutputOption) {rest : List Char}
    (hrest : StartsName rest) {limit : Cursor} (hlimit : limit.remaining ≤ rest.length)
    (before : List Char) :
    ∃ behind, (⟨before, filler.text ++ (output.text ++ rest)⟩ : Cursor).outOption? limit =
      some (output.reference, ⟨behind, output.following.text ++ rest⟩) := by
  have hwritten : output.text ++ rest = "out".toList ++ '=' ::
      (output.table.text ++ (output.following.text ++ rest)) := by
    simp [OutputOption.text]
  have hname : StartsName (output.text ++ rest) := rfl
  have hmatch := Pattern.assigned_append "out" (by decide) (by decide)
    (filler.endsWord before).word (output.table.halts_space (output.following.text ++ rest))
  have hfound : (⟨before, filler.text ++ (output.text ++ rest)⟩ : Cursor).find?
      Pattern.outOption = _ :=
    (filler.findFrom_outOption hname before).trans (hwritten ▸ Cursor.find?_here hmatch)
  have hless : limit.remaining < (output.text ++ rest).length := by
    rw [hwritten]
    simp
    omega
  have hread := output.table.read_append (output.following.endsTable hrest)
    ('=' :: ("out".toList.reverse ++ (filler.text.reverse ++ before)))
  refine ⟨output.table.text.reverse ++
    '=' :: ("out".toList.reverse ++ (filler.text.reverse ++ before)), ?_⟩
  rw [Cursor.outOption?, Cursor.findBefore?_of_find? hfound hless, Option.bind_eq_bind,
    Option.bind_some]
  exact hread

/-- All outputs in front of the end of the step are read, and the reading stops in front of
that end. -/
theorem Filler.outOptions_append (outputs : List OutputOption) (filler : Filler)
    {rest : List Char} (hrest : StartsName rest) {limit : Cursor}
    (hlimit : limit.remaining = rest.length) (before : List Char) :
    ∃ stop : Cursor,
      (⟨before, filler.text ++ (outputs.flatMap OutputOption.text ++ rest)⟩ : Cursor).outOptions
          limit =
        (outputs.map OutputOption.reference, stop) ∧ limit.remaining ≤ stop.remaining := by
  -- Each output takes the filler in front of it; the text behind the outputs stays as it is.
  induction outputs generalizing filler before with
  | nil =>
      have hnone : (⟨before, filler.text ++ rest⟩ : Cursor).findBefore? Pattern.outOption limit =
          none := by
        have hplace : limit.remaining =
            (⟨filler.text.reverse ++ before, rest⟩ : Cursor).remaining := hlimit
        rw [Cursor.findBefore?_of_remaining hplace]
        exact Cursor.findBefore?_eq_none (filler.findFrom_outOption hrest before)
      have hoption : (⟨before, filler.text ++ rest⟩ : Cursor).outOption? limit = none := by
        rw [Cursor.outOption?, hnone]
        rfl
      refine ⟨_, Cursor.outOptions_of_none hoption, ?_⟩
      rw [hlimit]
      simp [Cursor.remaining]
  | cons output outputs ih =>
      have hlater := startsName_outputs outputs hrest
      have hshort : limit.remaining ≤ (outputs.flatMap OutputOption.text ++ rest).length := by
        simp [hlimit]
      obtain ⟨behind, hoption⟩ := filler.outOption?_append output hlater hshort before
      obtain ⟨stop, hmore, hstop⟩ := ih output.following behind
      refine ⟨stop, ?_, hstop⟩
      rw [List.flatMap_cons, List.append_assoc, Cursor.outOptions_of_some hoption, hmore]
      rfl

theorem Filler.ends_outputs (outputs : List OutputOption) (filler : Filler) :
    EndsDelimited (filler.text ++ outputs.flatMap OutputOption.text) := by
  induction outputs generalizing filler with
  | nil =>
      rw [List.flatMap_nil, List.append_nil]
      exact filler.ends
  | cons output outputs ih =>
      have hwritten : filler.text ++ (output :: outputs).flatMap OutputOption.text =
          (filler.text ++ "out".toList ++ '=' :: output.table.text) ++
            (output.following.text ++ outputs.flatMap OutputOption.text) := by
        simp [OutputOption.text]
      rw [hwritten]
      exact (ih output.following).append
        (List.append_ne_nil_of_left_ne_nil output.following.ne_nil _) _

/-! ## The step -/

theorem plainName?_append (name : Word) {rest : List Char} (hrest : Halts isNameCharacter rest)
    (before : List Char) :
    (⟨before, name.text.toList ++ rest⟩ : Cursor).plainName? =
      some (name.text, ⟨name.text.toList.reverse ++ before, rest⟩) := by
  have hrun := Cursor.run?_append name.plain.1 name.plain.2 hrest before
  rw [Cursor.plainName?, hrun, Option.map_some, Cursor.stringUntil_append, String.ofList_toList]

namespace ProcedureStatement

variable (statement : ProcedureStatement)

theorem startsName_options (rest : List Char) : StartsName (statement.options ++ rest) := rfl

/-- The blanks behind the name of the procedure. -/
def blanks : List Char := statement.opening.takeWhile isWhiteSpace

/-- What stands between the blanks and the input. -/
def opened : List Char := statement.opening.dropWhile isWhiteSpace

theorem opening_eq : statement.blanks ++ statement.opened = statement.opening :=
  List.takeWhile_append_dropWhile

theorem isBlank_blanks : IsBlank statement.blanks := fun ch hch =>
  List.all_eq_true.mp List.all_takeWhile ch hch

theorem blanks_ne_nil : statement.blanks ≠ [] := by
  obtain ⟨ch, hhead, hch⟩ := (Option.any_eq_true _ _).mp statement.opening_starts
  obtain ⟨more, hopening⟩ := List.head?_eq_some_iff.mp hhead
  simp [blanks, hopening, hch]

theorem halts_name (rest : List Char) : Halts isNameCharacter (statement.blanks ++ rest) := by
  cases hblanks : statement.blanks with
  | nil => exact absurd hblanks statement.blanks_ne_nil
  | cons ch blanks =>
      have hch : isWhiteSpace ch = true :=
        statement.isBlank_blanks ch (hblanks ▸ List.mem_cons_self)
      exact (halts_cons _ _ _).mpr
        (delimiter_ends_name (isDelimiter_of_blank hch)).1

theorem opening_ne_nil : statement.opening ≠ [] := by
  rw [← statement.opening_eq]
  exact List.append_ne_nil_of_left_ne_nil statement.blanks_ne_nil _

theorem opened_ends : EndsDelimited statement.opened := by
  rw [opened, List.dropWhile_eq_drop_findIdx_not]
  exact statement.opening_ends.drop _

theorem opened_halts {rest : List Char} (hrest : StartsName rest) :
    Halts isWhiteSpace (statement.opened ++ rest) := by
  have hhalts : Halts isWhiteSpace statement.opened := halts_dropWhile _ statement.opening
  cases hopened : statement.opened with
  | nil => exact hrest.halts_space
  | cons ch more => rwa [hopened, halts_cons] at hhalts

theorem options_ne_nil : statement.options ≠ [] := List.cons_ne_nil _ _

theorem options_ends : EndsDelimited statement.options := by
  have hwritten : statement.options = ("data".toList ++ '=' :: statement.input.text) ++
      (statement.following.text ++ statement.outputs.flatMap OutputOption.text) := by
    simp [options]
  rw [hwritten]
  exact (statement.following.ends_outputs statement.outputs).append
    (List.append_ne_nil_of_left_ne_nil statement.following.ne_nil _) _

theorem text_eq : statement.text =
    ("proc".toList ++ ' ' :: (statement.kind.text.toList ++ statement.blanks)) ++
      (statement.opened ++ statement.options) := by
  rw [text, ← statement.opening_eq]
  simp

/-- The kind of the character in front does not depend on what stands in front of the step. -/
theorem blanks_kind (before before' : List Char) :
    (statement.blanks.reverse ++ before).head?.any isWordCharacter =
      (statement.blanks.reverse ++ before').head?.any isWordCharacter := by
  have hne : statement.blanks.reverse ≠ [] := by simpa using statement.blanks_ne_nil
  rw [List.head?_append_of_ne_nil _ hne, List.head?_append_of_ne_nil _ hne]

theorem opening_endsWord (before : List Char) :
    EndsWord (statement.opened.reverse ++ (statement.blanks.reverse ++ before)) := by
  have hbehind := statement.opening_ends.endsWord statement.opening_ne_nil before
  rwa [← statement.opening_eq, List.reverse_append, List.append_assoc] at hbehind

/-- The input is found behind the blanks. -/
theorem find?_dataOption (before rest : List Char) :
    (⟨statement.blanks.reverse ++ before,
        statement.opened ++ (statement.options ++ rest)⟩ : Cursor).find? Pattern.dataOption =
      some ⟨⟨statement.opened.reverse ++ (statement.blanks.reverse ++ before),
          statement.options ++ rest⟩,
        ⟨'=' :: ("data".toList.reverse ++
            (statement.opened.reverse ++ (statement.blanks.reverse ++ before))),
          statement.input.text ++ (statement.following.text ++
            (statement.outputs.flatMap OutputOption.text ++ rest))⟩⟩ := by
  have hnone : Cursor.findFrom Pattern.dataOption (statement.blanks.reverse ++ [])
      statement.opened = none := by
    apply findFrom_append_eq_none
    rw [statement.opening_eq]
    exact statement.opening_inputless
  have hpast := (Pattern.dataOption_keepsInFrontOf (statement.startsName_options rest)
    ).findFrom_append statement.opened_ends (statement.blanks_kind before []) hnone
  have hmatch := Pattern.assigned_append "data" (by decide) (by decide)
    (statement.opening_endsWord before).word
    (statement.input.halts_space (statement.following.text ++
      (statement.outputs.flatMap OutputOption.text ++ rest)))
  have hwritten : statement.options ++ rest = "data".toList ++ '=' ::
      (statement.input.text ++ (statement.following.text ++
        (statement.outputs.flatMap OutputOption.text ++ rest))) := by
    simp [options]
  exact hpast.trans (hwritten ▸ Cursor.find?_here hmatch)

/-- The end of the step is found behind its options. -/
theorem find?_stepEnd (hend : (Cursor.mk [] statement.text).find? Pattern.stepEnd = none)
    {word : String} (hword : word ∈ Pattern.stepEndWords) (before suffix : List Char) :
    (⟨statement.blanks.reverse ++ before, statement.opened ++
        (statement.options ++ (word.toList ++ ';' :: suffix))⟩ : Cursor).find? Pattern.stepEnd =
      some ⟨⟨(statement.opened ++ statement.options).reverse ++
            (statement.blanks.reverse ++ before), word.toList ++ ';' :: suffix⟩,
        ⟨';' :: (word.toList.reverse ++ ((statement.opened ++ statement.options).reverse ++
            (statement.blanks.reverse ++ before))), suffix⟩⟩ := by
  have hends : EndsDelimited (statement.opened ++ statement.options) :=
    statement.options_ends.append statement.options_ne_nil _
  have hne : statement.opened ++ statement.options ≠ [] :=
    List.append_ne_nil_of_right_ne_nil _ statement.options_ne_nil
  have hnone := findFrom_append_eq_none (statement.text_eq ▸ hend)
  have hkind : (statement.blanks.reverse ++ before).head?.any isWordCharacter =
      (("proc".toList ++ ' ' :: (statement.kind.text.toList ++ statement.blanks)).reverse ++
        []).head?.any isWordCharacter := by
    simp only [List.reverse_append, List.reverse_cons, List.append_assoc]
    exact statement.blanks_kind _ _
  have hpast := (Pattern.stepEnd_keepsInFrontOf (startsName_stepEnd hword (';' :: suffix))
    ).findFrom_append hends hkind hnone
  have hmatch := Pattern.stepEnd_append hword
    (hends.endsWord hne (statement.blanks.reverse ++ before)).word suffix
  rw [List.append_assoc] at hpast
  exact hpast.trans (Cursor.find?_here hmatch)

/-- The options in front of the end of the step are read, and the second search for that end
finds what the first has found. -/
theorem read_options (hend : (Cursor.mk [] statement.text).find? Pattern.stepEnd = none)
    {word : String} (hword : word ∈ Pattern.stepEndWords) (before suffix : List Char) :
    let ending := word.toList ++ ';' :: suffix
    let start : Cursor :=
      ⟨statement.blanks.reverse ++ before, statement.opened ++ (statement.options ++ ending)⟩
    let limit : Cursor :=
      ⟨(statement.opened ++ statement.options).reverse ++ (statement.blanks.reverse ++ before),
        ending⟩
    let last : Cursor := ⟨';' :: (word.toList.reverse ++ limit.before), suffix⟩
    start.find? Pattern.stepEnd = some ⟨limit, last⟩ ∧
      ∃ (data : Found) (inputStop stop : Cursor),
        start.findBefore? Pattern.dataOption limit = some data ∧
          data.stop.datasetReference? = some (statement.input.reference, inputStop) ∧
          inputStop.outOptions limit = (statement.outputs.map OutputOption.reference, stop) ∧
          stop.find? Pattern.stepEnd = some ⟨limit, last⟩ := by
  intro ending start limit last
  have hending : StartsName ending := startsName_stepEnd hword _
  have hstop : start.find? Pattern.stepEnd = some ⟨limit, last⟩ :=
    statement.find?_stepEnd hend hword before suffix
  have hlimit : limit.remaining = ending.length := rfl
  have hless : limit.remaining < (statement.options ++ ending).length := by
    have hpos := List.length_pos_iff.mpr statement.options_ne_nil
    rw [List.length_append, hlimit]
    omega
  have hdata := Cursor.findBefore?_of_find? (statement.find?_dataOption before ending) hless
  let behind := '=' :: ("data".toList.reverse ++
    (statement.opened.reverse ++ (statement.blanks.reverse ++ before)))
  have hinput := statement.input.read_append
    (statement.following.endsTable (startsName_outputs statement.outputs hending)) behind
  let inputStop : Cursor := ⟨statement.input.text.reverse ++ behind,
    statement.following.text ++ (statement.outputs.flatMap OutputOption.text ++ ending)⟩
  obtain ⟨stop, houtputs, hle⟩ : ∃ stop, inputStop.outOptions limit =
      (statement.outputs.map OutputOption.reference, stop) ∧ limit.remaining ≤ stop.remaining :=
    statement.following.outOptions_append statement.outputs hending hlimit _
  have hreaches : start.Reaches stop := by
    have htoStop := inputStop.outOptions_reaches limit
    rw [houtputs] at htoStop
    exact (((Pattern.assigned_advances "data").findBefore? hdata).trans
      (Cursor.datasetReference?_passes hinput)).reaches.trans htoStop
  exact ⟨hstop, _, _, stop, hdata, hinput, houtputs,
    Cursor.find?_of_reaches hstop hreaches hle⟩

theorem procedure?_append (hend : (Cursor.mk [] statement.text).find? Pattern.stepEnd = none)
    {word : String} (hword : word ∈ Pattern.stepEndWords) {before : List Char}
    (hbefore : Halts isKeywordGlue before) (suffix : List Char) :
    (⟨before, statement.text ++ (word.toList ++ ';' :: suffix)⟩ : Cursor).procedure? =
      some (statement.procedure,
        ⟨(statement.text ++ (word.toList ++ [';'])).reverse ++ before, suffix⟩) := by
  let rest := statement.blanks ++
    (statement.opened ++ (statement.options ++ (word.toList ++ ';' :: suffix)))
  let behind := statement.kind.text.toList.reverse ++ ' ' :: ("proc".toList.reverse ++ before)
  have hwritten : statement.text ++ (word.toList ++ ';' :: suffix) =
      "proc".toList ++ ' ' :: (statement.kind.text.toList ++ rest) := by
    rw [statement.text_eq]
    simp [rest]
  have hglue : Halts isKeywordGlue (' ' :: (statement.kind.text.toList ++ rest)) :=
    (halts_cons _ _ _).mpr (by decide)
  have hproc := Cursor.word?_append "proc" hbefore hglue
  have hspace := Cursor.space?_blank
    (Cursor.halts_space_of_plain statement.kind.plain rest) ("proc".toList.reverse ++ before)
  have hname : Halts isNameCharacter rest := statement.halts_name _
  have hkind : (⟨' ' :: ("proc".toList.reverse ++ before),
      statement.kind.text.toList ++ rest⟩ : Cursor).plainName? =
        some (statement.kind.text, ⟨behind, rest⟩) :=
    plainName?_append statement.kind hname _
  have hblanks : (⟨behind, rest⟩ : Cursor).space? =
      some ⟨statement.blanks.reverse ++ behind,
        statement.opened ++ (statement.options ++ (word.toList ++ ';' :: suffix))⟩ :=
    Cursor.space?_append statement.blanks_ne_nil statement.isBlank_blanks
      (statement.opened_halts (statement.startsName_options _)) behind
  obtain ⟨hstop, data, inputStop, stop, hdata, hinput, houtputs, hlast⟩ :=
    statement.read_options hend hword behind suffix
  rw [hwritten]
  simp only [Cursor.procedure?, hproc, hspace, hkind, hblanks, hstop, hdata, hinput, houtputs,
    hlast, statement.other_kind, Option.bind_eq_bind, Option.bind_some]
  rw [statement.text_eq]
  simp [procedure, behind]

end ProcedureStatement

/-- The full grammar reads the step with its input and with all of its outputs, however the
options are spread over the statements of the step, through the word that ends it. -/
theorem Grammar.firstMatch?_procedure (statement : ProcedureStatement)
    (hend : (Cursor.mk [] statement.text).find? Pattern.stepEnd = none)
    {word : String} (hword : word ∈ Pattern.stepEndWords) {before : List Char}
    (hbefore : Halts isKeywordGlue before) (suffix : List Char) :
    let text := statement.text ++ (word.toList ++ [';'])
    full.firstMatch? ⟨before, text ++ suffix⟩ =
      some (.single ⟨before, text ++ suffix⟩
        (.procedure ⟨lowerCase statement.kind.text, [statement.input.reference],
          statement.outputs.map OutputOption.reference⟩)
        ⟨text.reverse ++ before, suffix⟩) := by
  intro text
  have hwritten : text ++ suffix = statement.text ++ (word.toList ++ ';' :: suffix) := by
    simp [text]
  rw [hwritten]
  exact firstMatch?_of_procedure? (statement.procedure?_append hend hword hbefore suffix)

/-- The tables are called by the words that are searched for. -/
def sortStatement : ProcedureStatement where
  kind := ⟨"Sort", by decide⟩
  opening := " nodup\n".toList
  input := ⟨some ⟨"data", by decide⟩, ⟨"out", by decide⟩⟩
  following := ⟨"; by out; output ".toList, by decide, by decide, by decide, by decide +kernel⟩
  outputs :=
    [⟨⟨none, ⟨"quit", by decide⟩⟩,
        ⟨"\n".toList, by decide, by decide, by decide, by decide +kernel⟩⟩,
      ⟨⟨some ⟨"quit", by decide⟩, ⟨"data", by decide⟩⟩,
        ⟨"; data out ;".toList, by decide, by decide, by decide, by decide +kernel⟩⟩]
  other_kind := by decide
  opening_starts := by decide
  opening_ends := by decide
  opening_inputless := by decide +kernel

theorem Grammar.firstMatch?_procedure_of_sort :
    (Cursor.mk [] sortStatement.text).find? Pattern.stepEnd = none ∧
      "quit" ∈ Pattern.stepEndWords ∧ Halts isKeywordGlue [] ∧
      (full.firstMatch? (.ofText ("proc Sort nodup\ndata=data.out; by out; output out=quit\n" ++
          "out=quit.data; data out ;quit; run;"))).map
        (fun found => (found.items.map MatchItem.node, found.rest.rest)) =
      some ([.procedure ⟨"sort", [⟨some (.ofLiteral "data"), .ofLiteral "out", none⟩],
        [⟨none, .ofLiteral "quit", none⟩, ⟨some (.ofLiteral "quit"), .ofLiteral "data", none⟩]⟩],
        " run;".toList) := by
  have hend : (Cursor.mk [] sortStatement.text).find? Pattern.stepEnd = none := by
    decide +kernel
  have hword : "quit" ∈ Pattern.stepEndWords := by decide
  have hread := Grammar.firstMatch?_procedure sortStatement hend hword (halts_nil _)
    " run;".toList
  have hkind : lowerCase sortStatement.kind.text = "sort" := by decide
  rw [hkind] at hread
  exact ⟨hend, hword, halts_nil _, congrArg _ hread⟩

end SasOutline
