import Mathlib.Data.List.TakeWhile
import SasOutline.Proofs.MarkedWords
import SasOutline.Proofs.MatchLayout
import SasOutline.Proofs.StatementLocality

/-!
# Blocks of the `sql` procedure

A block holds statements that end in semicolons, with blanks between them, and its
`quit` behind the last one.  Each statement becomes an item of its own: a procedure where
it is a `create table` statement, and else its text.

There is one exception.  A statement that is no `create table` statement and whose text
ends in the letters of `quit` is taken for the end of the block, even when they end a
longer word.  No item is read from there on.  The end of the match is searched for with a
word boundary and is not affected, so these statements are passed over without a trace.
-/

namespace SasOutline

/-! ## Statements -/

theorem isStatementText_of_all {text : List Char}
    (h : text.all (fun ch => ch != ';' && !isQuotationMark ch) = true) :
    IsStatementText text := by
  intro ch hch
  simpa using List.all_eq_true.mp h ch hch

/-- A statement of a block in front of its semicolon, and the blanks in front of it. -/
structure BlockStatement where
  blanks : List Char
  text : List Char
  isBlank_blanks : IsBlank blanks
  text_ne_nil : text ≠ []
  halts_text : Halts isWhiteSpace text
  isStatementText : IsStatementText text

namespace BlockStatement

def written (statement : BlockStatement) : List Char :=
  statement.blanks ++ statement.text ++ [';']

/-- The `create table` statement that the text is, read by itself. -/
def procedure? (statement : BlockStatement) : Option Procedure :=
  (Cursor.mk [] (statement.text ++ [';'])).createTable?.map Prod.fst

def node (statement : BlockStatement) : Node :=
  match statement.procedure? with
  | some procedure => .procedure procedure
  | none => .sqlStatement ⟨String.ofList (statement.text ++ [';'])⟩

/-- The statement is taken for the `quit` of the block. -/
def isRefused (statement : BlockStatement) : Bool :=
  statement.procedure?.isNone && endsInQuit statement.text

end BlockStatement

def blockText (statements : List BlockStatement) : List Char :=
  statements.flatMap BlockStatement.written

/-- The item of a statement, from its first character through its semicolon. -/
def BlockStatement.item (statement : BlockStatement) (before behind : List Char) : MatchItem :=
  ⟨statement.node, ⟨statement.blanks.reverse ++ before, statement.text ++ ';' :: behind⟩,
    ⟨statement.written.reverse ++ before, behind⟩⟩

def blockItems (before tail : List Char) : List BlockStatement → List MatchItem
  | [] => []
  | statement :: later =>
      statement.item before (blockText later ++ tail) ::
        blockItems (statement.written.reverse ++ before) tail later

namespace BlockStatement

variable (statement : BlockStatement) (behind : List Char)

theorem isStatementText_append : IsStatementText (statement.blanks ++ statement.text) := by
  intro ch hch
  rcases List.mem_append.mp hch with hblank | htext
  · exact (blank_delimits (statement.isBlank_blanks ch hblank)).2.2
  · exact statement.isStatementText ch htext

theorem reverse_written_append (before : List Char) :
    statement.written.reverse ++ before =
      ';' :: (statement.text.reverse ++ (statement.blanks.reverse ++ before)) := by
  simp [written]

theorem endsWord_written {before : List Char} :
    EndsWord (statement.written.reverse ++ before) := by
  rw [reverse_written_append]
  exact endsWord_semicolon _

theorem skipSpace_written (before : List Char) :
    (Cursor.mk before (statement.written ++ behind)).skipSpace =
      ⟨statement.blanks.reverse ++ before, statement.text ++ ';' :: behind⟩ := by
  have hhalts : Halts isWhiteSpace (statement.text ++ ';' :: behind) := by
    have hstart := statement.halts_text
    cases htext : statement.text with
    | nil => exact absurd htext statement.text_ne_nil
    | cons ch text =>
        rw [htext] at hstart
        simpa using hstart
  rw [written, List.append_assoc, List.append_assoc]
  exact Cursor.skipWhile_append statement.isBlank_blanks hhalts before

variable {before : List Char} (hbefore : EndsWord before)

include hbefore

theorem createTable?_eq :
    (Cursor.mk before (statement.text ++ ';' :: behind)).createTable? =
      statement.procedure?.map fun procedure =>
        (procedure, ⟨';' :: (statement.text.reverse ++ before), behind⟩) := by
  have halike : Alike behind [] ⟨before, statement.text ++ ';' :: behind⟩
      ⟨[], statement.text ++ [';']⟩ :=
    ⟨⟨statement.text, statement.isStatementText, rfl, rfl⟩, hbefore.glue, hbefore.word⟩
  cases hread : (Cursor.mk before (statement.text ++ ';' :: behind)).createTable? with
  | none =>
      rw [procedure?, rel_eq_none halike.createTable? hread]
      rfl
  | some read =>
      obtain ⟨procedure, stop⟩ := read
      obtain ⟨⟨procedure', stop'⟩, hread', hvalue, hrest, -⟩ :=
        rel_eq_some halike.createTable? hread
      obtain ⟨text, htext, hstop⟩ := (Cursor.createTable?_passes hread).reaches
      have hthrough : statement.text ++ [';'] = text := by
        rw [hrest] at htext
        have hsplit : (statement.text ++ [';']) ++ behind = text ++ behind := by
          simpa using htext
        exact List.append_cancel_right hsplit
      have hstopEq : stop = ⟨';' :: (statement.text.reverse ++ before), behind⟩ := by
        obtain ⟨stopBefore, stopRest⟩ := stop
        obtain rfl : stopRest = behind := hrest
        obtain rfl : stopBefore = text.reverse ++ before := hstop
        simp [← hthrough]
      rw [procedure?, hread', hstopEq]
      exact congrArg (fun value => some (value, _)) hvalue

theorem sqlItem?_eq :
    (Cursor.mk before (statement.text ++ ';' :: behind)).sqlItem? =
      if statement.isRefused then none
      else some (⟨statement.node, ⟨before, statement.text ++ ';' :: behind⟩,
        ⟨';' :: (statement.text.reverse ++ before), behind⟩⟩,
        ⟨';' :: (statement.text.reverse ++ before), behind⟩) := by
  have htext (stopBefore : List Char) :
      Cursor.stringUntil ⟨before, statement.text ++ ';' :: behind⟩ ⟨stopBefore, behind⟩ =
        String.ofList (statement.text ++ [';']) := by
    have hread := Cursor.stringUntil_append before stopBefore (statement.text ++ [';']) behind
    rwa [List.append_assoc] at hread
  have hstatement :
      (Cursor.mk before (statement.text ++ ';' :: behind)).sqlStatement? =
        if endsInQuit statement.text then none
        else some (⟨String.ofList (statement.text ++ [';'])⟩,
          ⟨';' :: (statement.text.reverse ++ before), behind⟩) := by
    rw [Cursor.sqlStatement?,
      Cursor.through?_append statement.isStatementText.semicolon_notMem]
    simp only [Option.bind_eq_bind, Option.bind_some, htext]
    rfl
  rw [Cursor.sqlItem?, statement.createTable?_eq behind hbefore, hstatement, isRefused, node]
  cases statement.procedure? with
  | some procedure => rfl
  | none =>
      by_cases hquit : endsInQuit statement.text = true
      · simp [hquit]
      · simp [hquit]

theorem sqlItem?_written :
    (Cursor.mk before (statement.written ++ behind)).skipSpace.sqlItem? =
      if statement.isRefused then none
      else some (statement.item before behind,
        ⟨statement.written.reverse ++ before, behind⟩) := by
  rw [skipSpace_written, item, reverse_written_append]
  exact statement.sqlItem?_eq behind (hbefore.blanks statement.isBlank_blanks)

end BlockStatement

/-! ## The items of a block -/

/-- The statements in front of the first that is taken for the `quit` of the block. -/
def readStatements (statements : List BlockStatement) : List BlockStatement :=
  statements.takeWhile fun statement => !statement.isRefused

/-- The statements from the first on that is taken for the `quit` of the block. -/
def lostStatements (statements : List BlockStatement) : List BlockStatement :=
  statements.dropWhile fun statement => !statement.isRefused

theorem blockText_cons_append (statement : BlockStatement) (later : List BlockStatement)
    (tail : List Char) :
    blockText (statement :: later) ++ tail =
      statement.written ++ (blockText later ++ tail) := by
  rw [blockText, List.flatMap_cons, List.append_assoc]
  rfl

/-- The statements of a block are read one by one until one of them is taken for its end. -/
theorem separatedTail_blockText {tail : List Char}
    (htail : ∀ before, EndsWord before → (Cursor.mk before tail).skipSpace.sqlItem? = none)
    (statements : List BlockStatement) {before : List Char} (hbefore : EndsWord before) :
    separatedTail Cursor.sqlItem? (fun cursor => some cursor.skipSpace)
        ⟨before, blockText statements ++ tail⟩ =
      ((blockItems before tail statements).take (readStatements statements).length,
        ⟨(blockText (readStatements statements)).reverse ++ before,
          blockText (lostStatements statements) ++ tail⟩) := by
  induction statements generalizing before with
  | nil =>
      have hnone := htail before hbefore
      rw [separatedTail]
      simp [blockText, blockItems, readStatements, lostStatements, hnone]
  | cons statement later ih =>
      have hitem := statement.sqlItem?_written (blockText later ++ tail) hbefore
      rw [separatedTail, blockText_cons_append, Option.bind_some, hitem]
      by_cases hrefused : statement.isRefused = true
      · simp [hrefused, readStatements, lostStatements, blockText]
      · have hless : (blockText later ++ tail).length <
            (statement.written ++ (blockText later ++ tail)).length := by
          simp [BlockStatement.written]
          omega
        rw [if_neg hrefused]
        simp only [Cursor.remaining, if_pos hless, ih statement.endsWord_written]
        simp [readStatements, lostStatements, blockItems, blockText, hrefused]

/-- Reading the blanks in front of the first statement makes no difference. -/
theorem separated_skipSpace (cursor : Cursor) :
    separated Cursor.sqlItem? (fun cursor => some cursor.skipSpace) cursor.skipSpace =
      ((separatedTail Cursor.sqlItem? (fun cursor => some cursor.skipSpace) cursor).1,
        if cursor.skipSpace.sqlItem?.isNone then cursor.skipSpace
        else (separatedTail Cursor.sqlItem? (fun cursor => some cursor.skipSpace) cursor).2) := by
  rw [separated, separatedTail, Option.bind_some]
  cases hread : cursor.skipSpace.sqlItem? with
  | none => rfl
  | some read =>
      obtain ⟨item, after⟩ := read
      have hless : after.remaining < cursor.remaining :=
        (cursor.skipSpace_reaches.trans_passes (Cursor.sqlItem?_span hread).2.2).remaining_lt
      simp only [if_pos hless]
      rfl

/-! ## The end of a block -/

theorem quit_opensAtBoundary : Pattern.quit.OpensAtBoundary :=
  Pattern.terminated_opensAtBoundary "quit"

theorem quit_append {before : List Char} (hbefore : EndsWord before) (rest : List Char) :
    Pattern.quit ⟨before, "quit;".toList ++ rest⟩ =
      some ⟨"quit;".toList.reverse ++ before, rest⟩ :=
  Pattern.terminated_append "quit" (by decide) (by decide) hbefore.word rest

theorem quit_semicolon (before rest : List Char) : Pattern.quit ⟨before, ';' :: rest⟩ = none :=
  Pattern.terminated_delimiter (by decide) (by decide) (by decide) before rest

/-- The search for the end of a block passes over a statement that does not end in the
word `quit`, whatever follows the statement. -/
theorem findFrom_quit_text {text tail other before before' : List Char}
    (htext : IsStatementText text)
    (h : Alike tail other ⟨before, text ++ ';' :: tail⟩ ⟨before', text ++ ';' :: other⟩)
    (hnone : Cursor.findFrom Pattern.quit before' (text ++ ';' :: other) = none) :
    Cursor.findFrom Pattern.quit before (text ++ ';' :: tail) =
      Cursor.findFrom Pattern.quit (';' :: (text.reverse ++ before)) tail := by
  induction text generalizing before before' with
  | nil =>
      rw [List.nil_append, Cursor.findFrom, quit_semicolon]
      rfl
  | cons ch text ih =>
      obtain ⟨hch, hlater⟩ := List.forall_mem_cons.mp htext
      rw [List.cons_append] at h hnone ⊢
      rw [List.cons_append] at h
      rw [Cursor.findFrom] at hnone
      split at hnone
      · contradiction
      · next hhere =>
        have hahead : Cursor.peek ⟨before, ch :: (text ++ ';' :: tail)⟩ ≠ some ';' := by
          simpa [Cursor.peek] using hch.1
        rw [Cursor.findFrom, h.symm.quit_eq_none hhere, List.reverse_cons, List.append_assoc]
        exact ih hlater (h.skip_one hahead) hnone

theorem findFrom_quit_blockText (statements : List BlockStatement)
    {before before' : List Char} (hbefore : EndsWord before) (hbefore' : EndsWord before')
    (hnone : Cursor.findFrom Pattern.quit before' (blockText statements) = none)
    (tail : List Char) :
    Cursor.findFrom Pattern.quit before (blockText statements ++ tail) =
      Cursor.findFrom Pattern.quit ((blockText statements).reverse ++ before) tail := by
  induction statements generalizing before before' with
  | nil => rfl
  | cons statement later ih =>
      have halike : Alike (blockText later ++ tail) (blockText later)
          ⟨before, statement.blanks ++ statement.text ++ ';' :: (blockText later ++ tail)⟩
          ⟨before', statement.blanks ++ statement.text ++ ';' :: blockText later⟩ :=
        ⟨⟨_, statement.isStatementText_append, rfl, rfl⟩,
          hbefore.glue.trans hbefore'.glue.symm, hbefore.word.trans hbefore'.word.symm⟩
      have hwritten (rest : List Char) : statement.written ++ rest =
          statement.blanks ++ statement.text ++ ';' :: rest := by
        simp [BlockStatement.written]
      have hread : ';' :: ((statement.blanks ++ statement.text).reverse ++ before) =
          statement.written.reverse ++ before := by
        simp [BlockStatement.written]
      have hsplit : blockText (statement :: later) = statement.written ++ blockText later := rfl
      have hlater := findFrom_append_eq_none (hsplit ▸ hnone)
      rw [hsplit, hwritten] at hnone
      rw [blockText_cons_append, hwritten,
        findFrom_quit_text statement.isStatementText_append halike hnone, hread,
        ih statement.endsWord_written statement.endsWord_written hlater, hsplit,
        List.reverse_append, List.append_assoc]

theorem endsWord_blockText (statements : List BlockStatement) {before : List Char}
    (hbefore : EndsWord before) : EndsWord ((blockText statements).reverse ++ before) := by
  induction statements generalizing before with
  | nil => exact hbefore
  | cons statement later ih =>
      have hsplit : blockText (statement :: later) = statement.written ++ blockText later := rfl
      rw [hsplit, List.reverse_append, List.append_assoc]
      exact ih statement.endsWord_written

/-- The search for the end of a block stops behind the `quit` that follows the statements. -/
theorem find?_quit_blockText (statements : List BlockStatement) {before before' : List Char}
    (hbefore : EndsWord before) (hbefore' : EndsWord before')
    (hnone : Cursor.findFrom Pattern.quit before' (blockText statements) = none)
    {last : List Char} (hlast : IsBlank last) (suffix : List Char) :
    (Cursor.find? ⟨before, blockText statements ++ (last ++ ("quit;".toList ++ suffix))⟩
        Pattern.quit).map Found.stop =
      some ⟨(blockText statements ++ (last ++ "quit;".toList)).reverse ++ before, suffix⟩ := by
  have hbehind := endsWord_blockText statements hbefore
  have hquit := quit_append (hbehind.blanks hlast) suffix
  rw [Cursor.find?, findFrom_quit_blockText statements hbefore hbefore' hnone,
    quit_opensAtBoundary.findFrom_blanks hbehind.word hlast, findFrom_eq_of_match hquit,
    Option.map_some]
  simp

/-! ## Blocks -/

theorem length_blockItems (before tail : List Char) (statements : List BlockStatement) :
    (blockItems before tail statements).length = statements.length := by
  induction statements generalizing before with
  | nil => rfl
  | cons statement later ih => rw [blockItems, List.length_cons, ih, List.length_cons]

/-- All statements are read when none of them is taken for the end of the block. -/
theorem length_readStatements_iff (statements : List BlockStatement) :
    (readStatements statements).length = statements.length ↔
      ∀ statement ∈ statements, statement.isRefused = false := by
  have hprefix : readStatements statements <+: statements := List.takeWhile_prefix _
  constructor
  · intro hlength
    have hall : readStatements statements = statements := hprefix.eq_of_length hlength
    intro statement hstatement
    simpa using List.takeWhile_eq_self_iff.mp hall statement hstatement
  · intro hread
    have hall : readStatements statements = statements :=
      List.takeWhile_eq_self_iff.mpr fun statement hstatement => by
        simp [hread statement hstatement]
    rw [hall]

/-- The `quit` that ends a block, read as if it were a statement. -/
def quitStatement {last : List Char} (hlast : IsBlank last) : BlockStatement where
  blanks := last
  text := "quit".toList
  isBlank_blanks := hlast
  text_ne_nil := by decide
  halts_text := (halts_cons _ _ _).mpr (by decide)
  isStatementText := isStatementText_of_all (by decide)

theorem sqlItem?_quit {before last : List Char} (hbefore : EndsWord before)
    (hlast : IsBlank last) (suffix : List Char) :
    (Cursor.mk before (last ++ ("quit;".toList ++ suffix))).skipSpace.sqlItem? = none := by
  have hwritten : (quitStatement hlast).written ++ suffix =
      last ++ ("quit;".toList ++ suffix) := by
    simp [BlockStatement.written, quitStatement]
  have hrefused : (quitStatement hlast).isRefused = true := by
    have hcreate : (Cursor.mk [] "quit;".toList).createTable? = none := by decide
    have hends : endsInQuit "quit".toList = true := by decide
    have hprocedure : (quitStatement hlast).procedure? = none := congrArg _ hcreate
    rw [BlockStatement.isRefused, hprocedure]
    exact hends
  have hitem := (quitStatement hlast).sqlItem?_written suffix hbefore
  rwa [hwritten, if_pos hrefused] at hitem

/-- The items that are read in a block, and where the search for its end begins. -/
theorem separated_blockText (statements : List BlockStatement) {before : List Char}
    (hbefore : EndsWord before)
    (hnone : Cursor.findFrom Pattern.quit [] (blockText statements) = none)
    {last : List Char} (hlast : IsBlank last) (suffix : List Char) :
    ∃ stop : Cursor,
      separated Cursor.sqlItem? (fun cursor => some cursor.skipSpace)
          (Cursor.mk before
            (blockText statements ++ (last ++ ("quit;".toList ++ suffix)))).skipSpace =
        ((blockItems before (last ++ ("quit;".toList ++ suffix)) statements).take
          (readStatements statements).length, stop) ∧
      (stop.find? Pattern.quit).map Found.stop =
        some ⟨(blockText statements ++ (last ++ "quit;".toList)).reverse ++ before, suffix⟩ := by
  have htail (read : List Char) (hread : EndsWord read) :
      (Cursor.mk read (last ++ ("quit;".toList ++ suffix))).skipSpace.sqlItem? = none :=
    sqlItem?_quit hread hlast suffix
  have hsplit : blockText (readStatements statements) ++ blockText (lostStatements statements) =
      blockText statements := by
    rw [blockText, blockText, ← List.flatMap_append, readStatements, lostStatements,
      List.takeWhile_append_dropWhile]
    rfl
  rw [separated_skipSpace, separatedTail_blockText htail statements hbefore]
  refine ⟨_, rfl, ?_⟩
  split
  · rw [quit_opensAtBoundary.find?_skipSpace hbefore.word]
    exact find?_quit_blockText statements hbefore endsWord_nil hnone hlast suffix
  · have hlost := find?_quit_blockText (lostStatements statements)
      (endsWord_blockText (readStatements statements) hbefore)
      (endsWord_blockText (readStatements statements) endsWord_nil)
      (findFrom_append_eq_none (hsplit.symm ▸ hnone)) hlast suffix
    rw [hlost, ← hsplit]
    simp

/-- Behind its opening statement a block is read as a list and a search. -/
theorem sqlBlock?_opening {before : List Char} (hbefore : Halts isKeywordGlue before)
    {rest : List Char} {items : List MatchItem} {stop : Cursor} {found : Found}
    (hitems : separated Cursor.sqlItem? (fun cursor => some cursor.skipSpace)
      (Cursor.mk ("proc sql;".toList.reverse ++ before) rest).skipSpace = (items, stop))
    (hfound : stop.find? Pattern.quit = some found) :
    Cursor.sqlBlock? ⟨before, "proc sql;".toList ++ rest⟩ = some ⟨items, found.stop⟩ := by
  have hblank : Halts isKeywordGlue (' ' :: ("sql".toList ++ ';' :: rest)) :=
    (halts_cons _ _ _).mpr (by decide)
  have hproc := Cursor.word?_append "proc" hbefore hblank
  have hword : Halts isWhiteSpace ("sql".toList ++ ';' :: rest) :=
    (halts_cons _ _ _).mpr (by decide)
  have hspace := Cursor.space?_blank hword ("proc".toList.reverse ++ before)
  have hbehind : Halts isKeywordGlue (' ' :: ("proc".toList.reverse ++ before)) :=
    (halts_cons _ _ _).mpr (by decide)
  have hsemicolon : Halts isKeywordGlue (';' :: rest) := (halts_cons _ _ _).mpr (by decide)
  have hsql := Cursor.word?_append "sql" hbehind hsemicolon
  have hthrough := Cursor.through?_append (List.not_mem_nil : ';' ∉ [])
    ("sql".toList.reverse ++ ' ' :: ("proc".toList.reverse ++ before)) rest
  rw [List.nil_append, List.reverse_nil, List.nil_append] at hthrough
  change Cursor.sqlBlock? ⟨before, "proc".toList ++ ' ' :: ("sql".toList ++ ';' :: rest)⟩ = _
  rw [Cursor.sqlBlock?, hproc]
  have hbody : Cursor.mk (';' :: ("sql".toList.reverse ++ ' ' ::
      ("proc".toList.reverse ++ before))) rest =
        Cursor.mk ("proc sql;".toList.reverse ++ before) rest := rfl
  simp only [Option.bind_eq_bind, Option.bind_some, hspace, hsql, hthrough, hbody, hitems, hfound]
  rfl

/-- A block with the blanks and statements of the list is matched through its `quit`.  Its
items are those of the statements in front of the first that is taken for the `quit`, so
they are the items of all statements exactly when none is. -/
theorem sqlBlock?_statements {before : List Char} (hbefore : Halts isKeywordGlue before)
    (statements : List BlockStatement)
    (hquit : Cursor.find? ⟨[], blockText statements⟩ Pattern.quit = none)
    {last : List Char} (hlast : IsBlank last) (suffix : List Char) :
    let opening := "proc sql;".toList
    let ending := last ++ ("quit;".toList ++ suffix)
    let items := blockItems (opening.reverse ++ before) ending statements
    ∃ found, Cursor.sqlBlock? ⟨before, opening ++ (blockText statements ++ ending)⟩ = some found ∧
      found.rest =
        ⟨(opening ++ (blockText statements ++ (last ++ "quit;".toList))).reverse ++ before,
          suffix⟩ ∧
      found.items = items.take (readStatements statements).length ∧
      (found.items = items ↔ ∀ statement ∈ statements, statement.isRefused = false) := by
  intro opening ending items
  have hopened : EndsWord (opening.reverse ++ before) := endsWord_semicolon _
  obtain ⟨stop, hitems, hstop⟩ := separated_blockText statements hopened hquit hlast suffix
  obtain ⟨found, hfound, hrest⟩ := Option.map_eq_some_iff.mp hstop
  refine ⟨_, sqlBlock?_opening hbefore hitems hfound, ?_, rfl, ?_⟩
  · exact hrest.trans (by simp)
  · rw [← length_readStatements_iff, List.take_eq_self_iff, length_blockItems]
    have hread : (readStatements statements).length ≤ statements.length :=
      (List.takeWhile_prefix _).length_le
    omega

def countedRows : BlockStatement where
  blanks := [' ']
  text := "select 1".toList
  isBlank_blanks := List.all_eq_true.mp (by decide)
  text_ne_nil := by decide
  halts_text := (halts_cons _ _ _).mpr (by decide)
  isStatementText := isStatementText_of_all (by decide)

/-- The name of the column ends in the letters of `quit`. -/
def quitColumn : BlockStatement where
  blanks := ['\n']
  text := "select xquit".toList
  isBlank_blanks := List.all_eq_true.mp (by decide)
  text_ne_nil := by decide
  halts_text := (halts_cons _ _ _).mpr (by decide)
  isStatementText := isStatementText_of_all (by decide)

def blockWithQuitColumn : List BlockStatement := [countedRows, quitColumn]

theorem sqlBlock?_loses_quitColumn :
    Halts isKeywordGlue [] ∧ Cursor.find? ⟨[], blockText blockWithQuitColumn⟩ Pattern.quit = none ∧
      IsBlank [' '] ∧ ∃ found,
        Cursor.sqlBlock? (.ofText "proc sql; select 1;\nselect xquit; quit;") = some found ∧
          found.rest.atEnd = true ∧
          found.items.map MatchItem.node = [.sqlStatement ⟨"select 1;"⟩] := by
  have hquit : Cursor.find? ⟨[], blockText blockWithQuitColumn⟩ Pattern.quit = none := by
    decide
  have hlast : IsBlank [' '] := List.all_eq_true.mp (by decide)
  obtain ⟨found, hfound, hrest, hitems, -⟩ :=
    sqlBlock?_statements (halts_nil _) blockWithQuitColumn hquit hlast []
  have hread : (readStatements blockWithQuitColumn).length = 1 := by decide
  refine ⟨halts_nil _, hquit, hlast, found, ?_, ?_, ?_⟩
  · exact hfound
  · rw [hrest]
    rfl
  · rw [hitems, hread]
    decide

end SasOutline
