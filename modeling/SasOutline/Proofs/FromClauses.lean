import SasOutline.SqlStatements
import SasOutline.Proofs.TableEnumerations

/-!
# The sources of a `create table` statement

A `create table` statement names the tables it writes in front of `as` and its sources behind
every `from`.  Whatever stands between the clauses, as long as it holds no `from` of its own,
the statement is read with the sources of all clauses in their order and through its
semicolon, and nothing behind the statement counts.
-/

namespace SasOutline

/-! ## The text of a statement -/

/-- A piece of a query in which no clause begins.  It begins apart from the word in front. -/
structure QueryText where
  text : List Char
  unbroken : ';' ∉ text
  starts : text.head?.all (fun ch => isWhiteSpace ch || ch == ')') = true
  sourceless : (Cursor.mk [] text).find? Pattern.fromClause = none

/-- The text ends where a clause may begin. -/
def QueryText.Opens (query : QueryText) : Prop :=
  query.text.getLast?.any (fun ch => isWhiteSpace ch || ch == '(') = true

instance (query : QueryText) : Decidable query.Opens :=
  inferInstanceAs (Decidable (_ = true))

/-- A clause with the text behind it, which goes on with neither the tables nor the options of
the last table. -/
structure FromClause where
  blanks : List Char
  tables : TableEnumeration
  following : QueryText
  blanks_ne_nil : blanks ≠ []
  isBlank_blanks : IsBlank blanks
  apart : ∀ mark ∈ [',', '('], (following.text.dropWhile isWhiteSpace).head? ≠ some mark

def FromClause.text (clause : FromClause) : List Char :=
  "from".toList ++ (clause.blanks ++ (clause.tables.text ++ clause.following.text))

theorem FromClause.text_eq (clause : FromClause) : clause.text =
    "from".toList ++ (clause.blanks ++ (clause.tables.text ++ clause.following.text)) :=
  rfl

/-- A statement with the blanks on both sides of its outputs and with the text in front of its
first clause.  A clause follows on every text but the last. -/
structure TableCreation where
  opening : List Char
  outputs : TableEnumeration
  closing : List Char
  query : QueryText
  clauses : List FromClause
  opening_ne_nil : opening ≠ []
  isBlank_opening : IsBlank opening
  closing_ne_nil : closing ≠ []
  isBlank_closing : IsBlank closing
  query_starts : query.text.head?.any isWhiteSpace = true
  opens : ∀ text ∈ (query :: clauses.map FromClause.following).dropLast, text.Opens

namespace TableCreation

def clausesText (clauses : List FromClause) : List Char := clauses.flatMap FromClause.text

/-- The text behind `as` in front of the semicolon. -/
def queryText (statement : TableCreation) : List Char :=
  statement.query.text ++ clausesText statement.clauses

def text (statement : TableCreation) : List Char :=
  "create".toList ++ ' ' :: ("table".toList ++ (statement.opening ++ (statement.outputs.text ++
    (statement.closing ++ ("as".toList ++ (statement.queryText ++ [';']))))))

theorem text_eq (statement : TableCreation) : statement.text =
    "create".toList ++ ' ' :: ("table".toList ++ (statement.opening ++ (statement.outputs.text ++
      (statement.closing ++ ("as".toList ++ (statement.queryText ++ [';'])))))) :=
  rfl

theorem text_append (statement : TableCreation) (suffix : List Char) :
    statement.text ++ suffix = "create".toList ++ ' ' :: ("table".toList ++ (statement.opening ++
      (statement.outputs.text ++ (statement.closing ++
        ("as".toList ++ (statement.queryText ++ ';' :: suffix)))))) := by
  simp [text_eq]

def procedure (statement : TableCreation) : Procedure :=
  ⟨"sql", statement.clauses.flatMap fun clause => clause.tables.references,
    statement.outputs.references⟩

end TableCreation

/-! ## Searching for a clause -/

theorem Pattern.isSome_spaced (word : String) (cursor : Cursor) :
    (spaced word cursor).isSome =
      (opening word cursor).any fun stop => stop.peek.any isWhiteSpace := by
  rw [spaced, Option.bind_eq_bind, Option.isSome_bind]
  congr 1
  funext stop
  rw [Cursor.space?, Cursor.run?]
  split
  · next hblank => simp [hblank]
  · next hblank => simp [hblank]

theorem blank_borders {ch : Char} (hch : isWhiteSpace ch = true) :
    isWordCharacter ch = false ∧ foldedLetter ch = ch :=
  (delimiter_delimits (isDelimiter_of_blank hch)).2

/-- No word that begins in the text is read beyond its end: the text ends with a character
that is no letter, or a semicolon follows. -/
def Separates (text rest : List Char) : Prop :=
  text.getLast?.all (fun ch => isWhiteSpace ch || ch == '(') = true ∨ rest.head? = some ';'

theorem opener_borders {ch : Char} (hch : (isWhiteSpace ch || ch == '(') = true) :
    isWordCharacter ch = false ∧ foldedLetter ch = ch := by
  rcases Bool.or_eq_true_iff.mp hch with hblank | hbracket
  · exact blank_borders hblank
  · obtain rfl := beq_iff_eq.mp hbracket
    decide

theorem Separates.tail {ch : Char} {text rest : List Char} (h : Separates (ch :: text) rest) :
    Separates text rest := by
  cases text with
  | nil => exact .inl rfl
  | cons next text => rwa [Separates, List.getLast?_cons_cons] at h

theorem Separates.length_lt {text rest : List Char} (h : Separates text rest) (hne : text ≠ [])
    (hletters : ((text ++ rest).take "from".toList.length).map foldedLetter =
      "from".toList.map foldedLetter)
    (hblank : ((text ++ rest).drop "from".toList.length).head?.any isWhiteSpace = true) :
    "from".toList.length < text.length := by
  have hword : ("from".toList.map foldedLetter).all isWordCharacter = true := by decide
  rcases h with hlast | hsemicolon
  · rw [List.getLast?_eq_some_getLast hne, Option.all_some] at hlast
    exact length_lt_of_last hword (List.getLast?_eq_some_getLast hne) (opener_borders hlast)
      hletters
  · obtain ⟨more, rfl⟩ := List.head?_eq_some_iff.mp hsemicolon
    rw [List.append_cons] at hletters
    have hlength := length_lt_of_last hword List.getLast?_concat (by decide) hletters
    rw [List.length_append, List.length_singleton] at hlength
    -- The letters fill the text at most, and then a semicolon stands in place of the blank.
    refine lt_of_le_of_ne (Nat.le_of_lt_succ hlength) fun hfull => ?_
    rw [hfull, List.drop_left, List.head?_cons, Option.any_some] at hblank
    exact absurd hblank (by decide)

section Search

variable {before before' text rest : List Char}

/-- A clause that begins in the text is found in the text alone. -/
theorem Separates.fromClause_eq_none (h : Separates text rest) (hne : text ≠ [])
    (hbefore : before.head?.any isWordCharacter = before'.head?.any isWordCharacter)
    (hnone : Pattern.fromClause ⟨before', text⟩ = none) :
    Pattern.fromClause ⟨before, text ++ rest⟩ = none := by
  have hiff := Pattern.any_opening "from" fun stop => stop.peek.any isWhiteSpace
  rw [← Option.isNone_iff_eq_none, ← Option.not_isSome, Bool.not_eq_true'] at hnone ⊢
  rw [Bool.eq_false_iff] at hnone ⊢
  contrapose! hnone
  rw [Pattern.fromClause, Pattern.isSome_spaced, hiff] at hnone ⊢
  obtain ⟨hboundary, hletters, hblank⟩ := hnone
  have hshort := h.length_lt hne hletters hblank
  rw [Cursor.atBoundary_append hne hbefore] at hboundary
  have hmore : text.drop "from".toList.length ≠ [] := by
    simpa [List.drop_eq_nil_iff] using hshort
  refine ⟨hboundary, ?_, ?_⟩
  · rwa [List.take_append_of_le_length hshort.le] at hletters
  · rwa [Cursor.skip, Cursor.peek, List.drop_append_of_le_length hshort.le,
      List.head?_append_of_ne_nil _ hmore] at hblank

theorem Separates.findFrom_append (h : Separates text rest)
    (hbefore : before.head?.any isWordCharacter = before'.head?.any isWordCharacter)
    (hnone : Cursor.findFrom Pattern.fromClause before' text = none) :
    Cursor.findFrom Pattern.fromClause before (text ++ rest) =
      Cursor.findFrom Pattern.fromClause (text.reverse ++ before) rest := by
  induction text generalizing before before' with
  | nil => rfl
  | cons ch text ih =>
      rw [Cursor.findFrom] at hnone
      split at hnone
      · contradiction
      · next hhere =>
        have hnext := h.fromClause_eq_none (List.cons_ne_nil ch text) hbefore hhere
        rw [List.cons_append] at hnext ⊢
        rw [Cursor.findFrom, hnext, List.reverse_cons, List.append_assoc]
        have hkind : (ch :: before).head?.any isWordCharacter =
            (ch :: before').head?.any isWordCharacter := rfl
        exact ih h.tail hkind hnone

end Search

namespace QueryText

/-- A text that begins apart is passed over whatever stands in front of it. -/
theorem findFrom_append (query : QueryText) {rest : List Char} (h : Separates query.text rest)
    (before : List Char) :
    Cursor.findFrom Pattern.fromClause before (query.text ++ rest) =
      Cursor.findFrom Pattern.fromClause (query.text.reverse ++ before) rest := by
  have hstarts := query.starts
  have hsourceless := query.sourceless
  cases htext : query.text with
  | nil => rfl
  | cons ch text =>
      rw [htext] at h hstarts hsourceless
      have hborder : isWordCharacter ch = false ∧ foldedLetter ch = ch := by
        rcases Bool.or_eq_true_iff.mp hstarts with hblank | hbracket
        · exact blank_borders hblank
        · obtain rfl := beq_iff_eq.mp hbracket
          decide
      have hfirst : Pattern.fromClause ⟨before, ch :: (text ++ rest)⟩ = none := by
        have hletter : foldedLetter ch ≠ foldedLetter 'f' := by
          rw [hborder.2]
          rintro rfl
          exact absurd hborder.1 (by decide)
        have hletters : Cursor.letters? foldedLetter ⟨before, ch :: (text ++ rest)⟩ "from" =
            none :=
          Cursor.letters?_other foldedLetter (rfl : "from".toList.head? = some 'f') hletter
        rw [Pattern.fromClause, Pattern.spaced, Pattern.opening_eq_none hletters]
        rfl
      have hsplit : Cursor.findFrom Pattern.fromClause [] ([ch] ++ text) = none := hsourceless
      have hlater : Cursor.findFrom Pattern.fromClause [ch] text = none :=
        findFrom_append_eq_none hsplit
      have hkind : (ch :: before).head?.any isWordCharacter =
          [ch].head?.any isWordCharacter := rfl
      rw [List.cons_append, Cursor.findFrom, hfirst, List.reverse_cons, List.append_assoc]
      exact h.tail.findFrom_append hkind hlater

/-- A further clause or the end of the statement stands behind the text. -/
def Precedes (query : QueryText) (rest : List Char) : Prop :=
  rest.head? = some ';' ∨ query.Opens ∧ rest.head? = some 'f'

theorem Precedes.separates {query : QueryText} {rest : List Char} (h : query.Precedes rest) :
    Separates query.text rest := by
  rcases h with hsemicolon | ⟨hopens, -⟩
  · exact .inr hsemicolon
  · obtain ⟨last, htext, hopener⟩ := (Option.any_eq_true _ _).mp hopens
    left
    rwa [htext, Option.all_some]

/-- What stands behind the text begins with no blank and goes on with no list. -/
theorem Precedes.rest_starts {query : QueryText} {rest : List Char} (h : query.Precedes rest) :
    Halts isWhiteSpace rest ∧ ∀ mark ∈ [',', '('], rest.head? ≠ some mark := by
  have hhead : ∃ ch ∈ [';', 'f'], rest.head? = some ch := by
    rcases h with hsemicolon | ⟨-, hclause⟩
    · exact ⟨';', by decide, hsemicolon⟩
    · exact ⟨'f', by decide, hclause⟩
  obtain ⟨ch, hch, hrest⟩ := hhead
  have hother : isWhiteSpace ch = false ∧ ch ∉ [',', '('] := by
    rcases List.mem_pair.mp hch with rfl | rfl <;> decide
  rw [Halts, hrest]
  refine ⟨hother.1, ?_⟩
  rintro mark hmark ⟨⟩
  exact hother.2 hmark

/-- The last name in front of the text ends there. -/
theorem Precedes.ends_name {query : QueryText} {rest : List Char} (h : query.Precedes rest) :
    ∃ mark more, query.text ++ rest = mark :: more ∧ isNameCharacter mark = false ∧ mark ≠ '&' ∧
      mark ≠ '.' := by
  have hstarts := query.starts
  cases htext : query.text with
  | nil =>
      have hclosed : ¬query.Opens := by
        rw [Opens, htext]
        exact Bool.false_ne_true
      have hsemicolon : rest.head? = some ';' :=
        h.resolve_right fun hclause => hclosed hclause.1
      obtain ⟨more, rfl⟩ := List.head?_eq_some_iff.mp hsemicolon
      exact ⟨';', more, rfl, by decide⟩
  | cons ch text =>
      rw [htext] at hstarts
      refine ⟨ch, text ++ rest, rfl, ?_⟩
      rcases Bool.or_eq_true_iff.mp hstarts with hblank | hbracket
      · exact delimiter_ends_name (isDelimiter_of_blank hblank)
      · obtain rfl := beq_iff_eq.mp hbracket
        decide

theorem Opens.halts_word {query : QueryText} (h : query.Opens) (before : List Char) :
    Halts isWordCharacter (query.text.reverse ++ before) := by
  obtain ⟨last, htext, hopener⟩ := (Option.any_eq_true _ _).mp h
  rw [Halts, List.head?_append, List.head?_reverse, htext, Option.some_or, Option.any_some]
  exact (opener_borders hopener).1

end QueryText

/-! ## Clauses -/

open TableCreation

theorem precedes_clauses {query : QueryText} {clauses : List FromClause}
    (hopens : ∀ text ∈ (query :: clauses.map FromClause.following).dropLast, text.Opens)
    (suffix : List Char) : query.Precedes (clausesText clauses ++ ';' :: suffix) := by
  cases clauses with
  | nil => exact .inl rfl
  | cons clause clauses => exact .inr ⟨hopens query (by simp), rfl⟩

theorem TableEnumeration.halts_space (tables : TableEnumeration) (rest : List Char) :
    Halts isWhiteSpace (tables.text ++ rest) := by
  rw [TableEnumeration.text, List.append_assoc]
  exact tables.first.halts_space _

theorem Pattern.fromClause_append {before blanks rest : List Char}
    (hbefore : Halts isWordCharacter before) (hne : blanks ≠ []) (hblanks : IsBlank blanks)
    (hrest : Halts isWhiteSpace rest) :
    fromClause ⟨before, "from".toList ++ (blanks ++ rest)⟩ =
      some ⟨blanks.reverse ++ ("from".toList.reverse ++ before), rest⟩ := by
  rw [fromClause, spaced, opening_append "from" (by decide) (by decide) hbefore,
    Option.bind_eq_bind, Option.bind_some, Cursor.space?_append hne hblanks hrest]

namespace FromClause

theorem endsEnumeration (clause : FromClause) {rest : List Char}
    (h : clause.following.Precedes rest) :
    EndsEnumeration (clause.following.text ++ rest) := by
  have hpeek (before : List Char) : ∀ mark ∈ [',', '('],
      (⟨before, clause.following.text ++ rest⟩ : Cursor).skipSpace.peek ≠ some mark := by
    intro mark hmark hopened
    rw [Cursor.peek_skipSpace_append before [], Cursor.peek_skipSpace, Option.or_eq_some_iff]
      at hopened
    rcases hopened with hinside | ⟨-, hbehind⟩
    · exact clause.apart mark hmark hinside
    · obtain ⟨hhalts, hother⟩ := h.rest_starts
      rw [Cursor.skipSpace_of_halts hhalts] at hbehind
      exact hother mark hmark hbehind
  exact
    { table := ⟨h.ends_name, fun before => hpeek before '(' (by decide)⟩
      last := fun before => hpeek before ',' (by decide) }

theorem semicolon_notMem (clause : FromClause) : ';' ∉ clause.text := by
  simp [text_eq, clause.isBlank_blanks.semicolon_notMem, clause.tables.semicolon_notMem,
    clause.following.unbroken]

end FromClause

theorem semicolon_notMem_clauses (clauses : List FromClause) : ';' ∉ clausesText clauses := by
  rw [clausesText, List.mem_flatMap]
  rintro ⟨clause, -, hmem⟩
  exact clause.semicolon_notMem hmem

section Clauses

variable (query : QueryText) (clauses : List FromClause) (before suffix : List Char)

theorem skipWhile_clauses :
    (⟨before, query.text ++ (clausesText clauses ++ ';' :: suffix)⟩ : Cursor).skipWhile
        (· != ';') =
      ⟨(query.text ++ clausesText clauses).reverse ++ before, ';' :: suffix⟩ := by
  have hunbroken : ';' ∉ query.text ++ clausesText clauses := by
    simp [query.unbroken, semicolon_notMem_clauses clauses]
  rw [← List.append_assoc]
  exact Cursor.skipWhile_mark hunbroken before suffix

/-- No clause is found in front of the end of the statement. -/
theorem fromClause?_eq_none :
    (⟨before, query.text ++ ';' :: suffix⟩ : Cursor).fromClause? = none := by
  have hsearch := query.findFrom_append (.inr rfl : Separates query.text (';' :: suffix)) before
  have hnone : (⟨before, query.text ++ ';' :: suffix⟩ : Cursor).findBefore? Pattern.fromClause
      ⟨query.text.reverse ++ before, ';' :: suffix⟩ = none :=
    Cursor.findBefore?_eq_none hsearch
  simp only [Cursor.fromClause?, Cursor.skipWhile_mark query.unbroken, hnone]
  rfl

/-- The clause behind the text is found, and all of its tables are read. -/
theorem fromClause?_clauses (clause : FromClause) (hopens : query.Opens)
    (hfollowing : clause.following.Precedes (clausesText clauses ++ ';' :: suffix)) :
    (⟨before, query.text ++ (clausesText (clause :: clauses) ++ ';' :: suffix)⟩ :
        Cursor).fromClause? =
      some (clause.tables.references,
        ⟨clause.tables.text.reverse ++ (clause.blanks.reverse ++
            ("from".toList.reverse ++ (query.text.reverse ++ before))),
          clause.following.text ++ (clausesText clauses ++ ';' :: suffix)⟩) := by
  let rest := clause.following.text ++ (clausesText clauses ++ ';' :: suffix)
  let found : Found :=
    ⟨⟨query.text.reverse ++ before, clausesText (clause :: clauses) ++ ';' :: suffix⟩,
      ⟨clause.blanks.reverse ++ ("from".toList.reverse ++ (query.text.reverse ++ before)),
        clause.tables.text ++ rest⟩⟩
  have hwritten : clausesText (clause :: clauses) ++ ';' :: suffix =
      "from".toList ++ (clause.blanks ++ (clause.tables.text ++ rest)) := by
    simp [clausesText, FromClause.text_eq, rest]
  have hmatch : Pattern.fromClause found.start = some found.stop := by
    simp only [found, hwritten]
    exact Pattern.fromClause_append (hopens.halts_word before) clause.blanks_ne_nil
      clause.isBlank_blanks (clause.tables.halts_space rest)
  have hclause : query.Precedes (clausesText (clause :: clauses) ++ ';' :: suffix) :=
    .inr ⟨hopens, rfl⟩
  have hsearch : (⟨before, query.text ++ (clausesText (clause :: clauses) ++ ';' :: suffix)⟩ :
      Cursor).find? Pattern.fromClause = some found :=
    (query.findFrom_append hclause.separates before).trans (findFrom_eq_of_match hmatch)
  have hless : (⟨(query.text ++ clausesText (clause :: clauses)).reverse ++ before,
      ';' :: suffix⟩ : Cursor).remaining < found.start.remaining := by
    simp only [found, Cursor.remaining, hwritten]
    simp [rest]
    omega
  have hlimited := Cursor.findBefore?_of_find? hsearch hless
  have htables := clause.tables.read_append (clause.endsEnumeration hfollowing) found.stop.before
  simp only [Cursor.fromClause?, skipWhile_clauses, hlimited, Option.bind_eq_bind,
    Option.bind_some]
  exact congrArg some htables

/-- All clauses are read, and behind the last of them the statement ends. -/
theorem fromClauses_append
    (hopens : ∀ text ∈ (query :: clauses.map FromClause.following).dropLast, text.Opens) :
    ∃ stop text,
      (⟨before, query.text ++ (clausesText clauses ++ ';' :: suffix)⟩ : Cursor).fromClauses =
        (clauses.flatMap fun clause => clause.tables.references, stop) ∧
      stop.through? ';' = some (text,
        ⟨';' :: ((query.text ++ clausesText clauses).reverse ++ before), suffix⟩) := by
  induction clauses generalizing query before with
  | nil =>
      refine ⟨_, query.text,
        Cursor.fromClauses_of_none (fromClause?_eq_none query before suffix), ?_⟩
      change Cursor.through? ⟨before, query.text ++ ';' :: suffix⟩ ';' = _
      rw [Cursor.through?_append query.unbroken]
      simp [clausesText]
  | cons clause clauses ih =>
      have hlater : ∀ text ∈
          (clause.following :: clauses.map FromClause.following).dropLast, text.Opens := by
        intro text htext
        exact hopens text (by simp [htext])
      have hclause := fromClause?_clauses query clauses before suffix clause
        (hopens query (by simp)) (precedes_clauses hlater suffix)
      obtain ⟨stop, text, hread, hstop⟩ := ih clause.following _ hlater
      refine ⟨stop, text, ?_, ?_⟩
      · rw [Cursor.fromClauses_of_some hclause, hread]
        rfl
      · rw [hstop]
        simp [clausesText, FromClause.text_eq]

end Clauses

/-! ## Statements -/

theorem EndsWord.of_blanks {blanks : List Char} (hne : blanks ≠ []) (hblanks : IsBlank blanks)
    (before : List Char) : EndsWord (blanks ++ before) := by
  cases blanks with
  | nil => contradiction
  | cons ch blanks =>
      obtain ⟨hglue, hword, -⟩ := blank_delimits (hblanks ch List.mem_cons_self)
      exact ⟨(halts_cons _ _ _).mpr hglue, (halts_cons _ _ _).mpr hword⟩

namespace TableCreation

variable (statement : TableCreation)

theorem endsEnumeration_outputs (rest : List Char) :
    EndsEnumeration (statement.closing ++ ("as".toList ++ rest)) := by
  have hpeek (before : List Char) :
      (⟨before, statement.closing ++ ("as".toList ++ rest)⟩ : Cursor).skipSpace.peek =
        some 'a' := by
    have hhalts : Halts isWhiteSpace ("as".toList ++ rest) := (halts_cons _ _ _).mpr (by decide)
    rw [Cursor.skipSpace, Cursor.skipWhile_append statement.isBlank_closing hhalts]
    rfl
  have hother (before : List Char) : ∀ mark ∈ [',', '('],
      (⟨before, statement.closing ++ ("as".toList ++ rest)⟩ : Cursor).skipSpace.peek ≠
        some mark := by
    intro mark hmark hopened
    rw [hpeek] at hopened
    obtain rfl := Option.some.inj hopened
    exact absurd hmark (by decide)
  exact
    { table :=
        ⟨blanks_end_name statement.closing_ne_nil statement.isBlank_closing _,
          fun before => hother before '(' (by decide)⟩
      last := fun before => hother before ',' (by decide) }

theorem queryText_append (rest : List Char) :
    statement.queryText ++ rest =
      statement.query.text ++ (clausesText statement.clauses ++ rest) :=
  List.append_assoc _ _ _

theorem halts_glue_query (rest : List Char) :
    Halts isKeywordGlue (statement.queryText ++ rest) := by
  obtain ⟨ch, hhead, hblank⟩ := (Option.any_eq_true _ _).mp statement.query_starts
  obtain ⟨more, htext⟩ := List.head?_eq_some_iff.mp hhead
  rw [queryText, htext]
  exact (halts_cons _ _ _).mpr (blank_delimits hblank).1

/-- The statement is read with its outputs, with the tables of all of its clauses in their
order and through its semicolon, whatever follows. -/
theorem createTable?_append {before : List Char} (hbefore : Halts isKeywordGlue before)
    (suffix : List Char) :
    (⟨before, statement.text ++ suffix⟩ : Cursor).createTable? =
      some (statement.procedure, ⟨statement.text.reverse ++ before, suffix⟩) := by
  have hglue (rest : List Char) : Halts isKeywordGlue (' ' :: rest) :=
    (halts_cons _ _ _).mpr (by decide)
  have hletter (rest : List Char) : Halts isWhiteSpace ("table".toList ++ rest) :=
    (halts_cons _ _ _).mpr (by decide)
  have has (rest : List Char) : Halts isWhiteSpace ("as".toList ++ rest) :=
    (halts_cons _ _ _).mpr (by decide)
  have hcreate (rest : List Char) := Cursor.word?_append "create" hbefore (hglue rest)
  have hspace (rest before : List Char) := Cursor.space?_blank (hletter rest) before
  have htable (before rest : List Char) := Cursor.word?_append "table" (hglue before)
    (EndsWord.of_blanks statement.opening_ne_nil statement.isBlank_opening rest).glue
  have hopening (before rest : List Char) := Cursor.skipWhile_append statement.isBlank_opening
    (statement.outputs.halts_space rest) before
  have houtputs (before rest : List Char) :=
    statement.outputs.read_append (statement.endsEnumeration_outputs rest) before
  have hclosing (before rest : List Char) :=
    Cursor.skipWhile_append statement.isBlank_closing (has rest) before
  have hquery (before : List Char) := Cursor.word?_append "as"
    (EndsWord.of_blanks (List.reverse_ne_nil_iff.mpr statement.closing_ne_nil)
      (fun ch hch => statement.isBlank_closing ch (List.mem_reverse.mp hch)) before).glue
    (statement.halts_glue_query (';' :: suffix))
  obtain ⟨stop, last, hclauses, hstop⟩ := fromClauses_append statement.query statement.clauses
    ("as".toList.reverse ++ (statement.closing.reverse ++ (statement.outputs.text.reverse ++
      (statement.opening.reverse ++ ("table".toList.reverse ++
        ' ' :: ("create".toList.reverse ++ before)))))) suffix statement.opens
  rw [← queryText_append] at hclauses
  rw [text_append]
  simp only [Cursor.createTable?, Cursor.skipSpace, hcreate, hspace, htable, hopening, houtputs,
    hclosing, hquery, hclauses, hstop, Option.bind_eq_bind, Option.bind_some]
  simp [procedure, text_eq, queryText]

end TableCreation

def totalsTable : TableEnumeration := ⟨⟨some ⟨"mart", by decide⟩, ⟨"totals", by decide⟩⟩, []⟩

def orderTables : TableEnumeration where
  first := ⟨none, ⟨"orders", by decide⟩⟩
  others := [⟨['\t'], ['\r', '\n'], ⟨some ⟨"raw", by decide⟩, ⟨"items", by decide⟩⟩,
    List.all_eq_true.mp (by decide), List.all_eq_true.mp (by decide)⟩]

def openTable : TableEnumeration := ⟨⟨none, ⟨"open", by decide⟩⟩, []⟩

def orderClause : FromClause where
  blanks := ['\r', '\n']
  tables := orderTables
  following :=
    { text := " where id in (select id ".toList
      unbroken := by decide
      starts := by decide
      sourceless := by decide +kernel }
  blanks_ne_nil := by decide
  isBlank_blanks := List.all_eq_true.mp (by decide)
  apart := List.forall_mem_cons.mpr ⟨by decide, List.forall_mem_singleton.mpr (by decide)⟩

/-- The clause of a query in brackets. -/
def openClause : FromClause where
  blanks := ['\t']
  tables := openTable
  following :=
    { text := ") and source = 'from'".toList
      unbroken := by decide
      starts := by decide
      sourceless := by decide +kernel }
  blanks_ne_nil := by decide
  isBlank_blanks := List.all_eq_true.mp (by decide)
  apart := List.forall_mem_cons.mpr ⟨by decide, List.forall_mem_singleton.mpr (by decide)⟩

def totalsStatement : TableCreation where
  opening := ['\t']
  outputs := totalsTable
  closing := ['\t']
  query :=
    { text := " select * ".toList
      unbroken := by decide
      starts := by decide
      sourceless := by decide +kernel }
  clauses := [orderClause, openClause]
  opening_ne_nil := by decide
  isBlank_opening := List.all_eq_true.mp (by decide)
  closing_ne_nil := by decide
  isBlank_closing := List.all_eq_true.mp (by decide)
  query_starts := by decide
  opens := by decide

theorem TableCreation.createTable?_append_of_totals :
    Halts isKeywordGlue [] ∧
      String.ofList totalsStatement.text =
        "create table\tmart.totals\tas select * from\r\norders\t,\r\nraw.items" ++
          " where id in (select id from\topen) and source = 'from';" ∧
      (⟨[], totalsStatement.text ++ " select a from b;".toList⟩ : Cursor).createTable? =
        some (⟨"sql",
            [⟨none, .ofLiteral "orders", none⟩,
              ⟨some (.ofLiteral "raw"), .ofLiteral "items", none⟩,
              ⟨none, .ofLiteral "open", none⟩],
            [⟨some (.ofLiteral "mart"), .ofLiteral "totals", none⟩]⟩,
          ⟨totalsStatement.text.reverse, " select a from b;".toList⟩) := by
  have hread := totalsStatement.createTable?_append (halts_nil _) " select a from b;".toList
  rw [List.append_nil] at hread
  exact ⟨halts_nil _, by decide +kernel, hread⟩

end SasOutline
