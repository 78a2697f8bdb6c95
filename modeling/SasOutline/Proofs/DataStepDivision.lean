import SasOutline.Proofs.DataStepParts
import SasOutline.Proofs.LeftmostMatch
import SasOutline.Proofs.ReaderProgress

/-!
# The division of a data step

The text behind the statement that opens a step is divided among the header, the statement
with the inputs, the body and the `run` that ends the step.  The parts lie end to end
whatever the text looks like: a statement that cannot be read leaves its text to the body,
and no word `run` stands in front of the place where the body ends.
-/

namespace SasOutline

/-- In ASCII the two notions of a word agree. -/
theorem isWordCharacter_of_ascii {ch : Char} (hch : ch.toNat < 128) :
    isWordCharacter ch = isKeywordGlue ch :=
  forall_ascii (P := fun ch => isWordCharacter ch = isKeywordGlue ch) (by decide +kernel) hch

/-! ## The end of a statement -/

/-- Blanks and a semicolon, and nothing else, stand between the two cursors. -/
def EndsStatement (cursor later : Cursor) : Prop :=
  ∃ blanks, IsBlank blanks ∧ cursor.Reads (blanks ++ [';']) later

namespace Cursor

theorem semicolon?_eq_some_iff {cursor later : Cursor} :
    cursor.semicolon? = some later ↔ EndsStatement cursor later := by
  constructor
  · intro h
    obtain ⟨blanks, hblanks, hread⟩ := cursor.skipSpace_reads
    exact ⟨blanks, hblanks, hread.trans (char?_reads h)⟩
  · rintro ⟨blanks, hblanks, hrest, hpast⟩
    obtain ⟨before, rest⟩ := cursor
    obtain ⟨laterBefore, laterRest⟩ := later
    have hwritten : rest = blanks ++ ';' :: laterRest := by simpa using hrest
    have hbehind : laterBefore = ';' :: (blanks.reverse ++ before) := by simpa using hpast
    rw [hwritten, hbehind, semicolon?, skipSpace,
      skipWhile_append hblanks (halts_space_semicolon laterRest), char?_cons_self]

theorem dataStatement?_previous {cursor start : Cursor}
    {statement : List DatasetReference × Option (List DatasetOption)}
    (h : cursor.dataStatement? = some (statement, start)) : start.previous = some ';' := by
  obtain ⟨keyword, -, h⟩ := Option.bind_eq_some_iff.1 h
  obtain ⟨list, -, h⟩ := Option.bind_eq_some_iff.1 h
  obtain ⟨stop, hstop, h⟩ := Option.bind_eq_some_iff.1 h
  obtain ⟨-, rfl⟩ := Prod.mk.inj (Option.some.inj h)
  rw [previous, (char?_eq_some hstop).2]
  rfl

theorem datasetList_of_not_ascii {ch : Char} (hch : ¬ch.toNat < 128) (before rest : List Char) :
    (⟨before, ch :: rest⟩ : Cursor).datasetList = ([], ⟨before, ch :: rest⟩) := by
  have hname : isNameCharacter ch = false := by
    by_contra hname
    exact hch (toNat_lt_of_isNameCharacter (Bool.not_eq_false _ ▸ hname))
  have hother {mark : Char} (hmark : mark.toNat < 128) : ch ≠ mark := by
    rintro rfl
    exact hch hmark
  have hnone : (⟨before, ch :: rest⟩ : Cursor).dynamicName? = none :=
    dynamicName?_eq_none_of_startsNoSegment
      (startsNoSegment_cons hname (hother (by decide)) rest) before
  have hdot : (⟨before, ch :: rest⟩ : Cursor).char? '.' = none :=
    char?_other (hother (by decide))
  have hreference : (⟨before, ch :: rest⟩ : Cursor).datasetReference? = none := by
    simp [datasetReference?, qualifier?, datasetName?, optional, hnone, hdot]
  simp [datasetList, separated, hreference]

/-- A keyword in front of tables and a semicolon does not run on. -/
theorem halts_word_of_datasetList {keyword later : Cursor} (hglue : keyword.precedesGlue = false)
    (h : keyword.skipSpace.datasetList.2.semicolon? = some later) :
    Halts isWordCharacter keyword.rest := by
  obtain ⟨before, rest⟩ := keyword
  cases rest with
  | nil => rfl
  | cons ch rest =>
      rw [halts_cons]
      by_contra hword
      rw [Bool.not_eq_false] at hword
      have hch : ¬ch.toNat < 128 := by
        intro hascii
        have hunglued : isKeywordGlue ch = false := hglue
        rw [isWordCharacter_of_ascii hascii, hunglued] at hword
        contradiction
      have hblank : Halts isWhiteSpace (ch :: rest) := by
        rw [halts_cons]
        by_contra hblank
        have hother := (blank_delimits (Bool.not_eq_false _ ▸ hblank)).2.1
        rw [hword] at hother
        contradiction
      have hsemicolon : ch ≠ ';' := by
        rintro rfl
        exact hch (by decide)
      rw [skipSpace_of_halts hblank, datasetList_of_not_ascii hch, semicolon?,
        skipSpace_of_halts hblank, char?_other hsemicolon] at h
      contradiction

end Cursor

/-! ## The statement with the inputs -/

/-- A complete statement that names the inputs: a keyword in any case, blanks, the tables, and
the end of the statement. -/
structure ReadsInputs (inputs : List DatasetReference) (cursor later : Cursor) : Prop where
  found : (Pattern.setOrMerge cursor).isSome = true
  read : ∃ (written blanks : List Char) (list behind : Cursor),
    (∃ keyword ∈ inputKeywords, written.map Char.toLower = keyword.toList) ∧
      IsBlank blanks ∧ cursor.Reads (written ++ blanks) list ∧
      list.datasetList = (inputs, behind) ∧ EndsStatement behind later

namespace Cursor

theorem inputKeyword_spelling : ∀ keyword ∈ inputKeywords,
    keyword.toList ≠ [] ∧ keyword.toList.map Char.toLower = keyword.toList ∧
      keyword.toList.all isWordCharacter = true := by
  decide

theorem inputKeyword?_eq_some {cursor later : Cursor}
    (h : (cursor.word? "set" <|> cursor.word? "merge") = some later) :
    ∃ keyword ∈ inputKeywords, cursor.word? keyword = some later := by
  rcases orElse_some h with hset | ⟨-, hmerge⟩
  · exact ⟨"set", by decide, hset⟩
  · exact ⟨"merge", by decide, hmerge⟩

theorem word?_eq_some {cursor later : Cursor} {word : String}
    (h : cursor.word? word = some later) :
    cursor.followsGlue = false ∧ later.precedesGlue = false ∧
      ∃ read, cursor.Reads read later ∧
        read.map Char.toLower = word.toList.map Char.toLower := by
  unfold word? at h
  split at h
  · contradiction
  · next hglue =>
      obtain ⟨hkeyword, hnext⟩ := Option.filter_eq_some_iff.1 h
      exact ⟨by simpa using hglue, by simpa using hnext, letters?_eq_some hkeyword⟩

/-- A keyword with its tables is found by the search for the end of the header. -/
theorem setOrMerge_of_setStatement? {cursor later : Cursor} {inputs : List DatasetReference}
    (hbefore : Halts isWordCharacter cursor.skipSpace.before)
    (h : cursor.setStatement? = some (inputs, later)) :
    ∃ stop, Pattern.setOrMerge cursor.skipSpace = some stop := by
  obtain ⟨keyword, hkeyword, h⟩ := Option.bind_eq_some_iff.1 h
  obtain ⟨stop, hstop, -⟩ := Option.bind_eq_some_iff.1 h
  obtain ⟨word, hword, hread⟩ := inputKeyword?_eq_some hkeyword
  obtain ⟨-, hglue, written, hwritten, hletters⟩ := word?_eq_some hread
  obtain ⟨hletter, hlower, hcharacters⟩ := inputKeyword_spelling word hword
  have hne : written ≠ [] := by
    rintro rfl
    exact hletter (hlower.symm.trans hletters.symm)
  have hwritten_word : ∀ ch ∈ written, isWordCharacter ch = true := by
    intro ch hch
    have hmem : ch.toLower ∈ word.toList := by
      rw [← hlower, ← hletters]
      exact List.mem_map_of_mem hch
    rw [← isWordCharacter_toLower]
    exact List.all_eq_true.mp hcharacters _ hmem
  have hfolded : written.map foldedLetter = word.toList.map foldedLetter := by
    simpa [Function.comp_def] using congrArg (List.map foldedLetter) hletters
  have hend := halts_word_of_datasetList hglue hstop
  have hwhole : Pattern.wholeWord word cursor.skipSpace = some keyword :=
    Pattern.wholeWord_of_reads hwritten hfolded
      (hwritten.atBoundary_start hne hwritten_word hbefore)
      (hwritten.atBoundary_stop hne hwritten_word hend)
  rcases List.mem_pair.mp hword with rfl | rfl
  · exact ⟨keyword, Pattern.either_first hwhole⟩
  · cases hset : Pattern.wholeWord "set" cursor.skipSpace with
    | some stop => exact ⟨stop, Pattern.either_first hset⟩
    | none => exact ⟨keyword, (Pattern.either_second hset).trans hwhole⟩

theorem setStatement?_eq_some {cursor later : Cursor} {inputs : List DatasetReference}
    (hfound : (Pattern.setOrMerge cursor.skipSpace).isSome = true)
    (h : cursor.setStatement? = some (inputs, later)) :
    ReadsInputs inputs cursor.skipSpace later := by
  obtain ⟨keyword, hkeyword, h⟩ := Option.bind_eq_some_iff.1 h
  obtain ⟨stop, hstop, h⟩ := Option.bind_eq_some_iff.1 h
  obtain ⟨rfl, rfl⟩ := Prod.mk.inj (Option.some.inj h)
  obtain ⟨word, hword, hread⟩ := inputKeyword?_eq_some hkeyword
  obtain ⟨-, -, written, hwritten, hletters⟩ := word?_eq_some hread
  obtain ⟨-, hlower, -⟩ := inputKeyword_spelling word hword
  obtain ⟨blanks, hblanks, hlist⟩ := keyword.skipSpace_reads
  exact
    { found := hfound
      read := ⟨written, blanks, _, _, ⟨word, hword, hletters.trans hlower⟩, hblanks,
        hwritten.trans hlist, rfl, semicolon?_eq_some_iff.mp hstop⟩ }

theorem setOrMerge_blank {ch : Char} (hch : isWhiteSpace ch = true) (before rest : List Char) :
    Pattern.setOrMerge ⟨before, ch :: rest⟩ = none := by
  have hdelimiter := isDelimiter_of_blank hch
  rw [Pattern.setOrMerge, Pattern.either_second
    (Pattern.wholeWord_delimiter (by decide) (by decide) hdelimiter before rest)]
  exact Pattern.wholeWord_delimiter (by decide) (by decide) hdelimiter before rest

/-- Blanks hold neither a keyword nor a `run`, so the search for the header ends in front of a
keyword that only blanks separate from its start. -/
theorem stepHeader?_isSome_of_setOrMerge {cursor keyword : Cursor}
    (h : Pattern.setOrMerge cursor.skipSpace = some keyword) :
    cursor.stepHeader?.isSome = true := by
  have hfound : cursor.find? Pattern.setOrMerge = some ⟨cursor.skipSpace, keyword⟩ :=
    find?_of_misses cursor.skipSpace_reaches h
      (cursor.misses_skipSpace fun _ before rest hch => setOrMerge_blank hch before rest)
  have hrun : cursor.findBefore? Pattern.run cursor.skipSpace = none :=
    findBefore?_of_misses (cursor.misses_skipSpace fun _ before rest hch =>
      Pattern.wholeWord_delimiter (by decide) (by decide) (isDelimiter_of_blank hch) before rest)
  simp [stepHeader?, hfound, hrun]

theorem stepHeader?_of_setStatement? {cursor later : Cursor} {inputs : List DatasetReference}
    (hbefore : EndsWord cursor.before) (h : cursor.setStatement? = some (inputs, later)) :
    cursor.stepHeader?.isSome = true := by
  have hbehind : EndsWord cursor.skipSpace.before := by
    obtain ⟨blanks, hblanks, -, hpast⟩ := cursor.skipSpace_reads
    rw [hpast]
    exact hbefore.blanks hblanks
  obtain ⟨keyword, hkeyword⟩ := setOrMerge_of_setStatement? hbehind.word h
  exact stepHeader?_isSome_of_setOrMerge hkeyword

/-! ## The parts of a step -/

theorem setOrMerge_eq_some {cursor stop : Cursor} (h : Pattern.setOrMerge cursor = some stop) :
    ∃ keyword ∈ inputKeywords, Pattern.wholeWord keyword cursor = some stop := by
  rcases orElse_some h with hset | ⟨-, hmerge⟩
  · exact ⟨"set", by decide, hset⟩
  · exact ⟨"merge", by decide, hmerge⟩

theorem skipSpace_of_setOrMerge {cursor stop : Cursor}
    (h : Pattern.setOrMerge cursor = some stop) : cursor.skipSpace = cursor := by
  obtain ⟨before, rest⟩ := cursor
  apply skipSpace_of_halts
  cases rest with
  | nil => rfl
  | cons ch rest =>
      rw [halts_cons]
      by_contra hblank
      rw [setOrMerge_blank (Bool.not_eq_false _ ▸ hblank)] at h
      contradiction

theorem dataStep?_eq_some {cursor stop : Cursor} {step : DataStep}
    (h : cursor.dataStep? = some (step, stop)) :
    ∃ (start : Cursor) (run : Found),
      let header := optional start start.stepHeader?
      let inputs := optional header.2 header.2.setStatement?
      cursor.dataStatement? = some ((step.outputs, step.options), start) ∧
        step.header = header.1.getD "" ∧ step.inputs = inputs.1.getD [] ∧
        inputs.2.find? Pattern.run = some run ∧
        step.body = inputs.2.stringUntil run.start ∧ run.stop.semicolon? = some stop := by
  obtain ⟨⟨⟨outputs, options⟩, start⟩, hstart, h⟩ := Option.bind_eq_some_iff.1 h
  obtain ⟨run, hrun, h⟩ := Option.bind_eq_some_iff.1 h
  obtain ⟨last, hlast, h⟩ := Option.bind_eq_some_iff.1 h
  obtain ⟨rfl, rfl⟩ := Prod.mk.inj (Option.some.inj h)
  exact ⟨start, run, hstart, rfl, rfl, hrun, rfl, hlast⟩

theorem Pattern.misses_self (pattern : Pattern) (cursor : Cursor) :
    pattern.Misses cursor cursor := by
  intro place hplace hless
  exact absurd hplace.remaining_le (Nat.not_le.mpr hless)

/-- The header is what stands in front of the first keyword; no word `run` stands there. -/
theorem stepHeader?_eq_some {cursor headerStop : Cursor} {header : String}
    (h : cursor.stepHeader? = some (header, headerStop)) :
    cursor.Reads header.toList headerStop ∧ Pattern.setOrMerge.Misses cursor headerStop ∧
      Pattern.run.Misses cursor headerStop ∧
      ∃ stop, cursor.find? Pattern.setOrMerge = some ⟨headerStop, stop⟩ := by
  obtain ⟨found, hfound, h⟩ := Option.bind_eq_some_iff.1 h
  split at h
  · contradiction
  · next hrun =>
      obtain ⟨rfl, rfl⟩ := Prod.mk.inj (Option.some.inj h)
      have hnone : cursor.findBefore? Pattern.run found.start = none := by simpa using hrun
      have hreads := (find?_some hfound).1.reads
      refine ⟨?_, find?_misses hfound, findBefore?_misses hnone, found.stop, hfound⟩
      rwa [stringUntil, String.toList_ofList]

/-- The header with the place behind it, also when there is none. -/
theorem optionalHeader_reads (start : Cursor) :
    let header := optional start start.stepHeader?
    start.Reads (header.1.getD "").toList header.2 ∧
      Pattern.setOrMerge.Misses start header.2 ∧ Pattern.run.Misses start header.2 := by
  cases hheader : start.stepHeader? with
  | none => exact ⟨⟨rfl, rfl⟩, Pattern.misses_self _ _, Pattern.misses_self _ _⟩
  | some read =>
      obtain ⟨header, headerStop⟩ := read
      obtain ⟨hreads, hset, hrun, -⟩ := stepHeader?_eq_some hheader
      exact ⟨hreads, hset, hrun⟩

/-- The inputs with the place behind their statement.  A statement is read only where the
header has found its keyword, so no blanks are left between the two. -/
theorem optionalInputs_reads {start : Cursor} (hbefore : EndsWord start.before) :
    let headerStop := (optional start start.stepHeader?).2
    let inputs := optional headerStop headerStop.setStatement?
    headerStop = inputs.2 ∧ inputs.1.getD [] = [] ∨
      ReadsInputs (inputs.1.getD []) headerStop inputs.2 := by
  intro headerStop
  cases hread : headerStop.setStatement? with
  | none => exact .inl ⟨rfl, rfl⟩
  | some read =>
      right
      have hfound : ∃ stop, Pattern.setOrMerge headerStop = some stop := by
        cases hheader : start.stepHeader? with
        | none =>
            -- The search for the header would have found the keyword of the statement.
            have hsame : headerStop = start := by
              simp [headerStop, hheader, optional]
            rw [hsame] at hread
            have hsome := stepHeader?_of_setStatement? hbefore hread
            rw [hheader] at hsome
            contradiction
        | some header =>
            obtain ⟨-, -, -, stop, hstop⟩ := stepHeader?_eq_some hheader
            have hsame : headerStop = header.2 := by
              simp [headerStop, hheader, optional]
            rw [hsame]
            exact ⟨stop, (find?_some hstop).2⟩
      obtain ⟨stop, hstop⟩ := hfound
      have hblanks := skipSpace_of_setOrMerge hstop
      have hreads := setStatement?_eq_some (by rw [hblanks, hstop]; rfl) hread
      rwa [hblanks] at hreads

end Cursor

/-- A word `run` in any case and the end of its statement stand between the two cursors. -/
structure EndsStep (bodyStop stop : Cursor) : Prop where
  found : (Pattern.run bodyStop).isSome = true
  read : ∃ (written : List Char) (behind : Cursor),
    written.map Char.toLower = "run".toList ∧ bodyStop.Reads written behind ∧
      EndsStatement behind stop

/-- How the text between `start` and `stop` is divided among the parts of a step. -/
structure DataStep.DividedAt (step : DataStep)
    (start headerStop bodyStart bodyStop stop : Cursor) : Prop where
  header : start.Reads step.header.toList headerStop
  inputs : headerStop = bodyStart ∧ step.inputs = [] ∨
    ReadsInputs step.inputs headerStop bodyStart
  body : bodyStart.Reads step.body.toList bodyStop
  ending : EndsStep bodyStop stop
  keywordless_header : Pattern.setOrMerge.Misses start headerStop
  runless_header : Pattern.run.Misses start headerStop
  runless_body : Pattern.run.Misses bodyStart bodyStop

theorem map_toLower_of_folded {read word : List Char} (hread : read.map foldedLetter = word)
    (hs : 's' ∉ word) (hk : 'k' ∉ word) : read.map Char.toLower = word := by
  rw [← hread]
  apply List.map_congr_left
  intro ch hch
  have hmem : foldedLetter ch ∈ word := hread ▸ List.mem_map_of_mem hch
  unfold foldedLetter at hmem ⊢
  split
  · next hlong =>
      rw [if_pos hlong] at hmem
      contradiction
  · next hlong =>
      rw [if_neg hlong] at hmem
      split
      · next hkelvin =>
          rw [if_pos hkelvin] at hmem
          contradiction
      · rfl

theorem endsStep_of_run {bodyStart stop : Cursor} {run : Found}
    (hrun : bodyStart.find? Pattern.run = some run)
    (hstop : run.stop.semicolon? = some stop) : EndsStep run.start stop := by
  have hmatch := (Cursor.find?_some hrun).2
  obtain ⟨-, written, hwritten, hletters⟩ := Pattern.wholeWord_eq_some hmatch
  have hlower : written.map Char.toLower = "run".toList :=
    map_toLower_of_folded hletters (by decide) (by decide)
  exact
    { found := by rw [hmatch]; rfl
      read := ⟨written, run.stop, hlower, hwritten,
        Cursor.semicolon?_eq_some_iff.mp hstop⟩ }

theorem EndsStatement.reaches {cursor later : Cursor} (h : EndsStatement cursor later) :
    cursor.Reaches later := by
  obtain ⟨blanks, -, hread⟩ := h
  exact hread.reaches

theorem EndsStep.reaches {bodyStop stop : Cursor} (h : EndsStep bodyStop stop) :
    bodyStop.Reaches stop := by
  obtain ⟨written, behind, -, hwritten, hstop⟩ := h.read
  exact hwritten.reaches.trans hstop.reaches

theorem ReadsInputs.reaches {inputs : List DatasetReference} {cursor later : Cursor}
    (h : ReadsInputs inputs cursor later) : cursor.Reaches later := by
  obtain ⟨written, blanks, list, behind, -, -, hlist, hread, hlater⟩ := h.read
  have hbehind : list.Reaches behind := by
    have hreaches := list.datasetList_reaches
    rwa [hread] at hreaches
  exact (hlist.reaches.trans hbehind).trans hlater.reaches

theorem DataStep.DividedAt.reads {step : DataStep}
    {start headerStop bodyStart bodyStop stop : Cursor}
    (h : step.DividedAt start headerStop bodyStart bodyStop stop) :
    start.Reads (step.header.toList ++ headerStop.textUntil bodyStart ++
      step.body.toList ++ bodyStop.textUntil stop) stop := by
  have hinputs : headerStop.Reaches bodyStart := by
    rcases h.inputs with ⟨rfl, -⟩ | hread
    · exact Cursor.Reaches.refl headerStop
    · exact hread.reaches
  exact ((h.header.trans hinputs.reads).trans h.body).trans h.ending.reaches.reads

/-- The parts of a step, at the places where the readers of the header and of the inputs
stop. -/
theorem dataStep?_dividedAt {cursor start stop : Cursor} {step : DataStep}
    (h : cursor.dataStep? = some (step, stop))
    (hstart : cursor.dataStatement? = some ((step.outputs, step.options), start)) :
    let headerStop := (optional start start.stepHeader?).2
    let inputs := optional headerStop headerStop.setStatement?
    step.inputs = inputs.1.getD [] ∧
      ∃ bodyStop, step.DividedAt start headerStop inputs.2 bodyStop stop := by
  intro headerStop inputs
  obtain ⟨start', run, hstart', hheader, hinputs, hrun, hbody, hstop⟩ :=
    Cursor.dataStep?_eq_some h
  obtain rfl : start' = start := by
    have hsame := hstart'.symm.trans hstart
    exact congrArg Prod.snd (Option.some.inj hsame)
  have hbefore : EndsWord start'.before := by
    obtain ⟨before, hread⟩ := List.head?_eq_some_iff.mp (Cursor.dataStatement?_previous hstart)
    rw [hread]
    exact endsWord_semicolon before
  obtain ⟨hreads, hset, hrunless⟩ := start'.optionalHeader_reads
  rw [← hheader] at hreads
  have hstatement := Cursor.optionalInputs_reads hbefore
  simp only [← hinputs] at hstatement
  have htext := (Cursor.find?_some hrun).1.reads
  refine ⟨hinputs, run.start, ?_⟩
  exact
    { header := hreads
      inputs := hstatement
      body := by rwa [hbody, Cursor.stringUntil, String.toList_ofList]
      ending := endsStep_of_run hrun hstop
      keywordless_header := hset
      runless_header := hrunless
      runless_body := Cursor.find?_misses hrun }

/-- The text behind the opening statement is the header, the statement with the inputs, the
body and the `run` of the step, and nothing else. -/
theorem dataStep?_divides_text {cursor stop : Cursor} {step : DataStep}
    (h : cursor.dataStep? = some (step, stop)) :
    ∃ start headerStop bodyStart bodyStop : Cursor,
      cursor.dataStatement? = some ((step.outputs, step.options), start) ∧
        start.previous = some ';' ∧
        step.DividedAt start headerStop bodyStart bodyStop stop ∧
        start.Reads (step.header.toList ++ headerStop.textUntil bodyStart ++
          step.body.toList ++ bodyStop.textUntil stop) stop := by
  obtain ⟨start, run, hstart, -⟩ := Cursor.dataStep?_eq_some h
  obtain ⟨-, bodyStop, hdivided⟩ := dataStep?_dividedAt h hstart
  exact ⟨start, _, _, bodyStop, hstart, Cursor.dataStatement?_previous hstart, hdivided,
    hdivided.reads⟩

/-- In front of the keyword stands a word that only ends in `set`, and the body has a `run`
that only begins a longer word. -/
theorem dataStep?_divides_text_of_merge :
    let cursor : Cursor := .ofText "data a; retain preset; MERGE b c; runs = 1; Run ; x"
    let step : DataStep := ⟨[⟨none, .ofLiteral "a", none⟩],
      [⟨none, .ofLiteral "b", none⟩, ⟨none, .ofLiteral "c", none⟩],
      " retain preset; ", " runs = 1; ", none⟩
    cursor.dataStep? = some (step, cursor.skip 49) ∧
      ∃ start headerStop bodyStart bodyStop : Cursor,
        step.DividedAt start headerStop bodyStart bodyStop (cursor.skip 49) ∧
          start.Reads (step.header.toList ++ headerStop.textUntil bodyStart ++
            step.body.toList ++ bodyStop.textUntil (cursor.skip 49)) (cursor.skip 49) := by
  intro cursor step
  have hread : cursor.dataStep? = some (step, cursor.skip 49) := by decide +kernel
  obtain ⟨start, headerStop, bodyStart, bodyStop, -, -, hdivided, hreads⟩ :=
    dataStep?_divides_text hread
  exact ⟨hread, start, headerStop, bodyStart, bodyStop, hdivided, hreads⟩

end SasOutline
