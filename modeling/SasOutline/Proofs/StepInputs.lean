import SasOutline.Proofs.DataStepDivision

/-!
# When a data step has inputs

The header of a step ends at the first word `set` or `merge`.  The tables behind that word are
the inputs of the step when nothing but blanks stands between them and a semicolon.  Options of
the statement, such as `end=last`, stand behind the tables: a statement with options is not
read, the step has no inputs, and the statement becomes a part of its body.

The search for the end of the header and the reader of the statement do not agree on what a
keyword is.  The search takes a long s for the first letter of `set`, and a keyword may follow
a number that is no digit; the reader does neither.
-/

namespace SasOutline

/-- The keyword is written in ASCII letters, and nothing is glued to its front. -/
structure Found.IsPlain (keyword : Found) : Prop where
  unglued : keyword.start.followsGlue = false
  letters : ∃ word ∈ inputKeywords,
    (keyword.start.textUntil keyword.stop).map Char.toLower = word.toList

namespace Cursor

theorem map_foldedLetter_of_toLower {read word : List Char}
    (h : read.map Char.toLower = word.map Char.toLower) :
    read.map foldedLetter = word.map foldedLetter := by
  simpa [Function.comp_def] using congrArg (List.map foldedLetter) h

/-- The first letter tells the keywords apart, so only one can stand at a place. -/
theorem inputKeyword_unique {cursor first second : Cursor} {read read' : List Char}
    {word word' : String} (hword : word ∈ inputKeywords) (hword' : word' ∈ inputKeywords)
    (hread : cursor.Reads read first) (hread' : cursor.Reads read' second)
    (hletters : read.map foldedLetter = word.toList.map foldedLetter)
    (hletters' : read'.map foldedLetter = word'.toList.map foldedLetter) :
    word = word' ∧ first = second := by
  have hhead {word : String} {read : List Char} {later : Cursor} (hword : word ∈ inputKeywords)
      (hread : cursor.Reads read later)
      (hletters : read.map foldedLetter = word.toList.map foldedLetter) :
      (word.toList.map foldedLetter).head? = (cursor.rest.map foldedLetter).head? := by
    have hne : word.toList.map foldedLetter ≠ [] := by
      simpa using (inputKeyword_spelling word hword).1
    rw [hread.1, List.map_append, hletters, List.head?_append_of_ne_nil _ hne]
  have hapart : ∀ word ∈ inputKeywords, ∀ word' ∈ inputKeywords,
      (word.toList.map foldedLetter).head? = (word'.toList.map foldedLetter).head? →
        word = word' := by
    decide
  obtain rfl : word = word' :=
    hapart word hword word' hword'
      ((hhead hword hread hletters).trans (hhead hword' hread' hletters').symm)
  have hlength : read.length = read'.length := by
    simpa using congrArg List.length (hletters.trans hletters'.symm)
  refine ⟨rfl, ?_⟩
  rw [← hread.skip_eq, ← hread'.skip_eq, hlength]

theorem word?_of_reads {cursor later : Cursor} {word : String} {read : List Char}
    (hread : cursor.Reads read later)
    (hletters : read.map Char.toLower = word.toList.map Char.toLower)
    (hglue : cursor.followsGlue = false) (hnext : later.precedesGlue = false) :
    cursor.word? word = some later := by
  have hlength : read.length = word.toList.length := by
    simpa using congrArg List.length hletters
  rw [word?, keyword?, letters?_of_reads hread hlength, if_pos hletters, hglue]
  simp [Option.filter, hnext]

/-- The reader takes the keyword that the search has found, if it is plain. -/
theorem inputKeyword?_eq_some_iff {keyword : Found} {later : Cursor}
    (hfound : Pattern.setOrMerge keyword.start = some keyword.stop)
    (hnext : keyword.stop.precedesGlue = false) :
    (keyword.start.word? "set" <|> keyword.start.word? "merge") = some later ↔
      keyword.IsPlain ∧ later = keyword.stop := by
  obtain ⟨word, hword, hmatch⟩ := setOrMerge_eq_some hfound
  obtain ⟨-, read, hread, hletters⟩ := Pattern.wholeWord_eq_some hmatch
  constructor
  · intro h
    obtain ⟨word', hword', hlater⟩ := inputKeyword?_eq_some h
    obtain ⟨hglue, -, read', hread', hlower⟩ := word?_eq_some hlater
    obtain ⟨rfl, rfl⟩ := inputKeyword_unique hword hword' hread hread' hletters
      (map_foldedLetter_of_toLower hlower)
    refine ⟨⟨hglue, word, hword, ?_⟩, rfl⟩
    rw [hread'.textUntil_eq, hlower, (inputKeyword_spelling word hword).2.1]
  · rintro ⟨⟨hglue, word', hword', hlower⟩, rfl⟩
    rw [hread.textUntil_eq] at hlower
    have hspelled : read.map Char.toLower = word'.toList.map Char.toLower := by
      rw [hlower, (inputKeyword_spelling word' hword').2.1]
    have hplain := word?_of_reads hread hspelled hglue hnext
    rcases List.mem_pair.mp hword' with rfl | rfl
    · rw [hplain]
      rfl
    · cases hset : keyword.start.word? "set" with
      | none => exact hplain
      | some stop =>
          obtain ⟨-, -, read', hread', hlower'⟩ := word?_eq_some hset
          obtain ⟨hsame, -⟩ := inputKeyword_unique (by decide) hword' hread' hread
            (map_foldedLetter_of_toLower hlower') (map_foldedLetter_of_toLower hspelled)
          contradiction

/-! ## The statement at the keyword -/

theorem precedesGlue_of_space? {cursor later : Cursor} (h : cursor.space? = some later) :
    cursor.precedesGlue = false := by
  unfold space? run? at h
  split at h
  · next hblank =>
      obtain ⟨ch, hpeek, hch⟩ := (Option.any_eq_true _ _).mp hblank
      rw [precedesGlue, hpeek, Option.any_some]
      exact (blank_delimits hch).1
  · contradiction

theorem skipSpace_of_space? {cursor later : Cursor} (h : cursor.space? = some later) :
    cursor.skipSpace = later := by
  unfold space? run? at h
  split at h
  · exact Option.some.inj h
  · contradiction

/-- The keyword opens a statement with inputs when it is plain and the statement ends behind
the tables. -/
theorem setStatement?_eq_some_iff {keyword : Found} {list later : Cursor}
    {inputs : List DatasetReference}
    (hfound : Pattern.setOrMerge keyword.start = some keyword.stop)
    (hlist : keyword.stop.space? = some list) :
    keyword.start.setStatement? = some (inputs, later) ↔
      keyword.IsPlain ∧ list.datasetList.1 = inputs ∧
        EndsStatement list.datasetList.2 later := by
  have hkeyword (stop : Cursor) :
      (keyword.start.word? "set" <|> keyword.start.word? "merge") = some stop ↔
        keyword.IsPlain ∧ stop = keyword.stop :=
    inputKeyword?_eq_some_iff hfound (precedesGlue_of_space? hlist)
  rw [setStatement?, skipSpace_of_setOrMerge hfound]
  constructor
  · intro h
    obtain ⟨stop, hstop, h⟩ := Option.bind_eq_some_iff.1 h
    obtain ⟨hplain, rfl⟩ := (hkeyword stop).mp hstop
    rw [skipSpace_of_space? hlist] at h
    obtain ⟨after, hafter, h⟩ := Option.bind_eq_some_iff.1 h
    obtain ⟨rfl, rfl⟩ := Prod.mk.inj (Option.some.inj h)
    exact ⟨hplain, rfl, semicolon?_eq_some_iff.mp hafter⟩
  · rintro ⟨hplain, rfl, hends⟩
    rw [(hkeyword keyword.stop).mpr ⟨hplain, rfl⟩]
    simp [skipSpace_of_space? hlist, semicolon?_eq_some_iff.mpr hends]

/-- The header of a step ends at the keyword when no `run` comes earlier. -/
theorem stepHeader?_of_find? {start : Cursor} {keyword : Found}
    (hkeyword : start.find? Pattern.setOrMerge = some keyword)
    (hrun : start.findBefore? Pattern.run keyword.start = none) :
    start.stepHeader? = some (start.stringUntil keyword.start, keyword.start) := by
  simp [stepHeader?, hkeyword, hrun]

theorem mem_datasetList {cursor after : Cursor} {first : DatasetReference}
    (h : cursor.datasetReference? = some (first, after)) : first ∈ cursor.datasetList.1 := by
  simp [datasetList, separated, h]

end Cursor

/-- The keyword is followed by a table.  That table is an input of the step when the keyword
is plain and the statement ends behind its tables; the body then begins behind the statement.
Otherwise the step has no inputs, and the body begins at the keyword. -/
theorem dataStep?_inputs_iff {cursor start list after stop : Cursor} {step : DataStep}
    {keyword : Found} {first : DatasetReference}
    (h : cursor.dataStep? = some (step, stop))
    (hstart : cursor.dataStatement? = some ((step.outputs, step.options), start))
    (hkeyword : start.find? Pattern.setOrMerge = some keyword)
    (hrun : start.findBefore? Pattern.run keyword.start = none)
    (hlist : keyword.stop.space? = some list)
    (hfirst : list.datasetReference? = some (first, after)) :
    (first ∈ step.inputs ↔
      keyword.IsPlain ∧ ∃ bodyStart, EndsStatement list.datasetList.2 bodyStart) ∧
    (∀ bodyStart, keyword.IsPlain → EndsStatement list.datasetList.2 bodyStart →
      step.inputs = list.datasetList.1 ∧
        ∃ bodyStop, step.DividedAt start keyword.start bodyStart bodyStop stop) ∧
    (first ∉ step.inputs →
      step.inputs = [] ∧
        ∃ bodyStop, step.DividedAt start keyword.start keyword.start bodyStop stop) := by
  have hfound := (Cursor.find?_some hkeyword).2
  have hiff (inputs : List DatasetReference) (bodyStart : Cursor) :
      keyword.start.setStatement? = some (inputs, bodyStart) ↔
        keyword.IsPlain ∧ list.datasetList.1 = inputs ∧
          EndsStatement list.datasetList.2 bodyStart :=
    Cursor.setStatement?_eq_some_iff hfound hlist
  have hdivided := dataStep?_dividedAt h hstart
  rw [Cursor.stepHeader?_of_find? hkeyword hrun] at hdivided
  simp only [optional] at hdivided
  -- Whether the statement at the keyword is read decides all three parts at once.
  cases hread : keyword.start.setStatement? with
  | some read =>
      obtain ⟨inputs, bodyStart⟩ := read
      obtain ⟨hplain, hinputs, hends⟩ := (hiff inputs bodyStart).mp hread
      rw [hread] at hdivided
      obtain ⟨hstep, hparts⟩ := hdivided
      have hall : step.inputs = list.datasetList.1 := hstep.trans hinputs.symm
      have hmem : first ∈ step.inputs := hall ▸ Cursor.mem_datasetList hfirst
      refine ⟨iff_of_true hmem ⟨hplain, bodyStart, hends⟩, ?_, fun hnone => absurd hmem hnone⟩
      intro bodyStart' hplain' hends'
      have hsame := hread.symm.trans ((hiff _ bodyStart').mpr ⟨hplain', hinputs, hends'⟩)
      obtain rfl : bodyStart = bodyStart' := congrArg Prod.snd (Option.some.inj hsame)
      exact ⟨hall, hparts⟩
  | none =>
      have hnot (bodyStart : Cursor) :
          ¬(keyword.IsPlain ∧ EndsStatement list.datasetList.2 bodyStart) := by
        rintro ⟨hplain, hends⟩
        have hsome := (hiff _ bodyStart).mpr ⟨hplain, rfl, hends⟩
        rw [hread] at hsome
        contradiction
      rw [hread] at hdivided
      obtain ⟨hstep, hparts⟩ := hdivided
      have hempty : step.inputs = [] := hstep
      have hmem : first ∉ step.inputs := by simp [hempty]
      refine ⟨iff_of_false hmem ?_, ?_, fun _ => ⟨hempty, hparts⟩⟩
      · rintro ⟨hplain, bodyStart, hends⟩
        exact hnot bodyStart ⟨hplain, hends⟩
      · intro bodyStart hplain hends
        exact absurd ⟨hplain, hends⟩ (hnot bodyStart)

/-- The option behind the table keeps the table out of the inputs, though the keyword is
plain: the whole statement is the body. -/
theorem dataStep?_inputs_iff_of_option :
    let cursor : Cursor := .ofText "data a; set b end=e; run;"
    let keyword : Found := ⟨cursor.skip 8, cursor.skip 11⟩
    let step : DataStep :=
      ⟨[⟨none, .ofLiteral "a", none⟩], [], " ", "set b end=e; ", none⟩
    let first : DatasetReference := ⟨none, .ofLiteral "b", none⟩
    cursor.dataStep? = some (step, cursor.skip 25) ∧
      cursor.dataStatement? = some ((step.outputs, step.options), cursor.skip 7) ∧
      (cursor.skip 7).find? Pattern.setOrMerge = some keyword ∧
      (cursor.skip 7).findBefore? Pattern.run keyword.start = none ∧
      keyword.stop.space? = some (cursor.skip 12) ∧
      (cursor.skip 12).datasetReference? = some (first, cursor.skip 13) ∧
      keyword.IsPlain ∧ first ∉ step.inputs ∧
      (¬∃ bodyStart, EndsStatement (cursor.skip 12).datasetList.2 bodyStart) ∧
      ∃ bodyStop, step.DividedAt (cursor.skip 7) keyword.start keyword.start bodyStop
        (cursor.skip 25) := by
  intro cursor keyword step first
  have hread : cursor.dataStep? = some (step, cursor.skip 25) := by decide +kernel
  have hstart : cursor.dataStatement? =
      some ((step.outputs, step.options), cursor.skip 7) := by decide +kernel
  have hkeyword : (cursor.skip 7).find? Pattern.setOrMerge = some keyword := by decide +kernel
  have hrun : (cursor.skip 7).findBefore? Pattern.run keyword.start = none := by
    decide +kernel
  have hlist : keyword.stop.space? = some (cursor.skip 12) := by decide +kernel
  have hfirst : (cursor.skip 12).datasetReference? = some (first, cursor.skip 13) := by
    decide +kernel
  have hplain : keyword.IsPlain := ⟨by decide, "set", by decide, by decide⟩
  have hlost : first ∉ step.inputs := List.not_mem_nil
  obtain ⟨hiff, -, hbody⟩ := dataStep?_inputs_iff hread hstart hkeyword hrun hlist hfirst
  have hopen : ¬∃ bodyStart, EndsStatement (cursor.skip 12).datasetList.2 bodyStart :=
    fun hends => hlost (hiff.mpr ⟨hplain, hends⟩)
  exact ⟨hread, hstart, hkeyword, hrun, hlist, hfirst, hplain, hlost, hopen, (hbody hlost).2⟩

end SasOutline
