import SasOutline.Proofs.LeftmostMatch
import SasOutline.Proofs.RuleChoice
import SasOutline.Proofs.TableNames

/-!
# The parts of a data step

A data step is cut into its parts by searches through the rest of the text: for `set` or
`merge`, and for `run`.  When its header and its body hold none of these words and end in
a blank or a semicolon, the searches find the words that the step was written with,
whatever the tables are called and whatever follows the step.
-/

namespace SasOutline

/-- A step without options, up to the semicolon of its `run`. -/
def dataStepText (outputs inputs : TableList) (keyword header body : String) : List Char :=
  "data".toList ++ ' ' :: (outputs.text ++ ';' :: (header.toList ++
    (keyword.toList ++ ' ' :: (inputs.text ++ ';' :: (body.toList ++
      ("run".toList ++ [';']))))))

/-! ## The keyword in front of the inputs -/

/-- The words that name the tables a step reads. -/
def inputKeywords : List String := ["set", "merge"]

section Keyword

variable {keyword : String} (hkeyword : keyword ∈ inputKeywords) {before : List Char}

include hkeyword

theorem setOrMerge_append (hbefore : Halts isWordCharacter before) (rest : List Char) :
    Pattern.setOrMerge ⟨before, keyword.toList ++ ' ' :: rest⟩ =
      some ⟨keyword.toList.reverse ++ before, ' ' :: rest⟩ := by
  have hblank : Halts isWordCharacter (' ' :: rest) := by
    rw [halts_cons]
    decide +kernel
  rcases List.mem_pair.mp hkeyword with rfl | rfl
  · exact Pattern.either_first
      (Pattern.wholeWord_append "set" (by decide) (by decide) hbefore hblank)
  · have hset : Pattern.wholeWord "set" ⟨before, "merge".toList ++ ' ' :: rest⟩ = none := by
      have hletters : Cursor.letters? foldedLetter ⟨before, ['m'] ++ ("erge".toList ++ ' ' :: rest)⟩
          "set" = none :=
        Cursor.letters?_eq_none ['m'] (by decide) (by decide) before _
      exact Pattern.wholeWord_eq_none hletters
    rw [Pattern.setOrMerge, Pattern.either_second hset]
    exact Pattern.wholeWord_append "merge" (by decide) (by decide) hbefore hblank

theorem inputKeyword?_append (hbefore : Halts isKeywordGlue before) {rest : List Char}
    (hrest : Halts isKeywordGlue rest) :
    (Cursor.word? ⟨before, keyword.toList ++ rest⟩ "set" <|>
        Cursor.word? ⟨before, keyword.toList ++ rest⟩ "merge") =
      some ⟨keyword.toList.reverse ++ before, rest⟩ := by
  rcases List.mem_pair.mp hkeyword with rfl | rfl
  · rw [Cursor.word?_append "set" hbefore hrest]
    rfl
  · have hset : Cursor.word? ⟨before, "merge".toList ++ rest⟩ "set" = none :=
      Cursor.word?_eq_none (Cursor.letters?_eq_none ['m'] (by decide) (by decide) before _)
    rw [hset, Cursor.word?_append "merge" hbefore hrest]
    rfl

theorem halts_space_keyword (rest : List Char) : Halts isWhiteSpace (keyword.toList ++ rest) := by
  rcases List.mem_pair.mp hkeyword with rfl | rfl
  · exact Cursor.halts_space_of_plain (by decide) rest
  · exact Cursor.halts_space_of_plain (by decide) rest

end Keyword

/-! ## The parts of a step -/

theorem halts_space_tables (tables : TableList) (rest : List Char) :
    Halts isWhiteSpace (tables.text ++ rest) := by
  unfold TableList.text
  rw [List.append_assoc]
  exact tables.first.halts_space _

theorem halts_glue_blank (rest : List Char) : Halts isKeywordGlue (' ' :: rest) := by
  rw [halts_cons]
  decide

section Parts

variable {before : List Char}

theorem dataStatement?_append (outputs : TableList) (hbefore : Halts isKeywordGlue before)
    (rest : List Char) :
    (⟨before, "data".toList ++ ' ' :: (outputs.text ++ ';' :: rest)⟩ : Cursor).dataStatement? =
      some ((outputs.references, none),
        ⟨';' :: (outputs.text.reverse ++ ' ' :: ("data".toList.reverse ++ before)), rest⟩) := by
  have hkeyword := Cursor.word?_append "data" hbefore
    (halts_glue_blank (outputs.text ++ ';' :: rest))
  have hspace (before : List Char) :=
    Cursor.space?_blank (halts_space_tables outputs (';' :: rest)) before
  have hoptions (before : List Char) : (⟨before, ';' :: rest⟩ : Cursor).stepOptions? = none := by
    have hslash : (';' :: rest).head? ≠ some '/' := by simp
    unfold Cursor.stepOptions?
    rw [Cursor.skipSpace_of_halts (Cursor.halts_space_semicolon rest),
      Cursor.char?_eq_none hslash]
    rfl
  simp only [Cursor.dataStatement?, hkeyword, Option.bind_eq_bind, Option.bind_some, hspace,
    outputs.read_append, optional, hoptions, Cursor.semicolon?_cons]
  rfl

/-- The header is the text in front of the first input keyword. -/
theorem stepHeader?_append {keyword header : String} (hkeyword : keyword ∈ inputKeywords)
    (hheader : EndsDelimited header.toList)
    (hset : (Cursor.ofText header).find? Pattern.setOrMerge = none)
    (hrun : (Cursor.ofText header).find? Pattern.run = none)
    (hbefore : EndsWord before) (rest : List Char) :
    (⟨before, header.toList ++ (keyword.toList ++ ' ' :: rest)⟩ : Cursor).stepHeader? =
      some (header, ⟨header.toList.reverse ++ before, keyword.toList ++ ' ' :: rest⟩) := by
  have hbehind : EndsWord (header.toList.reverse ++ before) := hbefore.delimited hheader
  have hfound : (⟨before, header.toList ++ (keyword.toList ++ ' ' :: rest)⟩ : Cursor).find?
      Pattern.setOrMerge = some ⟨⟨header.toList.reverse ++ before, keyword.toList ++ ' ' :: rest⟩,
        ⟨keyword.toList.reverse ++ (header.toList.reverse ++ before), ' ' :: rest⟩⟩ := by
    rw [Pattern.setOrMerge_keepsInside.find?_append hheader hset hbefore]
    exact Cursor.find?_here (setOrMerge_append hkeyword hbehind.word rest)
  have hnone := Cursor.findBefore?_eq_none
    (Pattern.run_keepsInside.find?_append hheader hrun hbefore (keyword.toList ++ ' ' :: rest))
  simp only [Cursor.stepHeader?, hfound, Option.bind_eq_bind, Option.bind_some, hnone,
    Cursor.stringUntil_append, String.ofList_toList]
  rfl

theorem setStatement?_append {keyword : String} (hkeyword : keyword ∈ inputKeywords)
    (inputs : TableList) (hbefore : Halts isKeywordGlue before) (rest : List Char) :
    (⟨before, keyword.toList ++ ' ' :: (inputs.text ++ ';' :: rest)⟩ : Cursor).setStatement? =
      some (inputs.references,
        ⟨';' :: (inputs.text.reverse ++ ' ' :: (keyword.toList.reverse ++ before)), rest⟩) := by
  have hstart := Cursor.skipSpace_of_halts
    (halts_space_keyword hkeyword (' ' :: (inputs.text ++ ';' :: rest))) before
  have hword := inputKeyword?_append hkeyword hbefore
    (halts_glue_blank (inputs.text ++ ';' :: rest))
  have hblank (before : List Char) :=
    Cursor.skipSpace_blank (halts_space_tables inputs (';' :: rest)) before
  simp only [Cursor.setStatement?, hstart, hword, Option.bind_eq_bind, Option.bind_some, hblank,
    inputs.read_append, Cursor.semicolon?_cons]
  rfl

/-- The body is the text in front of the first `run`. -/
theorem find?_run_append {body : String} (hbody : EndsDelimited body.toList)
    (hrun : (Cursor.ofText body).find? Pattern.run = none) (hbefore : EndsWord before)
    (rest : List Char) :
    (⟨before, body.toList ++ ("run".toList ++ ';' :: rest)⟩ : Cursor).find? Pattern.run =
      some ⟨⟨body.toList.reverse ++ before, "run".toList ++ ';' :: rest⟩,
        ⟨"run".toList.reverse ++ (body.toList.reverse ++ before), ';' :: rest⟩⟩ := by
  have hsemicolon : Halts isWordCharacter (';' :: rest) := (endsWord_semicolon rest).word
  rw [Pattern.run_keepsInside.find?_append hbody hrun hbefore]
  exact Cursor.find?_here (Pattern.wholeWord_append "run" (by decide) (by decide)
    (hbefore.delimited hbody).word hsemicolon)

section Step

variable {keyword header body : String} (hkeyword : keyword ∈ inputKeywords)
  (hheader : EndsDelimited header.toList)
  (hset : (Cursor.ofText header).find? Pattern.setOrMerge = none)
  (hrun : (Cursor.ofText header).find? Pattern.run = none)
  (hbody : EndsDelimited body.toList) (hbodyRun : (Cursor.ofText body).find? Pattern.run = none)
  (hbefore : Halts isKeywordGlue before)

include hkeyword hheader hset hrun hbody hbodyRun hbefore

theorem dataStep?_append (outputs inputs : TableList) (rest : List Char) :
    (⟨before, dataStepText outputs inputs keyword header body ++ rest⟩ : Cursor).dataStep? =
      some (⟨outputs.references, inputs.references, header, body, none⟩,
        ⟨(dataStepText outputs inputs keyword header body).reverse ++ before, rest⟩) := by
  have hwritten : dataStepText outputs inputs keyword header body ++ rest =
      "data".toList ++ ' ' :: (outputs.text ++ ';' :: (header.toList ++
        (keyword.toList ++ ' ' :: (inputs.text ++ ';' :: (body.toList ++
          ("run".toList ++ ';' :: rest)))))) := by
    simp [dataStepText]
  rw [hwritten]
  simp only [Cursor.dataStep?, dataStatement?_append outputs hbefore, Option.bind_eq_bind,
    Option.bind_some, optional,
    stepHeader?_append hkeyword hheader hset hrun (endsWord_semicolon _),
    setStatement?_append hkeyword inputs ((endsWord_semicolon _).delimited hheader).glue,
    find?_run_append hbody hbodyRun (endsWord_semicolon _), Cursor.semicolon?_cons,
    Cursor.stringUntil_append, String.ofList_toList]
  simp [dataStepText]

/-- The full grammar cuts the step into the parts it was written with. -/
theorem Grammar.firstMatch?_dataStep (outputs inputs : TableList) (suffix : List Char) :
    let text := dataStepText outputs inputs keyword header body
    full.firstMatch? ⟨before, text ++ suffix⟩ =
      some (.single ⟨before, text ++ suffix⟩
        (.dataStep ⟨outputs.references, inputs.references, header, body, none⟩)
        ⟨text.reverse ++ before, suffix⟩) := by
  intro text
  exact firstMatch?_of_dataStep? (dataStep?_append hkeyword hheader hset hrun hbody hbodyRun
    hbefore outputs inputs suffix)

end Step

end Parts

def runSetTable : TableName := ⟨some ⟨"run", by decide⟩, ⟨"set", by decide⟩⟩

def mergedTables : TableList := ⟨⟨none, ⟨"merge", by decide⟩⟩, [⟨none, ⟨"run", by decide⟩⟩]⟩

/-- The tables of this step are called by its keywords, which are parts of longer words in its
header and its body. -/
theorem Grammar.firstMatch?_dataStep_of_keywords :
    "merge" ∈ inputKeywords ∧ EndsDelimited " retain reset;\n".toList ∧
      (Cursor.ofText " retain reset;\n").find? Pattern.setOrMerge = none ∧
      (Cursor.ofText " retain reset;\n").find? Pattern.run = none ∧
      EndsDelimited " trun = 1;".toList ∧ (Cursor.ofText " trun = 1;").find? Pattern.run = none ∧
      Halts isKeywordGlue [] ∧
      (full.firstMatch?
          (.ofText "data run.set; retain reset;\nmerge merge run; trun = 1;run; set run;")).map
        (fun found => (found.items.map MatchItem.node, found.rest.rest)) =
      some ([.dataStep ⟨[⟨some (.ofLiteral "run"), .ofLiteral "set", none⟩],
        [⟨none, .ofLiteral "merge", none⟩, ⟨none, .ofLiteral "run", none⟩],
        " retain reset;\n", " trun = 1;", none⟩], " set run;".toList) := by
  have hkeyword : "merge" ∈ inputKeywords := by decide
  have hheader : EndsDelimited " retain reset;\n".toList := by decide
  have hset : (Cursor.ofText " retain reset;\n").find? Pattern.setOrMerge = none := by
    decide +kernel
  have hrun : (Cursor.ofText " retain reset;\n").find? Pattern.run = none := by
    decide +kernel
  have hbody : EndsDelimited " trun = 1;".toList := by decide
  have hbodyRun : (Cursor.ofText " trun = 1;").find? Pattern.run = none := by
    decide +kernel
  have hread := Grammar.firstMatch?_dataStep hkeyword hheader hset hrun hbody hbodyRun
    (halts_nil _) ⟨runSetTable, []⟩ mergedTables " set run;".toList
  refine ⟨hkeyword, hheader, hset, hrun, hbody, hbodyRun, halts_nil _, ?_⟩
  exact congrArg _ hread

end SasOutline
