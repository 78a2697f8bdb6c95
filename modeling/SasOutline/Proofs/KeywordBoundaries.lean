import SasOutline.Proofs.StepInputs

/-!
# Keywords and word boundaries

A keyword is read where no word runs on in front of it or behind it, and the reader asks the two
characters around it.  A pattern asks for a word boundary at both ends and does not care on
which side of a boundary the word stands.  The classes of characters differ outside of ASCII,
and so do the two notions of a letter in either case.

In an ASCII text they agree at every place, the start and the end of the text included: between
letters and anything else there is a boundary only where a word begins or ends.  The header of a
data step then ends exactly where the statement with the inputs would be tried.
-/

namespace SasOutline

/-! ## ASCII letters -/

theorem foldedLetter_of_ascii {ch : Char} (hch : ch.toNat < 128) :
    foldedLetter ch = ch.toLower :=
  forall_ascii (P := fun ch => foldedLetter ch = ch.toLower) (by decide +kernel) hch

theorem isNameCharacter_of_isAlpha {ch : Char} (hch : ch.isAlpha = true) :
    isNameCharacter ch = true := by
  simp [isNameCharacter, Char.isAlphanum, hch]

theorem isWordCharacter_of_isAlpha {ch : Char} (hch : ch.isAlpha = true) :
    isWordCharacter ch = true :=
  forall_ascii (P := fun ch => ch.isAlpha = true → isWordCharacter ch = true)
    (by decide +kernel) (toNat_lt_of_isNameCharacter (isNameCharacter_of_isAlpha hch)) hch

theorem any_isWordCharacter_of_ascii {ch? : Option Char} (hch : ∀ ch ∈ ch?, ch.toNat < 128) :
    ch?.any isWordCharacter = ch?.any isKeywordGlue := by
  cases ch? with
  | none => rfl
  | some ch => exact isWordCharacter_of_ascii (hch ch rfl)

namespace Cursor

section Ascii

variable {cursor : Cursor} (htext : IsAscii cursor.text)
include htext

theorem isAscii_before : IsAscii cursor.before :=
  fun ch hch => htext ch (List.mem_append_left _ (List.mem_reverse.mpr hch))

theorem isAscii_rest : IsAscii cursor.rest :=
  fun ch hch => htext ch (List.mem_append_right _ hch)

theorem previous_any_of_ascii : cursor.previous.any isWordCharacter = cursor.followsGlue :=
  any_isWordCharacter_of_ascii fun ch hch =>
    cursor.isAscii_before htext ch (List.mem_of_mem_head? hch)

theorem peek_any_of_ascii : cursor.peek.any isWordCharacter = cursor.precedesGlue :=
  any_isWordCharacter_of_ascii fun ch hch =>
    cursor.isAscii_rest htext ch (List.mem_of_mem_head? hch)

theorem keyword?_of_ascii {word : String} (hword : IsAscii word.toList) :
    cursor.keyword? word = letters? foldedLetter cursor word := by
  have hfold {text : List Char} (htext : IsAscii text) :
      text.map Char.toLower = text.map foldedLetter :=
    List.map_congr_left fun ch hch => (foldedLetter_of_ascii (htext ch hch)).symm
  have hread : IsAscii (cursor.rest.take word.toList.length) :=
    fun ch hch => cursor.isAscii_rest htext ch (List.mem_of_mem_take hch)
  rw [keyword?, letters?, letters?, hfold hread, hfold hword]

/-- The reader of a keyword and the pattern for the word agree at every place of the text. -/
theorem word?_eq_wholeWord {word : String} (hne : word.toList ≠ [])
    (hletters : ∀ ch ∈ word.toList, ch.isAlpha = true) :
    cursor.word? word = Pattern.wholeWord word cursor := by
  have hword : IsAscii word.toList := fun ch hch =>
    toNat_lt_of_isNameCharacter (isNameCharacter_of_isAlpha (hletters ch hch))
  rw [word?, Pattern.wholeWord, Pattern.opening, keyword?_of_ascii htext hword]
  cases hread : letters? foldedLetter cursor word with
  | none => simp
  | some later =>
      obtain ⟨read, hreads, hfolded⟩ := letters?_eq_some hread
      -- Letters have been read, so each boundary depends on one neighbour only.
      have hfilled : read ≠ [] := by
        rintro rfl
        exact hne (List.map_eq_nil_iff.mp hfolded.symm)
      have hwords : ∀ ch ∈ read, isWordCharacter ch = true := by
        intro ch hch
        have hascii : ch.toNat < 128 :=
          isAscii_rest htext ch (hreads.1 ▸ List.mem_append_left _ hch)
        obtain ⟨letter, hletter, hsame⟩ :=
          List.mem_map.mp (hfolded ▸ List.mem_map_of_mem (f := foldedLetter) hch)
        rw [foldedLetter_of_ascii hascii, foldedLetter_of_ascii (hword letter hletter)] at hsame
        rw [← isWordCharacter_toLower, ← hsame, isWordCharacter_toLower]
        exact isWordCharacter_of_isAlpha (hletters letter hletter)
      have hlater : IsAscii later.text := by rwa [hreads.reaches.text_eq]
      rw [hreads.atBoundary_start_eq hfilled hwords, previous_any_of_ascii htext]
      cases cursor.followsGlue with
      | true => rfl
      | false =>
          simp [Option.filter, hreads.atBoundary_stop_eq hfilled hwords, peek_any_of_ascii hlater]

/-- The keywords of the statement with the inputs are the words that the header ends at. -/
theorem inputKeyword?_eq_setOrMerge :
    (cursor.word? "set" <|> cursor.word? "merge") = Pattern.setOrMerge cursor := by
  rw [word?_eq_wholeWord htext (by decide) (List.all_eq_true.mp (by decide)),
    word?_eq_wholeWord htext (by decide) (List.all_eq_true.mp (by decide))]
  rfl

theorem stepHeader?_isSome_of_setStatement? (h : cursor.setStatement?.isSome = true) :
    cursor.stepHeader?.isSome = true := by
  obtain ⟨⟨inputs, later⟩, hread⟩ := Option.isSome_iff_exists.mp h
  obtain ⟨keyword, hkeyword, -⟩ := Option.bind_eq_some_iff.1 hread
  have hstart : IsAscii cursor.skipSpace.text := by rwa [cursor.skipSpace_reaches.text_eq]
  exact stepHeader?_isSome_of_setOrMerge ((inputKeyword?_eq_setOrMerge hstart).symm.trans hkeyword)

end Ascii

end Cursor

/-- In an ASCII text the two notions of a keyword agree at every place.  So the keyword that
ends the header of a step can be read there, and without a header there is no statement with
inputs. -/
theorem keywords_at_boundaries {cursor : Cursor} (htext : IsAscii cursor.text) :
    (∀ word : String, word.toList ≠ [] → (∀ ch ∈ word.toList, ch.isAlpha = true) →
      cursor.word? word = Pattern.wholeWord word cursor) ∧
    (∀ header stop, cursor.stepHeader? = some (header, stop) →
      stop.skipSpace = stop ∧
        ∃ keyword, (stop.word? "set" <|> stop.word? "merge") = some keyword ∧
          cursor.find? Pattern.setOrMerge = some ⟨stop, keyword⟩) ∧
    (cursor.stepHeader? = none → cursor.setStatement? = none) := by
  refine ⟨fun word hne hletters => Cursor.word?_eq_wholeWord htext hne hletters, ?_, ?_⟩
  · intro header stop hheader
    obtain ⟨hreads, -, -, keyword, hfound⟩ := Cursor.stepHeader?_eq_some hheader
    have hmatch := (Cursor.find?_some hfound).2
    have hstop : IsAscii stop.text := by rwa [hreads.reaches.text_eq]
    exact ⟨Cursor.skipSpace_of_setOrMerge hmatch, keyword,
      (Cursor.inputKeyword?_eq_setOrMerge hstop).trans hmatch, hfound⟩
  · intro hnone
    by_contra hread
    have hsome := Cursor.stepHeader?_isSome_of_setStatement? htext
      (Option.isSome_iff_ne_none.mpr hread)
    rw [hnone] at hsome
    contradiction

/-- A hyphen in front of the keyword is no part of a word, an underscore is. -/
theorem keywords_at_boundaries_of_hyphen :
    let cursor : Cursor := (Cursor.ofText "data a;reset _set 1set x-SET\tb;run;").skip 7
    IsAscii cursor.text ∧
      (cursor.skip 2).word? "set" = Pattern.wholeWord "set" (cursor.skip 2) ∧
      cursor.stepHeader? = some ("reset _set 1set x-", cursor.skip 18) ∧
      ∃ keyword, ((cursor.skip 18).word? "set" <|> (cursor.skip 18).word? "merge") =
        some keyword := by
  intro cursor
  have htext : IsAscii cursor.text := by decide
  have hinside : IsAscii (cursor.skip 2).text := by decide
  have hheader : cursor.stepHeader? = some ("reset _set 1set x-", cursor.skip 18) := by
    decide +kernel
  obtain ⟨-, hkeyword, -⟩ := keywords_at_boundaries htext
  obtain ⟨-, keyword, hread, -⟩ := hkeyword _ _ hheader
  exact ⟨htext,
    (keywords_at_boundaries hinside).1 "set" (by decide) (List.all_eq_true.mp (by decide)),
    hheader, keyword, hread⟩

end SasOutline
