import SasOutline.PatternSearch
import SasOutline.QuotedText
import SasOutline.Proofs.KnownText

/-!
# Where words end

A pattern that searches for a word looks at the characters on both sides of it, and these
may lie outside of the text that the word was written in.  A text that ends in a blank or
in a semicolon keeps to itself: whatever stands behind it, no word reaches out of it.
-/

namespace SasOutline

/-! ## Blanks -/

def whiteSpaceCodes : List ℕ :=
  whiteSpaceRanges.flatMap fun range => List.range' range.1 (range.2 + 1 - range.1)

theorem exists_range_of_inRanges {code : ℕ} {ranges : List (ℕ × ℕ)}
    (h : inRanges code ranges = true) : ∃ range ∈ ranges, range.1 ≤ code ∧ code ≤ range.2 := by
  induction ranges with
  | nil => contradiction
  | cons range ranges ih =>
      rw [inRanges] at h
      split at h
      · contradiction
      · next hfirst =>
        rcases Bool.or_eq_true_iff.mp h with hlast | hlater
        · exact ⟨range, List.mem_cons_self, by omega, of_decide_eq_true hlast⟩
        · obtain ⟨other, hother, hbounds⟩ := ih hlater
          exact ⟨other, List.mem_cons_of_mem range hother, hbounds⟩

theorem mem_whiteSpaceCodes {ch : Char} (hch : isWhiteSpace ch = true) :
    ch.toNat ∈ whiteSpaceCodes := by
  obtain ⟨range, hrange, hfirst, hlast⟩ := exists_range_of_inRanges hch
  exact List.mem_flatMap.mpr ⟨range, hrange, List.mem_range'_1.mpr ⟨hfirst, by omega⟩⟩

/-- A blank is no part of a word, and it delimits nothing else. -/
theorem blank_delimits {ch : Char} (hch : isWhiteSpace ch = true) :
    isKeywordGlue ch = false ∧ isWordCharacter ch = false ∧ ch ≠ ';' ∧
      isQuotationMark ch = false := by
  have hall : whiteSpaceCodes.all (fun code =>
      !isKeywordGlue (Char.ofNat code) && !isWordCharacter (Char.ofNat code) &&
        Char.ofNat code != ';' && !isQuotationMark (Char.ofNat code)) = true := by
    decide +kernel
  have hcode := List.all_eq_true.mp hall ch.toNat (mem_whiteSpaceCodes hch)
  rw [Char.ofNat_toNat] at hcode
  simpa [and_assoc] using hcode

theorem isWhiteSpace_of_isWordCharacter {ch : Char} (hch : isWordCharacter ch = true) :
    isWhiteSpace ch = false := by
  refine Bool.eq_false_iff.mpr fun hblank => ?_
  rw [(blank_delimits hblank).2.1] at hch
  contradiction

def IsBlank (text : List Char) : Prop := ∀ ch ∈ text, isWhiteSpace ch = true

theorem IsBlank.semicolon_notMem {blanks : List Char} (h : IsBlank blanks) : ';' ∉ blanks :=
  fun hmem => (blank_delimits (h ';' hmem)).2.2.1 rfl

/-- What was read last is no part of a word. -/
structure EndsWord (before : List Char) : Prop where
  glue : Halts isKeywordGlue before
  word : Halts isWordCharacter before

theorem EndsWord.blanks {before blanks : List Char} (h : EndsWord before)
    (hblanks : IsBlank blanks) : EndsWord (blanks.reverse ++ before) := by
  cases hlast : blanks.reverse with
  | nil => exact h
  | cons ch read =>
      have hmem : ch ∈ blanks := List.mem_reverse.mp (hlast ▸ List.mem_cons_self)
      obtain ⟨hglue, hword, -⟩ := blank_delimits (hblanks ch hmem)
      exact ⟨(halts_cons _ _ _).mpr hglue, (halts_cons _ _ _).mpr hword⟩

theorem endsWord_semicolon (before : List Char) : EndsWord (';' :: before) :=
  ⟨(halts_cons _ _ _).mpr (by decide), (halts_cons _ _ _).mpr (by decide)⟩

theorem endsWord_nil : EndsWord [] := ⟨halts_nil _, halts_nil _⟩

/-! ## Texts that end in a delimiter -/

def isDelimiter (ch : Char) : Bool := isWhiteSpace ch || ch == ';'

theorem isDelimiter_of_blank {ch : Char} (hch : isWhiteSpace ch = true) : isDelimiter ch = true :=
  Bool.or_eq_true_iff.mpr (.inl hch)

theorem delimiter_delimits {ch : Char} (hch : isDelimiter ch = true) :
    isKeywordGlue ch = false ∧ isWordCharacter ch = false ∧ foldedLetter ch = ch := by
  rcases Bool.or_eq_true_iff.mp hch with hblank | hsemicolon
  · obtain ⟨hglue, hword, -⟩ := blank_delimits hblank
    have hall : whiteSpaceCodes.all
        (fun code => foldedLetter (Char.ofNat code) == Char.ofNat code) = true := by
      decide +kernel
    have hcode := List.all_eq_true.mp hall ch.toNat (mem_whiteSpaceCodes hblank)
    rw [Char.ofNat_toNat, beq_iff_eq] at hcode
    exact ⟨hglue, hword, hcode⟩
  · obtain rfl := beq_iff_eq.mp hsemicolon
    decide

/-- The text is empty or its last character is a delimiter. -/
def EndsDelimited (text : List Char) : Prop := text.getLast?.all isDelimiter = true

instance (text : List Char) : Decidable (EndsDelimited text) :=
  inferInstanceAs (Decidable (_ = true))

theorem EndsDelimited.tail {ch : Char} {text : List Char} (h : EndsDelimited (ch :: text)) :
    EndsDelimited text := by
  cases text with
  | nil => rfl
  | cons next text => rwa [EndsDelimited, List.getLast?_cons_cons] at h

theorem EndsDelimited.drop {text : List Char} (h : EndsDelimited text) (count : ℕ) :
    EndsDelimited (text.drop count) := by
  rw [EndsDelimited, List.getLast?_drop]
  split
  · rfl
  · exact h

theorem EndsDelimited.append {text : List Char} (h : EndsDelimited text) (hne : text ≠ [])
    (before : List Char) : EndsDelimited (before ++ text) := by
  rwa [EndsDelimited, List.getLast?_append_of_ne_nil _ hne]

theorem EndsDelimited.isDelimiter_getLast {text : List Char} (h : EndsDelimited text)
    (hne : text ≠ []) : isDelimiter (text.getLast hne) = true := by
  rwa [EndsDelimited, List.getLast?_eq_some_getLast hne, Option.all_some] at h

theorem EndsDelimited.endsWord {text : List Char} (h : EndsDelimited text) (hne : text ≠ [])
    (before : List Char) : EndsWord (text.reverse ++ before) := by
  obtain ⟨hglue, hword, -⟩ := delimiter_delimits (h.isDelimiter_getLast hne)
  have hread : text.reverse ++ before =
      text.getLast hne :: (text.dropLast.reverse ++ before) := by
    conv_lhs => rw [← List.dropLast_append_getLast hne]
    simp
  rw [hread]
  exact ⟨(halts_cons _ _ _).mpr hglue, (halts_cons _ _ _).mpr hword⟩

theorem EndsWord.delimited {before text : List Char} (h : EndsWord before)
    (htext : EndsDelimited text) : EndsWord (text.reverse ++ before) := by
  by_cases hne : text = []
  · rwa [hne]
  · exact htext.endsWord hne before

/-! ## Searches -/

/-- In a text that ends in a delimiter the pattern matches at the same places whatever
follows, and of what stands in front only the kind of the nearest character counts. -/
def Pattern.KeepsInside (pattern : Pattern) : Prop :=
  ∀ (before before' text rest : List Char), text ≠ [] → EndsDelimited text →
    before.head?.any isWordCharacter = before'.head?.any isWordCharacter →
    (pattern ⟨before, text ++ rest⟩).isSome = (pattern ⟨before', text⟩).isSome

/-- As `KeepsInside`, for one text that follows. -/
def Pattern.KeepsInFrontOf (pattern : Pattern) (rest : List Char) : Prop :=
  ∀ (before before' text : List Char), text ≠ [] → EndsDelimited text →
    before.head?.any isWordCharacter = before'.head?.any isWordCharacter →
    (pattern ⟨before, text ++ rest⟩).isSome = (pattern ⟨before', text⟩).isSome

theorem Pattern.KeepsInside.inFrontOf {pattern : Pattern} (h : pattern.KeepsInside)
    (rest : List Char) : pattern.KeepsInFrontOf rest :=
  fun before before' text => h before before' text rest

/-- The letters of a word are not read beyond a character that is no letter. -/
theorem length_lt_of_last {word : String} {text rest : List Char} {last : Char}
    (hword : (word.toList.map foldedLetter).all isWordCharacter = true)
    (htext : text.getLast? = some last)
    (hlast : isWordCharacter last = false ∧ foldedLetter last = last)
    (hletters : ((text ++ rest).take word.toList.length).map foldedLetter =
      word.toList.map foldedLetter) : word.toList.length < text.length := by
  by_contra hshort
  have hread : last ∈ (text ++ rest).take word.toList.length := by
    rw [List.take_append, List.take_of_length_le (Nat.not_lt.mp hshort)]
    exact List.mem_append_left _ (List.mem_of_getLast? htext)
  have hletter : last ∈ word.toList.map foldedLetter := by
    rw [← hletters]
    exact List.mem_map.mpr ⟨last, hread, hlast.2⟩
  have hword := List.all_eq_true.mp hword last hletter
  rw [hlast.1] at hword
  contradiction

theorem length_lt_of_letters {word : String} {text rest : List Char}
    (hword : (word.toList.map foldedLetter).all isWordCharacter = true) (hne : text ≠ [])
    (htext : EndsDelimited text)
    (hletters : ((text ++ rest).take word.toList.length).map foldedLetter =
      word.toList.map foldedLetter) : word.toList.length < text.length :=
  length_lt_of_last hword (List.getLast?_eq_some_getLast hne)
    (delimiter_delimits (htext.isDelimiter_getLast hne)).2 hletters

theorem Pattern.opening_eq_none {word : String} {cursor : Cursor}
    (h : Cursor.letters? foldedLetter cursor word = none) : opening word cursor = none := by
  rw [opening]
  split
  · exact h
  · rfl

theorem Pattern.wholeWord_eq_none {word : String} {cursor : Cursor}
    (h : Cursor.letters? foldedLetter cursor word = none) : wholeWord word cursor = none := by
  rw [wholeWord, opening_eq_none h, Option.filter_none]

/-- A word whose letters come first may be followed by anything that meets the condition. -/
theorem Pattern.any_opening (word : String) (condition : Cursor → Bool) (cursor : Cursor) :
    (opening word cursor).any condition = true ↔
      cursor.atBoundary = true ∧
        (cursor.rest.take word.toList.length).map foldedLetter = word.toList.map foldedLetter ∧
        condition (cursor.skip word.toList.length) = true := by
  rw [opening, Cursor.letters?]
  by_cases hstart : cursor.atBoundary = true
  · by_cases hletters : (cursor.rest.take word.toList.length).map foldedLetter =
        word.toList.map foldedLetter
    · simp [hstart, hletters]
    · rw [if_pos hstart, if_neg hletters]
      simp only [Option.any_none, Bool.false_eq_true, hletters, false_and, and_false]
  · simp [hstart]

/-- The first letter of a word is no delimiter. -/
theorem Pattern.opening_delimiter {word : String} (hletter : word.toList ≠ [])
    (hword : (word.toList.map foldedLetter).all isWordCharacter = true) {ch : Char}
    (hch : isDelimiter ch = true) (before rest : List Char) :
    opening word ⟨before, ch :: rest⟩ = none := by
  apply opening_eq_none
  rw [Cursor.letters?]
  split
  · next hletters =>
      have hends : EndsDelimited [ch] := hch
      have hshort : word.toList.length < [ch].length :=
        length_lt_of_letters hword (List.cons_ne_nil ch []) hends hletters
      rw [List.length_singleton, Nat.lt_one_iff, List.length_eq_zero_iff] at hshort
      contradiction
  · rfl

theorem Pattern.wholeWord_delimiter {word : String} (hletter : word.toList ≠ [])
    (hword : (word.toList.map foldedLetter).all isWordCharacter = true) {ch : Char}
    (hch : isDelimiter ch = true) (before rest : List Char) :
    wholeWord word ⟨before, ch :: rest⟩ = none := by
  rw [wholeWord, opening_delimiter hletter hword hch, Option.filter_none]

theorem Cursor.atBoundary_append {before before' text : List Char} (hne : text ≠ [])
    (hbefore : before.head?.any isWordCharacter = before'.head?.any isWordCharacter)
    (rest : List Char) :
    atBoundary ⟨before, text ++ rest⟩ = atBoundary ⟨before', text⟩ := by
  simp only [atBoundary, previous, peek, hbefore, List.head?_append_of_ne_nil _ hne]

/-- A word with a condition on what follows it keeps to the text when the condition does. -/
theorem Pattern.keepsInFrontOf_of_opening {pattern : Pattern} {word : String}
    {condition : Cursor → Bool} {rest : List Char} (hletter : word.toList ≠ [])
    (hword : (word.toList.map foldedLetter).all isWordCharacter = true)
    (hpattern : ∀ cursor, (pattern cursor).isSome = (opening word cursor).any condition)
    (hcondition : ∀ before before' text, text ≠ [] → EndsDelimited text →
      before.head?.any isWordCharacter = before'.head?.any isWordCharacter →
      condition ⟨before, text ++ rest⟩ = condition ⟨before', text⟩) :
    pattern.KeepsInFrontOf rest := by
  intro before before' text hne htext hbefore
  rw [hpattern, hpattern, Bool.eq_iff_iff, any_opening, any_opening,
    Cursor.atBoundary_append hne hbefore]
  apply and_congr_right
  intro hstart
  by_cases hshort : word.toList.length < text.length
  · have htake : (text ++ rest).take word.toList.length = text.take word.toList.length :=
      List.take_append_of_le_length hshort.le
    have hdrop : (text ++ rest).drop word.toList.length =
        text.drop word.toList.length ++ rest :=
      List.drop_append_of_le_length hshort.le
    have hread : (text.take word.toList.length).reverse ≠ [] := by
      simpa [List.take_eq_nil_iff, hne] using hletter
    have hmore : text.drop word.toList.length ≠ [] := by
      simpa [List.drop_eq_nil_iff] using hshort
    have hstop : condition (Cursor.skip ⟨before, text ++ rest⟩ word.toList.length) =
        condition (Cursor.skip ⟨before', text⟩ word.toList.length) := by
      rw [Cursor.skip, Cursor.skip, htake, hdrop]
      apply hcondition _ _ _ hmore (htext.drop _)
      rw [List.head?_append_of_ne_nil _ hread, List.head?_append_of_ne_nil _ hread]
    rw [htake, hstop]
  · -- The letters of the word would have to reach over the delimiter at the end of the text.
    have hnone (rest : List Char) : ((text ++ rest).take word.toList.length).map foldedLetter ≠
        word.toList.map foldedLetter :=
      fun hletters => hshort (length_lt_of_letters hword hne htext hletters)
    have hnoneSelf := hnone []
    rw [List.append_nil] at hnoneSelf
    simp only [hnone rest, hnoneSelf, false_and]

theorem Pattern.wholeWord_keepsInside {word : String} (hletter : word.toList ≠ [])
    (hword : (word.toList.map foldedLetter).all isWordCharacter = true) :
    (wholeWord word).KeepsInside := by
  intro before before' text rest
  have hpattern (cursor : Cursor) : (wholeWord word cursor).isSome =
      (opening word cursor).any Cursor.atBoundary := by
    rw [wholeWord, Option.isSome_filter]
  have hcondition (before before' text : List Char) (hne : text ≠ []) (_ : EndsDelimited text)
      (hbefore : before.head?.any isWordCharacter = before'.head?.any isWordCharacter) :
      Cursor.atBoundary ⟨before, text ++ rest⟩ = Cursor.atBoundary ⟨before', text⟩ :=
    Cursor.atBoundary_append hne hbefore rest
  exact keepsInFrontOf_of_opening hletter hword hpattern hcondition before before' text

theorem Pattern.KeepsInFrontOf.either {first second : Pattern} {rest : List Char}
    (hfirst : first.KeepsInFrontOf rest) (hsecond : second.KeepsInFrontOf rest) :
    (either first second).KeepsInFrontOf rest := by
  intro before before' text hne htext hbefore
  have hchoice (left right : Option Cursor) :
      (left <|> right).isSome = (left.isSome || right.isSome) := by
    cases left <;> rfl
  rw [Pattern.either, Pattern.either, hchoice, hchoice,
    hfirst before before' text hne htext hbefore,
    hsecond before before' text hne htext hbefore]

theorem Pattern.KeepsInside.either {first second : Pattern} (hfirst : first.KeepsInside)
    (hsecond : second.KeepsInside) : (either first second).KeepsInside :=
  fun before before' text rest =>
    (hfirst.inFrontOf rest).either (hsecond.inFrontOf rest) before before' text

theorem Pattern.run_keepsInside : run.KeepsInside :=
  wholeWord_keepsInside (by decide) (by decide)

theorem Pattern.setOrMerge_keepsInside : setOrMerge.KeepsInside :=
  (wholeWord_keepsInside (by decide) (by decide)).either
    (wholeWord_keepsInside (by decide) (by decide))

/-- A search passes over a text that ends in a delimiter when it finds nothing in the text
alone. -/
theorem Pattern.KeepsInFrontOf.findFrom_append {pattern : Pattern} {rest : List Char}
    (hpattern : pattern.KeepsInFrontOf rest) {before before' text : List Char}
    (htext : EndsDelimited text)
    (hbefore : before.head?.any isWordCharacter = before'.head?.any isWordCharacter)
    (hnone : Cursor.findFrom pattern before' text = none) :
    Cursor.findFrom pattern before (text ++ rest) =
      Cursor.findFrom pattern (text.reverse ++ before) rest := by
  induction text generalizing before before' with
  | nil => rfl
  | cons ch text ih =>
      rw [Cursor.findFrom] at hnone
      split at hnone
      · contradiction
      · next hhere =>
        have hsame := hpattern before before' (ch :: text) (List.cons_ne_nil ch text) htext hbefore
        rw [hhere, Option.isSome_none, Option.isSome_eq_false_iff, Option.isNone_iff_eq_none]
          at hsame
        rw [List.cons_append] at hsame ⊢
        rw [Cursor.findFrom, hsame, List.reverse_cons, List.append_assoc]
        have hkind : (ch :: before).head?.any isWordCharacter =
            (ch :: before').head?.any isWordCharacter := rfl
        exact ih htext.tail hkind hnone

theorem Pattern.KeepsInside.findFrom_append {pattern : Pattern} (hpattern : pattern.KeepsInside)
    {before before' text : List Char} (htext : EndsDelimited text)
    (hbefore : before.head?.any isWordCharacter = before'.head?.any isWordCharacter)
    (hnone : Cursor.findFrom pattern before' text = none) (rest : List Char) :
    Cursor.findFrom pattern before (text ++ rest) =
      Cursor.findFrom pattern (text.reverse ++ before) rest :=
  (hpattern.inFrontOf rest).findFrom_append htext hbefore hnone

theorem Pattern.KeepsInside.find?_append {pattern : Pattern} (hpattern : pattern.KeepsInside)
    {text : String} (htext : EndsDelimited text.toList)
    (hnone : (Cursor.ofText text).find? pattern = none) {before : List Char}
    (hbefore : EndsWord before) (rest : List Char) :
    (⟨before, text.toList ++ rest⟩ : Cursor).find? pattern =
      (⟨text.toList.reverse ++ before, rest⟩ : Cursor).find? pattern :=
  hpattern.findFrom_append htext (hbefore.word.trans (halts_nil _).symm) hnone rest

/-- A search that finds nothing finds nothing in the rest of the text either. -/
theorem findFrom_append_eq_none {pattern : Pattern} {before read rest : List Char}
    (hnone : Cursor.findFrom pattern before (read ++ rest) = none) :
    Cursor.findFrom pattern (read.reverse ++ before) rest = none := by
  induction read generalizing before with
  | nil => exact hnone
  | cons ch read ih =>
      rw [List.cons_append, Cursor.findFrom] at hnone
      split at hnone
      · contradiction
      · rw [List.reverse_cons, List.append_assoc]
        exact ih hnone

theorem findFrom_eq_of_match {pattern : Pattern} {before rest : List Char} {stop : Cursor}
    (h : pattern ⟨before, rest⟩ = some stop) :
    Cursor.findFrom pattern before rest = some ⟨⟨before, rest⟩, stop⟩ := by
  cases rest with
  | nil => rw [Cursor.findFrom, h, Option.map_some]
  | cons ch rest => rw [Cursor.findFrom, h]

end SasOutline
