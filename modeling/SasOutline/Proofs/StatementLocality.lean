import SasOutline.SqlStatements
import SasOutline.Proofs.KnownText
import SasOutline.Proofs.ReaderImage

/-!
# A statement is read without what follows it

A statement ends at its semicolon.  When it holds no quotation mark, no part of a
`create table` statement is read beyond that semicolon, so the statement is read in the
same way wherever it stands.

Two readings of one statement are followed side by side.  As long as they stand at the
same place of the statement, each reader either fails in both or succeeds in both, with
equal values and again at the same place.
-/

namespace SasOutline

/-! ## Related results -/

section Related

variable {α β γ δ : Type} {R : α → β → Prop} {S : γ → δ → Prop} {first : Option α}
  {second : Option β}

theorem rel_bind (h : Option.Rel R first second) {next : α → Option γ} {next' : β → Option δ}
    (hnext : ∀ value value', R value value' → Option.Rel S (next value) (next' value')) :
    Option.Rel S (first.bind next) (second.bind next') := by
  cases h with
  | none => exact .none
  | some hvalue => exact hnext _ _ hvalue

theorem rel_map (h : Option.Rel R first second) {f : α → γ} {g : β → δ}
    (hmap : ∀ value value', R value value' → S (f value) (g value')) :
    Option.Rel S (first.map f) (second.map g) := by
  cases h with
  | none => exact .none
  | some hvalue => exact .some (hmap _ _ hvalue)

theorem rel_orElse (h : Option.Rel R first second) {later : Option α} {later' : Option β}
    (hlater : Option.Rel R later later') :
    Option.Rel R (first <|> later) (second <|> later') := by
  cases h with
  | none => simpa using hlater
  | some hvalue => exact .some hvalue

theorem rel_filter (h : Option.Rel R first second) {keep : α → Bool} {keep' : β → Bool}
    (hkeep : ∀ value value', R value value' → keep value = keep' value') :
    Option.Rel R (first.filter keep) (second.filter keep') := by
  cases h with
  | none => exact .none
  | @some value value' hvalue =>
      rw [Option.filter_some, Option.filter_some, hkeep value value' hvalue]
      split
      · exact .some hvalue
      · exact .none

theorem rel_eq_none (h : Option.Rel R first second) (hnone : first = none) :
    second = none := by
  subst hnone
  cases h
  rfl

theorem rel_eq_some (h : Option.Rel R first second) {value : α} (hsome : first = some value) :
    ∃ value', second = some value' ∧ R value value' := by
  subst hsome
  cases h with
  | some hvalue => exact ⟨_, rfl, hvalue⟩

end Related

/-! ## The same place of a statement -/

/-- The text of a statement in front of its semicolon, without quotations. -/
def IsStatementText (text : List Char) : Prop :=
  ∀ ch ∈ text, ch ≠ ';' ∧ isQuotationMark ch = false

theorem IsStatementText.semicolon_notMem {text : List Char} (h : IsStatementText text) :
    ';' ∉ text :=
  fun hmem => (h ';' hmem).1 rfl

/-- Two cursors at the same place of a statement.  Behind its semicolon follow `tail`
and `other`, and in front of the cursors stand characters of the same kind. -/
structure Alike (tail other : List Char) (first second : Cursor) : Prop where
  rest_eq : ∃ text, IsStatementText text ∧
    first.rest = text ++ ';' :: tail ∧ second.rest = text ++ ';' :: other
  followsGlue_eq : first.followsGlue = second.followsGlue
  followsWord_eq : first.previous.any isWordCharacter = second.previous.any isWordCharacter

/-- Equal values, and cursors at the same place. -/
def ReadAlike (tail other : List Char) {α : Type} (first second : α × Cursor) : Prop :=
  first.1 = second.1 ∧ Alike tail other first.2 second.2

namespace Cursor

/-- The end of a bare setting that ends at `bound` or in front of the next option. -/
def settingStop (cursor bound : Cursor) : Cursor :=
  match find? ⟨[], cursor.textUntil bound⟩ Pattern.nextOption with
  | some next => cursor.skip ((cursor.textUntil bound).length - next.start.remaining)
  | none => bound

/-- The next option is looked for in the setting alone, without looking back. -/
theorem bareSettingEnd?_eq {cursor : Cursor}
    (hend : (cursor.skipWhile fun ch => ch != ')' && ch != ';').atEnd = false) :
    cursor.bareSettingEnd? =
      some (cursor.settingStop (cursor.skipWhile fun ch => ch != ')' && ch != ';')) := by
  have hfind := find?_behind cursor.before
    ⟨[], cursor.textUntil (cursor.skipWhile fun ch => ch != ')' && ch != ';')⟩
    (Pattern.nextOption_ignoresBefore cursor.before)
  rw [behind, List.nil_append] at hfind
  simp only [bareSettingEnd?, settingStop, hfind, hend]
  cases find? _ Pattern.nextOption with
  | none => rfl
  | some next => rfl

end Cursor

namespace Alike

variable {tail other : List Char} {first second : Cursor}

theorem peek_eq (h : Alike tail other first second) : first.peek = second.peek := by
  obtain ⟨text, -, hfirst, hsecond⟩ := h.rest_eq
  rw [Cursor.peek, Cursor.peek, hfirst, hsecond]
  cases text <;> rfl

theorem atBoundary_eq (h : Alike tail other first second) :
    first.atBoundary = second.atBoundary := by
  rw [Cursor.atBoundary, Cursor.atBoundary, h.followsWord_eq, h.peek_eq]

/-- Both cursors may skip what still belongs to the statement. -/
theorem skip (h : Alike tail other first second) {count : ℕ}
    (hcount : count + tail.length < first.remaining) :
    Alike tail other (first.skip count) (second.skip count) := by
  obtain ⟨text, htext, hfirst, hsecond⟩ := h.rest_eq
  have hwithin : count ≤ text.length := by
    rw [Cursor.remaining, hfirst, List.length_append, List.length_cons] at hcount
    omega
  have hread : first.rest.take count = text.take count := by
    rw [hfirst, List.take_append_of_le_length hwithin]
  have hread' : second.rest.take count = text.take count := by
    rw [hsecond, List.take_append_of_le_length hwithin]
  constructor
  · refine ⟨text.drop count, fun ch hch => htext ch (List.mem_of_mem_drop hch), ?_, ?_⟩
    · rw [Cursor.skip, hfirst, List.drop_append_of_le_length hwithin]
    · rw [Cursor.skip, hsecond, List.drop_append_of_le_length hwithin]
  · have hglue := h.followsGlue_eq
    simp only [Cursor.followsGlue, Cursor.previous, Cursor.skip, hread, hread'] at hglue ⊢
    cases (text.take count).reverse with
    | nil => exact hglue
    | cons ch read => rfl
  · have hword := h.followsWord_eq
    simp only [Cursor.previous, Cursor.skip, hread, hread'] at hword ⊢
    cases (text.take count).reverse with
    | nil => exact hword
    | cons ch read => rfl

theorem remaining_lt_iff {later later' : Cursor} (h : Alike tail other first second)
    (hlater : Alike tail other later later') :
    later.remaining < first.remaining ↔ later'.remaining < second.remaining := by
  obtain ⟨text, -, hfirst, hsecond⟩ := h.rest_eq
  obtain ⟨more, -, hmore, hmore'⟩ := hlater.rest_eq
  simp only [Cursor.remaining, hfirst, hsecond, hmore, hmore', List.length_append,
    List.length_cons]
  omega

theorem textUntil_eq {later later' : Cursor} (h : Alike tail other first second)
    (hlater : Alike tail other later later') :
    first.textUntil later = second.textUntil later' := by
  obtain ⟨text, -, hfirst, hsecond⟩ := h.rest_eq
  obtain ⟨more, -, hmore, hmore'⟩ := hlater.rest_eq
  have hcount : first.remaining - later.remaining = text.length - more.length := by
    simp only [Cursor.remaining, hfirst, hmore, List.length_append]
    omega
  have hcount' : second.remaining - later'.remaining = text.length - more.length := by
    simp only [Cursor.remaining, hsecond, hmore', List.length_append]
    omega
  rw [Cursor.textUntil, Cursor.textUntil, hcount, hcount', hfirst, hsecond,
    List.take_append_of_le_length (by omega), List.take_append_of_le_length (by omega)]

theorem stringUntil_eq {later later' : Cursor} (h : Alike tail other first second)
    (hlater : Alike tail other later later') :
    first.stringUntil later = second.stringUntil later' :=
  congrArg String.ofList (h.textUntil_eq hlater)

/-- The semicolon and what follows it are still to come. -/
theorem lt_remaining (h : Alike tail other first second) : tail.length < first.remaining := by
  obtain ⟨text, -, hfirst, -⟩ := h.rest_eq
  rw [Cursor.remaining, hfirst, List.length_append, List.length_cons]
  omega

theorem atEnd_eq_false (h : Alike tail other first second) : first.atEnd = false := by
  obtain ⟨text, -, hfirst, -⟩ := h.rest_eq
  rw [Cursor.atEnd, hfirst]
  cases text <;> rfl

/-! ## Characters -/

theorem skip_one (h : Alike tail other first second) (hpeek : first.peek ≠ some ';') :
    Alike tail other (first.skip 1) (second.skip 1) := by
  obtain ⟨text, -, hfirst, -⟩ := h.rest_eq
  apply h.skip
  rw [Cursor.remaining, hfirst, List.length_append, List.length_cons]
  cases text with
  | nil =>
      rw [Cursor.peek, hfirst] at hpeek
      exact absurd rfl hpeek
  | cons ch text =>
      rw [List.length_cons]
      omega

theorem char? (h : Alike tail other first second) {mark : Char} (hmark : mark ≠ ';') :
    Option.Rel (Alike tail other) (first.char? mark) (second.char? mark) := by
  rw [Cursor.char?, Cursor.char?, ← h.peek_eq]
  split
  · next hpeek =>
    apply Option.Rel.some
    apply h.skip_one
    rw [hpeek]
    simpa using hmark
  · exact .none

/-- A run that a semicolon ends. -/
theorem skipWhile (h : Alike tail other first second) {inClass : Char → Bool}
    (hclass : inClass ';' = false) :
    Alike tail other (first.skipWhile inClass) (second.skipWhile inClass) := by
  obtain ⟨text, -, hfirst, hsecond⟩ := h.rest_eq
  have hrun (following : List Char) :
      (text ++ ';' :: following).takeWhile inClass = text.takeWhile inClass := by
    rw [List.takeWhile_append, List.takeWhile_cons_of_neg (by simp [hclass])]
    split
    · next hall =>
      rw [List.append_nil, (List.takeWhile_prefix inClass).eq_of_length hall]
    · rfl
  have hlength : (text.takeWhile inClass).length ≤ text.length :=
    (List.takeWhile_prefix inClass).length_le
  rw [Cursor.skipWhile, Cursor.skipWhile, hfirst, hsecond, hrun, hrun]
  apply h.skip
  rw [Cursor.remaining, hfirst, List.length_append, List.length_cons]
  omega

theorem run? (h : Alike tail other first second) {inClass : Char → Bool}
    (hclass : inClass ';' = false) :
    Option.Rel (Alike tail other) (first.run? inClass) (second.run? inClass) := by
  rw [Cursor.run?, Cursor.run?, ← h.peek_eq]
  split
  · exact .some (h.skipWhile hclass)
  · exact .none

theorem skipSpace (h : Alike tail other first second) :
    Alike tail other first.skipSpace second.skipSpace :=
  h.skipWhile (by decide)

theorem space? (h : Alike tail other first second) :
    Option.Rel (Alike tail other) first.space? second.space? :=
  h.run? (by decide)

/-- A literal without a semicolon. -/
theorem letters? (h : Alike tail other first second) {fold : Char → Char} {word : String}
    (hword : fold ';' ∉ word.toList.map fold) :
    Option.Rel (Alike tail other) (Cursor.letters? fold first word)
      (Cursor.letters? fold second word) := by
  obtain ⟨text, -, hfirst, hsecond⟩ := h.rest_eq
  by_cases hwithin : word.toList.length ≤ text.length
  · rw [Cursor.letters?, Cursor.letters?, hfirst, hsecond,
      List.take_append_of_le_length hwithin, List.take_append_of_le_length hwithin]
    split
    · apply Option.Rel.some
      apply h.skip
      rw [Cursor.remaining, hfirst, List.length_append, List.length_cons]
      omega
    · exact .none
  · -- The literal would have to contain the semicolon.
    have hfails (following : List Char) :
        ((text ++ ';' :: following).take word.toList.length).map fold ≠ word.toList.map fold := by
      intro hread
      apply hword
      rw [← hread]
      apply List.mem_map_of_mem
      rw [List.take_append, List.mem_append]
      right
      obtain ⟨count, hcount⟩ : ∃ count, word.toList.length - text.length = count + 1 :=
        ⟨word.toList.length - text.length - 1, by omega⟩
      rw [hcount, List.take_succ_cons]
      exact List.mem_cons_self
    rw [Cursor.letters?, Cursor.letters?, hfirst, hsecond, if_neg (hfails tail),
      if_neg (hfails other)]
    exact .none

theorem word? (h : Alike tail other first second) {word : String}
    (hword : ';' ∉ word.toList.map Char.toLower) :
    Option.Rel (Alike tail other) (first.word? word) (second.word? word) := by
  rw [Cursor.word?, Cursor.word?, ← h.followsGlue_eq]
  split
  · exact .none
  · apply rel_filter (h.letters? hword)
    intro later later' hlater
    rw [Cursor.precedesGlue, Cursor.precedesGlue, hlater.peek_eq]

/-- Each reading finds the semicolon of its own statement. -/
theorem through? (h : Alike tail other first second) :
    Option.Rel (fun found found' => found.1 = found'.1 ∧ found.2.rest = tail ∧
        found'.2.rest = other) (first.through? ';') (second.through? ';') := by
  obtain ⟨text, htext, hfirst, hsecond⟩ := h.rest_eq
  obtain ⟨before, rest⟩ := first
  obtain ⟨before', rest'⟩ := second
  obtain rfl : rest = text ++ ';' :: tail := hfirst
  obtain rfl : rest' = text ++ ';' :: other := hsecond
  rw [Cursor.through?_append htext.semicolon_notMem,
    Cursor.through?_append htext.semicolon_notMem]
  exact .some ⟨rfl, rfl, rfl⟩

/-! ## Names -/

theorem skipDot (h : Alike tail other first second) :
    Alike tail other first.skipDot second.skipDot := by
  rw [Cursor.skipDot, Cursor.skipDot]
  have hdot := h.char? (by decide : '.' ≠ ';')
  generalize first.char? '.' = found at hdot
  generalize second.char? '.' = found' at hdot
  cases hdot with
  | none => exact h
  | some hlater => exact hlater

theorem plainName? (h : Alike tail other first second) :
    Option.Rel (ReadAlike tail other) first.plainName? second.plainName? := by
  apply rel_map (h.run? (by decide))
  intro stop stop' hstop
  exact ⟨h.stringUntil_eq hstop, hstop⟩

theorem referenceEnd? (h : Alike tail other first second) :
    Option.Rel (Alike tail other) first.referenceEnd? second.referenceEnd? := by
  apply rel_bind (h.char? (by decide))
  intro mark mark' hmark
  have hname := hmark.run? (by decide : isNameCharacter ';' = false)
  generalize mark.run? isNameCharacter = found at hname
  generalize mark'.run? isNameCharacter = found' at hname
  cases hname with
  | some hstop => exact .some hstop.skipDot
  | none =>
      apply rel_bind (hmark.char? (by decide))
      intro second second' hsecond
      apply rel_bind (hsecond.run? (by decide))
      intro outer outer' houter
      apply rel_bind (houter.skipDot.char? (by decide))
      intro third third' hthird
      apply rel_bind (hthird.run? (by decide))
      intro inner inner' hinner
      exact .some hinner.skipDot

theorem macroVariable? (h : Alike tail other first second) :
    Option.Rel (ReadAlike tail other) first.macroVariable? second.macroVariable? := by
  apply rel_map h.referenceEnd?
  intro stop stop' hstop
  exact ⟨congrArg MacroVariable.mk (h.stringUntil_eq hstop), hstop⟩

theorem nameSegment? (h : Alike tail other first second) :
    Option.Rel (ReadAlike tail other) first.nameSegment? second.nameSegment? := by
  unfold Cursor.nameSegment?
  cases hplain : first.plainName? with
  | none =>
      rw [rel_eq_none h.plainName? hplain]
      apply rel_map h.macroVariable?
      rintro ⟨written, stop⟩ ⟨_, stop'⟩ ⟨rfl, hstop⟩
      exact ⟨rfl, hstop⟩
  | some read =>
      obtain ⟨read', hplain', hvalue, hstop⟩ := rel_eq_some h.plainName? hplain
      rw [hplain']
      exact .some ⟨congrArg NameSegment.literal hvalue, hstop⟩

theorem nameSegments (h : Alike tail other first second) :
    ReadAlike tail other first.nameSegments second.nameSegments := by
  fun_induction Cursor.nameSegments first generalizing second with
  | case1 cursor hnone =>
      have hnone' := rel_eq_none h.nameSegment? hnone
      rw [Cursor.nameSegments_of_none hnone']
      exact ⟨rfl, h⟩
  | case2 cursor segment after hsome more stop hmore ih =>
      obtain ⟨⟨segment', after'⟩, hsome', hvalue, hafter⟩ := rel_eq_some h.nameSegment? hsome
      obtain rfl : segment = segment' := hvalue
      obtain ⟨hsegments, hstop⟩ := ih hafter
      rw [hmore] at hsegments hstop
      rw [Cursor.nameSegments_of_some hsome']
      exact ⟨congrArg (segment :: ·) hsegments, hstop⟩

theorem dynamicName? (h : Alike tail other first second) :
    Option.Rel (ReadAlike tail other) first.dynamicName? second.dynamicName? := by
  have hread := h.nameSegments
  unfold Cursor.dynamicName?
  generalize first.nameSegments = read at hread
  generalize second.nameSegments = read' at hread
  obtain ⟨segments, stop⟩ := read
  obtain ⟨segments', stop'⟩ := read'
  obtain ⟨hsegments, hstop⟩ := hread
  obtain rfl : segments = segments' := hsegments
  cases segments with
  | nil => exact .none
  | cons segment segments => exact .some ⟨rfl, hstop⟩

/-! ## Options -/

theorem optionName? (h : Alike tail other first second) :
    Option.Rel (ReadAlike tail other) first.optionName? second.optionName? := by
  apply rel_bind h.dynamicName?
  rintro ⟨name, stop⟩ ⟨_, stop'⟩ ⟨rfl, hstop⟩
  apply rel_bind (hstop.skipSpace.char? (by decide))
  intro equals equals' hequals
  exact .some ⟨rfl, hequals.skipSpace⟩

theorem parenthesisedOption? (h : Alike tail other first second) :
    Option.Rel (ReadAlike tail other) first.parenthesisedOption?
      second.parenthesisedOption? := by
  apply rel_bind h.optionName?
  rintro ⟨name, setting⟩ ⟨_, setting'⟩ ⟨rfl, hsetting⟩
  apply rel_bind (hsetting.char? (by decide))
  intro opened opened' hopened
  apply rel_bind ((hopened.skipWhile (by decide)).char? (by decide))
  intro stop stop' hstop
  exact .some ⟨congrArg (fun text => DatasetOption.mk name (some text))
    (hsetting.stringUntil_eq hstop), hstop⟩

/-- No quotation begins in a statement without quotation marks. -/
theorem quotationMark?_eq_none (h : Alike tail other first second) :
    first.quotationMark? = none := by
  obtain ⟨text, htext, hfirst, -⟩ := h.rest_eq
  have hpeek : first.peek.any isQuotationMark = false := by
    rw [Cursor.peek, hfirst]
    cases text with
    | nil => rfl
    | cons ch text => exact (htext ch List.mem_cons_self).2
  rw [Cursor.quotationMark?, hpeek]
  rfl

theorem symm (h : Alike tail other first second) : Alike other tail second first := by
  obtain ⟨text, htext, hfirst, hsecond⟩ := h.rest_eq
  exact ⟨⟨text, htext, hsecond, hfirst⟩, h.followsGlue_eq.symm, h.followsWord_eq.symm⟩

theorem quotedOption? (h : Alike tail other first second) :
    Option.Rel (ReadAlike tail other) first.quotedOption? second.quotedOption? := by
  apply rel_bind h.optionName?
  rintro ⟨name, setting⟩ ⟨_, setting'⟩ ⟨rfl, hsetting⟩
  have hnone : setting.quotedPath? = none := by
    rw [Cursor.quotedPath?, hsetting.quotationMark?_eq_none]
    rfl
  have hnone' : setting'.quotedPath? = none := by
    rw [Cursor.quotedPath?, hsetting.symm.quotationMark?_eq_none]
    rfl
  simp only [hnone, hnone']
  exact .none

theorem settingStop {bound bound' : Cursor} (h : Alike tail other first second)
    (hbound : Alike tail other bound bound') (reaches : first.Reaches bound) :
    Alike tail other (first.settingStop bound) (second.settingStop bound') := by
  have hlength : (first.textUntil bound).length + tail.length < first.remaining := by
    have htaken : (first.textUntil bound).length ≤ first.remaining - bound.remaining :=
      List.length_take_le _ _
    have hbehind := hbound.lt_remaining
    have hreaches := reaches.remaining_le
    omega
  rw [Cursor.settingStop, Cursor.settingStop, ← h.textUntil_eq hbound]
  split
  · exact h.skip (by omega)
  · exact hbound

theorem bareSettingEnd? (h : Alike tail other first second) :
    Option.Rel (Alike tail other) first.bareSettingEnd? second.bareSettingEnd? := by
  have hbound : Alike tail other (first.skipWhile fun ch => ch != ')' && ch != ';')
      (second.skipWhile fun ch => ch != ')' && ch != ';') := h.skipWhile (by decide)
  rw [Cursor.bareSettingEnd?_eq hbound.atEnd_eq_false,
    Cursor.bareSettingEnd?_eq hbound.symm.atEnd_eq_false]
  exact .some (h.settingStop hbound (first.skipWhile_reaches _))

theorem bareOption? (h : Alike tail other first second) :
    Option.Rel (ReadAlike tail other) first.bareOption? second.bareOption? := by
  apply rel_bind h.optionName?
  rintro ⟨name, setting⟩ ⟨_, setting'⟩ ⟨rfl, hsetting⟩
  apply rel_bind hsetting.bareSettingEnd?
  intro stop stop' hstop
  exact .some ⟨congrArg (fun text => DatasetOption.mk name (some text))
    (hsetting.stringUntil_eq hstop), hstop⟩

theorem flagOption? (h : Alike tail other first second) :
    Option.Rel (ReadAlike tail other) first.flagOption? second.flagOption? := by
  apply rel_bind h.dynamicName?
  rintro ⟨name, stop⟩ ⟨_, stop'⟩ ⟨rfl, hstop⟩
  exact .some ⟨rfl, hstop⟩

theorem datasetOption? (h : Alike tail other first second) :
    Option.Rel (ReadAlike tail other) first.datasetOption? second.datasetOption? :=
  rel_orElse h.parenthesisedOption?
    (rel_orElse h.quotedOption? (rel_orElse h.bareOption? h.flagOption?))

/-! ## Lists -/

theorem comma? (h : Alike tail other first second) :
    Option.Rel (Alike tail other) (SasOutline.comma? first) (SasOutline.comma? second) := by
  apply rel_map (h.skipSpace.char? (by decide))
  intro stop stop' hstop
  exact hstop.skipSpace

theorem optional {α : Type} (h : Alike tail other first second)
    {parsed parsed' : Option (α × Cursor)}
    (hparsed : Option.Rel (ReadAlike tail other) parsed parsed') :
    ReadAlike tail other (SasOutline.optional first parsed)
      (SasOutline.optional second parsed') := by
  cases hparsed with
  | none => exact ⟨rfl, h⟩
  | some hread => exact ⟨congrArg some hread.1, hread.2⟩

section Separated

variable {α : Type} {item : Reader α} {separator : Cursor → Option Cursor}
  (hitem : ∀ first second, Alike tail other first second →
    Option.Rel (ReadAlike tail other) (item first) (item second))
  (hseparator : ∀ first second, Alike tail other first second →
    Option.Rel (Alike tail other) (separator first) (separator second))

include hitem hseparator

theorem separatedTail (h : Alike tail other first second) :
    ReadAlike tail other (SasOutline.separatedTail item separator first)
      (SasOutline.separatedTail item separator second) := by
  have hpair (first second : Cursor) (h : Alike tail other first second) :
      Option.Rel (ReadAlike tail other) ((separator first).bind item)
        ((separator second).bind item) :=
    rel_bind (hseparator first second h) hitem
  fun_induction SasOutline.separatedTail item separator first generalizing second with
  | case1 cursor hnone =>
      rw [SasOutline.separatedTail, rel_eq_none (hpair _ _ h) hnone]
      exact ⟨rfl, h⟩
  | case2 cursor next after hsome hless more stop htail ih =>
      obtain ⟨⟨next', after'⟩, hsome', hvalue, hafter⟩ := rel_eq_some (hpair _ _ h) hsome
      obtain rfl : next = next' := hvalue
      obtain ⟨hmore, hstop⟩ := ih hafter
      rw [htail] at hmore hstop
      have hless' := (h.remaining_lt_iff hafter).1 hless
      rw [SasOutline.separatedTail, hsome']
      simp only [if_pos hless']
      exact ⟨congrArg (next :: ·) hmore, hstop⟩
  | case3 cursor next after hsome hless =>
      obtain ⟨⟨next', after'⟩, hsome', -, hafter⟩ := rel_eq_some (hpair _ _ h) hsome
      have hless' := mt (h.remaining_lt_iff hafter).2 hless
      rw [SasOutline.separatedTail, hsome']
      simp only [if_neg hless']
      exact ⟨rfl, h⟩

theorem separated (h : Alike tail other first second) :
    ReadAlike tail other (SasOutline.separated item separator first)
      (SasOutline.separated item separator second) := by
  unfold SasOutline.separated
  cases hread : item first with
  | none =>
      rw [rel_eq_none (hitem _ _ h) hread]
      exact ⟨rfl, h⟩
  | some read =>
      obtain ⟨⟨value, after⟩, hread', hvalue, hafter⟩ := rel_eq_some (hitem _ _ h) hread
      obtain ⟨hmore, hstop⟩ := separatedTail hitem hseparator hafter
      rw [hread']
      exact ⟨congrArg₂ List.cons hvalue hmore, hstop⟩

end Separated

/-! ## Datasets -/

theorem datasetOptions? (h : Alike tail other first second) :
    Option.Rel (ReadAlike tail other) first.datasetOptions? second.datasetOptions? := by
  apply rel_bind (h.char? (by decide))
  intro opened opened' hopened
  obtain ⟨hoptions, hclosing⟩ := separated (fun _ _ h => h.datasetOption?)
    (fun _ _ h => h.space?) hopened.skipSpace
  apply rel_bind (hclosing.skipSpace.char? (by decide))
  intro stop stop' hstop
  exact .some ⟨hoptions, hstop⟩

theorem qualifier? (h : Alike tail other first second) :
    Option.Rel (ReadAlike tail other) first.qualifier? second.qualifier? := by
  apply rel_bind h.dynamicName?
  rintro ⟨library, stop⟩ ⟨_, stop'⟩ ⟨rfl, hstop⟩
  apply rel_bind (hstop.char? (by decide))
  intro dot dot' hdot
  exact .some ⟨rfl, hdot⟩

theorem datasetName? (h : Alike tail other first second) :
    Option.Rel (ReadAlike tail other) first.datasetName? second.datasetName? := by
  apply rel_orElse _ h.dynamicName?
  apply rel_bind (h.char? (by decide))
  intro dot dot' hdot
  exact hdot.dynamicName?

theorem datasetReference? (h : Alike tail other first second) :
    Option.Rel (ReadAlike tail other) first.datasetReference? second.datasetReference? := by
  obtain ⟨hlibrary, hstart⟩ := h.optional h.qualifier?
  apply rel_bind hstart.datasetName?
  rintro ⟨dataset, stop⟩ ⟨_, stop'⟩ ⟨rfl, hstop⟩
  obtain ⟨hoptions, hlast⟩ := hstop.optional hstop.skipSpace.datasetOptions?
  exact .some ⟨congrArg₂ (fun library options => DatasetReference.mk library dataset options)
    hlibrary hoptions, hlast⟩

theorem datasetEnumeration (h : Alike tail other first second) :
    ReadAlike tail other first.datasetEnumeration second.datasetEnumeration :=
  separated (fun _ _ h => h.datasetReference?) (fun _ _ h => h.comma?) h

/-! ## Searches -/

section Search

variable {pattern : Pattern}
  (hpattern : ∀ first second, Alike tail other first second →
    Option.Rel (Alike tail other) (pattern first) (pattern second))

include hpattern

/-- What is found behind the statement does not count. -/
theorem findFrom {text : List Char} (htext : IsStatementText text) (before before' : List Char)
    (h : Alike tail other ⟨before, text ++ ';' :: tail⟩ ⟨before', text ++ ';' :: other⟩) :
    Option.Rel (fun found found' => Alike tail other found.stop found'.stop)
      ((Cursor.findFrom pattern before (text ++ ';' :: tail)).filter
        fun found => (';' :: tail).length < found.start.remaining)
      ((Cursor.findFrom pattern before' (text ++ ';' :: other)).filter
        fun found => (';' :: other).length < found.start.remaining) := by
  induction text generalizing before before' with
  | nil =>
      have hbehind (before following : List Char) :
          (Cursor.findFrom pattern before (';' :: following)).filter
            (fun found => (';' :: following).length < found.start.remaining) = none := by
        rw [Option.filter_eq_none_iff]
        intro found hfound
        have hfind : Cursor.find? ⟨before, ';' :: following⟩ pattern = some found := hfound
        have hle : found.start.remaining ≤ (';' :: following).length :=
          (Cursor.find?_some hfind).1.remaining_le
        simpa using hle
      rw [List.nil_append, List.nil_append, hbehind, hbehind]
      exact .none
  | cons ch text ih =>
      obtain ⟨hch, hlater⟩ := List.forall_mem_cons.mp htext
      rw [List.cons_append, List.cons_append] at h ⊢
      rw [Cursor.findFrom, Cursor.findFrom]
      cases hhere : pattern ⟨before, ch :: (text ++ ';' :: tail)⟩ with
      | none =>
          rw [rel_eq_none (hpattern _ _ h) hhere]
          apply ih hlater
          apply h.skip_one
          simpa [Cursor.peek] using hch.1
      | some stop =>
          obtain ⟨stop', hhere', hstop⟩ := rel_eq_some (hpattern _ _ h) hhere
          rw [hhere', Option.filter_some_pos (by simp [Cursor.remaining]),
            Option.filter_some_pos (by simp [Cursor.remaining])]
          exact .some hstop

/-- Both searches find the same place of the statement, or both leave it. -/
theorem findBefore? (h : Alike tail other first second) :
    Option.Rel (fun found found' => Alike tail other found.stop found'.stop)
      (first.findBefore? pattern (first.skipWhile (· != ';')))
      (second.findBefore? pattern (second.skipWhile (· != ';'))) := by
  obtain ⟨text, htext, hfirst, hsecond⟩ := h.rest_eq
  obtain ⟨before, rest⟩ := first
  obtain ⟨before', rest'⟩ := second
  obtain rfl : rest = text ++ ';' :: tail := hfirst
  obtain rfl : rest' = text ++ ';' :: other := hsecond
  rw [Cursor.skipWhile_mark htext.semicolon_notMem,
    Cursor.skipWhile_mark htext.semicolon_notMem]
  exact findFrom hpattern htext before before' h

end Search

theorem opening (h : Alike tail other first second) {word : String}
    (hword : foldedLetter ';' ∉ word.toList.map foldedLetter) :
    Option.Rel (Alike tail other) (Pattern.opening word first) (Pattern.opening word second) := by
  rw [Pattern.opening, Pattern.opening, h.atBoundary_eq]
  split
  · exact h.letters? hword
  · exact .none

theorem fromPattern (h : Alike tail other first second) :
    Option.Rel (Alike tail other) (Pattern.fromClause first) (Pattern.fromClause second) := by
  apply rel_bind (h.opening (by decide))
  intro stop stop' hstop
  exact hstop.space?

/-- Whether a statement ends in the word `quit` is seen from the statement. -/
theorem quit_eq_none (h : Alike tail other first second) (hnone : Pattern.quit first = none) :
    Pattern.quit second = none := by
  have hquit : Option.Rel (fun _ _ => True) (Pattern.quit first) (Pattern.quit second) := by
    apply rel_bind (h.opening (by decide))
    intro stop stop' hstop
    rw [Cursor.char?, Cursor.char?, ← hstop.skipSpace.peek_eq]
    split
    · exact .some trivial
    · exact .none
  exact rel_eq_none hquit hnone

theorem fromClause? (h : Alike tail other first second) :
    Option.Rel (ReadAlike tail other) first.fromClause? second.fromClause? := by
  apply rel_bind (h.findBefore? fun _ _ h => h.fromPattern)
  intro found found' hfound
  exact .some hfound.datasetEnumeration

theorem fromClauses (h : Alike tail other first second) :
    ReadAlike tail other first.fromClauses second.fromClauses := by
  fun_induction Cursor.fromClauses first generalizing second with
  | case1 cursor hnone =>
      have hnone' := rel_eq_none h.fromClause? hnone
      rw [Cursor.fromClauses_of_none hnone']
      exact ⟨rfl, h⟩
  | case2 cursor sources after hsome more stop hmore ih =>
      obtain ⟨⟨sources', after'⟩, hsome', hvalue, hafter⟩ := rel_eq_some h.fromClause? hsome
      obtain rfl : sources = sources' := hvalue
      obtain ⟨hsources, hstop⟩ := ih hafter
      rw [hmore] at hsources hstop
      rw [Cursor.fromClauses_of_some hsome']
      exact ⟨congrArg (sources ++ ·) hsources, hstop⟩

/-- A `create table` statement is read alike wherever it stands, and through its own
semicolon. -/
theorem createTable? (h : Alike tail other first second) :
    Option.Rel (fun read read' => read.1 = read'.1 ∧ read.2.rest = tail ∧ read'.2.rest = other)
      first.createTable? second.createTable? := by
  apply rel_bind (h.word? (by decide))
  intro create create' hcreate
  apply rel_bind hcreate.space?
  intro start start' hstart
  apply rel_bind (hstart.word? (by decide))
  intro table table' htable
  obtain ⟨houtputs, hstop⟩ := htable.skipSpace.datasetEnumeration
  apply rel_bind (hstop.skipSpace.word? (by decide))
  intro query query' hquery
  obtain ⟨hinputs, hlast⟩ := hquery.fromClauses
  apply rel_bind hlast.through?
  rintro ⟨text, stop⟩ ⟨text', stop'⟩ ⟨-, hrest⟩
  exact .some ⟨congrArg₂ (Procedure.mk "sql") hinputs houtputs, hrest⟩

end Alike

end SasOutline
