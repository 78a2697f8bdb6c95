import SasOutline.PatternSearch
import SasOutline.Proofs.AsciiCase
import SasOutline.Proofs.KnownText
import SasOutline.Proofs.WordEnds

/-!
# The leftmost match

A search stops at the first place where its pattern matches, so between the place where it
began and the place where it stopped there is no match at all.  A search that begins later,
but not behind that match, stops at the same match.

Patterns that open with a word do not match in front of a blank.  The blanks between two
words therefore make no difference to where a search begins.
-/

namespace SasOutline

/-! ## The text between two cursors -/

namespace Cursor

/-- The text stands between the two cursors. -/
def Reads (cursor : Cursor) (text : List Char) (later : Cursor) : Prop :=
  cursor.rest = text ++ later.rest ∧ later.before = text.reverse ++ cursor.before

theorem Reaches.reads {cursor later : Cursor} (reaches : cursor.Reaches later) :
    cursor.Reads (cursor.textUntil later) later := by
  obtain ⟨hrest, hbefore⟩ := reaches.textUntil_append
  exact ⟨hrest.symm, hbefore⟩

/-- Of two places that are reached, the later one is reached from the earlier one. -/
theorem Reaches.of_remaining_le {cursor place later : Cursor} (toPlace : cursor.Reaches place)
    (toLater : cursor.Reaches later) (hle : later.remaining ≤ place.remaining) :
    place.Reaches later := by
  obtain ⟨read, hrest, hbefore⟩ := toPlace
  obtain ⟨more, hrest', hbefore'⟩ := toLater
  have hsplit : read ++ place.rest = more ++ later.rest := hrest.symm.trans hrest'
  have hlength := congrArg List.length hsplit
  simp only [List.length_append] at hlength
  simp only [remaining] at hle
  have hprefix : read <+: more :=
    List.prefix_of_prefix_length_le (List.prefix_append read place.rest)
      ⟨later.rest, hsplit.symm⟩ (by omega)
  obtain ⟨between, rfl⟩ := hprefix
  rw [List.append_assoc, List.append_cancel_left_eq] at hsplit
  exact ⟨between, hsplit, by rw [hbefore', hbefore, List.reverse_append, List.append_assoc]⟩

theorem skip_reads (cursor : Cursor) (count : ℕ) :
    cursor.Reads (cursor.rest.take count) (cursor.skip count) :=
  ⟨(List.take_append_drop count cursor.rest).symm, rfl⟩

theorem skipSpace_reads (cursor : Cursor) :
    ∃ blanks, IsBlank blanks ∧ cursor.Reads blanks cursor.skipSpace := by
  refine ⟨cursor.rest.takeWhile isWhiteSpace, List.all_eq_true.mp List.all_takeWhile, ?_⟩
  rw [skipSpace, skipWhile_eq]
  exact ⟨List.takeWhile_append_dropWhile.symm, rfl⟩

namespace Reads

variable {first second third : Cursor} {text more : List Char}

theorem reaches (h : first.Reads text second) : first.Reaches second := ⟨text, h⟩

theorem trans (left : first.Reads text second) (right : second.Reads more third) :
    first.Reads (text ++ more) third := by
  obtain ⟨hrest, hbefore⟩ := left
  obtain ⟨hrest', hbefore'⟩ := right
  exact ⟨by rw [hrest, hrest', List.append_assoc],
    by rw [hbefore', hbefore, List.reverse_append, List.append_assoc]⟩

theorem textUntil_eq (h : first.Reads text second) : first.textUntil second = text := by
  have hread := h.reaches.textUntil_append.1
  rw [h.1] at hread
  exact List.append_cancel_right hread

theorem eq (h : first.Reads text second) (h' : first.Reads more second) : text = more :=
  h.textUntil_eq.symm.trans h'.textUntil_eq

theorem ne_nil (h : first.Reads text second) (hless : second.remaining < first.remaining) :
    text ≠ [] := by
  rintro rfl
  exact absurd (congrArg List.length h.1) hless.ne'

/-- Both cursors, spelled out by the text between them. -/
theorem exists_eq (h : first.Reads text second) :
    ∃ before rest, first = ⟨before, text ++ rest⟩ ∧ second = ⟨text.reverse ++ before, rest⟩ := by
  obtain ⟨before, rest⟩ := first
  obtain ⟨behind, following⟩ := second
  obtain ⟨hrest, hbefore⟩ := h
  exact ⟨before, following, congrArg (Cursor.mk before) hrest,
    congrArg (Cursor.mk · following) hbefore⟩

theorem take_eq (h : first.Reads text second) : first.rest.take text.length = text := by
  rw [h.1, List.take_left]

theorem skip_eq (h : first.Reads text second) : first.skip text.length = second := by
  obtain ⟨hrest, hbefore⟩ := h
  rw [skip, hrest, List.take_left, List.drop_left, ← hbefore]

end Reads

namespace Reads

variable {cursor later : Cursor} {read : List Char}

/-- A place between two cursors divides the text that stands between them. -/
theorem divided (h : cursor.Reads read later) {place : Cursor} (hplace : cursor.Reaches place)
    (hle : later.remaining ≤ place.remaining) :
    ∃ front back, read = front ++ back ∧ cursor.Reads front place ∧ place.Reads back later := by
  have hback := (hplace.of_remaining_le h.reaches hle).reads
  exact ⟨_, _, h.eq (hplace.reads.trans hback), hplace.reads, hback⟩

/-- In front of a word there is a boundary if no word runs on there. -/
theorem atBoundary_start_eq (h : cursor.Reads read later) (hne : read ≠ [])
    (hword : ∀ ch ∈ read, isWordCharacter ch = true) :
    cursor.atBoundary = !cursor.previous.any isWordCharacter := by
  have hfirst : cursor.peek.any isWordCharacter = true := by
    rw [peek, h.1, List.head?_append_of_ne_nil _ hne, List.head?_eq_some_head hne]
    exact hword _ (List.head_mem hne)
  rw [Cursor.atBoundary, hfirst, Bool.bne_true]

theorem atBoundary_stop_eq (h : cursor.Reads read later) (hne : read ≠ [])
    (hword : ∀ ch ∈ read, isWordCharacter ch = true) :
    later.atBoundary = !later.peek.any isWordCharacter := by
  have hlast : later.previous.any isWordCharacter = true := by
    rw [previous, h.2, List.head?_append_of_ne_nil _ (by simpa using hne), List.head?_reverse,
      List.getLast?_eq_some_getLast hne]
    exact hword _ (List.getLast_mem hne)
  rw [Cursor.atBoundary, hlast, Bool.true_bne]

/-- A word begins at a boundary when no word runs on in front of it. -/
theorem atBoundary_start (h : cursor.Reads read later) (hne : read ≠ [])
    (hword : ∀ ch ∈ read, isWordCharacter ch = true)
    (hbefore : Halts isWordCharacter cursor.before) : cursor.atBoundary = true := by
  have hprevious : cursor.previous.any isWordCharacter = false := hbefore
  rw [h.atBoundary_start_eq hne hword, hprevious, Bool.not_false]

theorem atBoundary_stop (h : cursor.Reads read later) (hne : read ≠ [])
    (hword : ∀ ch ∈ read, isWordCharacter ch = true)
    (hrest : Halts isWordCharacter later.rest) : later.atBoundary = true := by
  have hnext : later.peek.any isWordCharacter = false := hrest
  rw [h.atBoundary_stop_eq hne hword, hnext, Bool.not_false]

end Reads

theorem char?_reads {cursor later : Cursor} {mark : Char} (h : cursor.char? mark = some later) :
    cursor.Reads [mark] later :=
  char?_eq_some h

theorem letters?_eq_some {fold : Char → Char} {cursor later : Cursor} {word : String}
    (h : letters? fold cursor word = some later) :
    ∃ read, cursor.Reads read later ∧ read.map fold = word.toList.map fold := by
  unfold letters? at h
  split at h
  · next hsame =>
      obtain rfl := Option.some.inj h
      exact ⟨_, cursor.skip_reads _, hsame⟩
  · contradiction

/-- The letters that stand in front of `later` decide whether they are the word. -/
theorem letters?_of_reads {fold : Char → Char} {cursor later : Cursor} {word : String}
    {read : List Char} (hread : cursor.Reads read later)
    (hlength : read.length = word.toList.length) :
    letters? fold cursor word =
      if read.map fold = word.toList.map fold then some later else none := by
  rw [letters?, ← hlength, hread.take_eq, hread.skip_eq]

end Cursor

/-! ## Where a search stops -/

/-- No match starts at `start` or behind it and in front of `stop`. -/
def Pattern.Misses (pattern : Pattern) (start stop : Cursor) : Prop :=
  ∀ place, start.Reaches place → stop.remaining < place.remaining → pattern place = none

namespace Cursor

variable {pattern : Pattern}

/-- What is reached is the cursor itself or reached from the next character on. -/
theorem Reaches.eq_or_cons {before rest : List Char} {ch : Char} {place : Cursor}
    (reaches : Reaches ⟨before, ch :: rest⟩ place) :
    place = ⟨before, ch :: rest⟩ ∨ Reaches ⟨ch :: before, rest⟩ place := by
  obtain ⟨read, hrest, hbefore⟩ := reaches
  cases read with
  | nil =>
      left
      obtain ⟨placeBefore, placeRest⟩ := place
      obtain rfl : placeBefore = before := hbefore
      obtain rfl : ch :: rest = placeRest := hrest
      rfl
  | cons next read =>
      right
      obtain ⟨rfl, hlater⟩ := List.cons.inj hrest
      exact ⟨read, hlater, by simpa using hbefore⟩

theorem findFrom_misses {before rest : List Char} {found : Found}
    (h : findFrom pattern before rest = some found) :
    pattern.Misses ⟨before, rest⟩ found.start := by
  induction rest generalizing before with
  | nil =>
      intro place hplace hless
      have hnone : place.remaining = 0 := Nat.le_zero.mp hplace.remaining_le
      omega
  | cons ch rest ih =>
      intro place hplace hless
      rw [findFrom] at h
      split at h
      · obtain rfl := Option.some.inj h
        exact absurd hplace.remaining_le (Nat.not_le.mpr hless)
      · next hhere =>
          rcases hplace.eq_or_cons with rfl | hlater
          · exact hhere
          · exact ih h place hlater hless

theorem find?_misses {cursor : Cursor} {found : Found} (h : cursor.find? pattern = some found) :
    pattern.Misses cursor found.start :=
  findFrom_misses h

theorem find?_eq_none {cursor place : Cursor} (h : cursor.find? pattern = none)
    (hplace : cursor.Reaches place) : pattern place = none := by
  obtain ⟨read, hrest, hbefore⟩ := hplace
  rw [find?, hrest] at h
  have hlater := findFrom_append_eq_none h
  rw [← hbefore] at hlater
  cases hread : pattern place with
  | none => rfl
  | some stop =>
      rw [findFrom_eq_of_match hread] at hlater
      contradiction

/-- A search that finds nothing in front of `limit` passes over no match. -/
theorem findBefore?_misses {cursor limit : Cursor}
    (h : cursor.findBefore? pattern limit = none) : pattern.Misses cursor limit := by
  intro place hplace hless
  cases hfound : cursor.find? pattern with
  | none => exact find?_eq_none hfound hplace
  | some found =>
      have hlate : ¬limit.remaining < found.start.remaining := by
        simpa [findBefore?, hfound, Option.filter] using h
      exact find?_misses hfound place hplace (by omega)

/-- A search that would pass over no match in front of `limit` finds nothing there. -/
theorem findBefore?_of_misses {cursor limit : Cursor} (h : pattern.Misses cursor limit) :
    cursor.findBefore? pattern limit = none := by
  rw [findBefore?, Option.filter_eq_none_iff]
  intro found hfound hless
  obtain ⟨hreaches, hmatch⟩ := find?_some hfound
  rw [h found.start hreaches (by simpa using hless)] at hmatch
  contradiction

/-- A pattern that matches in front of no blank misses the blanks at a cursor. -/
theorem misses_skipSpace (cursor : Cursor) (hblank : ∀ ch before rest, isWhiteSpace ch = true →
    pattern ⟨before, ch :: rest⟩ = none) : pattern.Misses cursor cursor.skipSpace := by
  intro place hplace hless
  obtain ⟨blanks, hblanks, hread⟩ := cursor.skipSpace_reads
  obtain ⟨front, back, rfl, -, hback⟩ := hread.divided hplace hless.le
  have hne : back ≠ [] := hback.ne_nil hless
  obtain ⟨ch, back, rfl⟩ := List.exists_cons_of_ne_nil hne
  obtain ⟨before, rest⟩ := place
  obtain rfl : rest = ch :: (back ++ cursor.skipSpace.rest) := hback.1
  exact hblank ch before _ (hblanks ch (by simp))

theorem findFrom_of_reaches {before rest : List Char} {found : Found} {place : Cursor}
    (h : findFrom pattern before rest = some found) (hplace : Reaches ⟨before, rest⟩ place)
    (hle : found.start.remaining ≤ place.remaining) : place.find? pattern = some found := by
  induction rest generalizing before with
  | nil =>
      obtain ⟨read, hrest, hbefore⟩ := hplace
      obtain ⟨rfl, hempty⟩ := List.append_eq_nil_iff.mp hrest.symm
      rw [find?, hempty, hbefore]
      exact h
  | cons ch rest ih =>
      rcases hplace.eq_or_cons with rfl | hlater
      · exact h
      · rw [findFrom] at h
        split at h
        · obtain rfl := Option.some.inj h
          exact absurd hlater.remaining_le (Nat.not_le.mpr hle)
        · exact ih h hlater

/-- A search from a later place stops at the same match. -/
theorem find?_of_reaches {cursor place : Cursor} {found : Found}
    (h : cursor.find? pattern = some found) (hplace : cursor.Reaches place)
    (hle : found.start.remaining ≤ place.remaining) : place.find? pattern = some found :=
  findFrom_of_reaches h hplace hle

theorem find?_here {cursor stop : Cursor} (h : pattern cursor = some stop) :
    cursor.find? pattern = some ⟨cursor, stop⟩ :=
  findFrom_eq_of_match h

/-- The first match is the one with no match in front of it. -/
theorem find?_of_misses {cursor : Cursor} {found : Found} (hreaches : cursor.Reaches found.start)
    (hmatch : pattern found.start = some found.stop)
    (hmisses : pattern.Misses cursor found.start) : cursor.find? pattern = some found := by
  cases hsearch : cursor.find? pattern with
  | none =>
      rw [find?_eq_none hsearch hreaches] at hmatch
      contradiction
  | some first =>
      obtain ⟨toFirst, hfirst⟩ := find?_some hsearch
      have hle : first.start.remaining ≤ found.start.remaining := by
        by_contra hless
        rw [hmisses first.start toFirst (Nat.lt_of_not_le hless)] at hfirst
        contradiction
      have hlater := find?_of_reaches hsearch hreaches hle
      exact hlater.symm.trans (find?_here hmatch)

/-- What is first found from a later place on does not lie in front of that place. -/
theorem findBefore?_eq_none {cursor limit : Cursor}
    (h : cursor.find? pattern = limit.find? pattern) :
    cursor.findBefore? pattern limit = none := by
  unfold findBefore?
  rw [h]
  cases hfound : limit.find? pattern with
  | none => rfl
  | some found =>
      have hle := (find?_some hfound).1.remaining_le
      simp [Option.filter, Nat.not_lt.2 hle]

theorem findBefore?_of_find? {cursor limit : Cursor} {found : Found}
    (h : cursor.find? pattern = some found) (hless : limit.remaining < found.start.remaining) :
    cursor.findBefore? pattern limit = some found := by
  rw [findBefore?, h, Option.filter_some, if_pos (by simpa using hless)]

/-- Only the place of the limit counts. -/
theorem findBefore?_of_remaining {cursor limit limit' : Cursor}
    (h : limit.remaining = limit'.remaining) :
    cursor.findBefore? pattern limit = cursor.findBefore? pattern limit' := by
  rw [findBefore?, findBefore?, h]

end Cursor

/-! ## Patterns that open with a word -/

namespace Pattern

theorem either_first {first second : Pattern} {cursor stop : Cursor}
    (h : first cursor = some stop) : either first second cursor = some stop := by
  simp [either, h]

theorem either_second {first second : Pattern} {cursor : Cursor}
    (h : first cursor = none) : either first second cursor = second cursor := by
  simp [either, h]

/-- Where the pattern matches, a word begins or ends. -/
def OpensAtBoundary (pattern : Pattern) : Prop :=
  ∀ cursor stop, pattern cursor = some stop → cursor.atBoundary = true

theorem opening_eq_some {word : String} {cursor stop : Cursor}
    (h : opening word cursor = some stop) :
    cursor.atBoundary = true ∧
      ∃ read, cursor.Reads read stop ∧ read.map foldedLetter = word.toList.map foldedLetter := by
  unfold opening at h
  split at h
  · next hboundary => exact ⟨hboundary, Cursor.letters?_eq_some h⟩
  · contradiction

theorem wholeWord_eq_some {word : String} {cursor stop : Cursor}
    (h : wholeWord word cursor = some stop) :
    cursor.atBoundary = true ∧
      ∃ read, cursor.Reads read stop ∧ read.map foldedLetter = word.toList.map foldedLetter :=
  opening_eq_some (Option.filter_eq_some_iff.1 h).1

theorem opening_of_reads {word : String} {cursor later : Cursor} {read : List Char}
    (hread : cursor.Reads read later)
    (hletters : read.map foldedLetter = word.toList.map foldedLetter)
    (hstart : cursor.atBoundary = true) : opening word cursor = some later := by
  have hlength : read.length = word.toList.length := by
    simpa using congrArg List.length hletters
  rw [opening, if_pos hstart, Cursor.letters?_of_reads hread hlength, if_pos hletters]

theorem wholeWord_of_reads {word : String} {cursor later : Cursor} {read : List Char}
    (hread : cursor.Reads read later)
    (hletters : read.map foldedLetter = word.toList.map foldedLetter)
    (hstart : cursor.atBoundary = true) (hstop : later.atBoundary = true) :
    wholeWord word cursor = some later := by
  rw [wholeWord, opening_of_reads hread hletters hstart, Option.filter_some, if_pos hstop]

section Written

variable (word : String) {before : List Char} (hletter : word.toList ≠ [])
  (hword : word.toList.all isWordCharacter = true) (hbefore : Halts isWordCharacter before)

include hletter hword hbefore

theorem opening_append (rest : List Char) :
    opening word ⟨before, word.toList ++ rest⟩ =
      some ⟨word.toList.reverse ++ before, rest⟩ := by
  have hread : Cursor.Reads ⟨before, word.toList ++ rest⟩ word.toList
      ⟨word.toList.reverse ++ before, rest⟩ := ⟨rfl, rfl⟩
  exact opening_of_reads hread rfl
    (hread.atBoundary_start hletter (List.all_eq_true.mp hword) hbefore)

theorem wholeWord_append {rest : List Char} (hrest : Halts isWordCharacter rest) :
    wholeWord word ⟨before, word.toList ++ rest⟩ =
      some ⟨word.toList.reverse ++ before, rest⟩ := by
  have hread : Cursor.Reads ⟨before, word.toList ++ rest⟩ word.toList
      ⟨word.toList.reverse ++ before, rest⟩ := ⟨rfl, rfl⟩
  have hall := List.all_eq_true.mp hword
  exact wholeWord_of_reads hread rfl (hread.atBoundary_start hletter hall hbefore)
    (hread.atBoundary_stop hletter hall hrest)

end Written

theorem terminated_opensAtBoundary (word : String) : (terminated word).OpensAtBoundary := by
  intro cursor stop h
  obtain ⟨middle, hopening, -⟩ := Option.bind_eq_some_iff.1 h
  exact (opening_eq_some hopening).1

namespace OpensAtBoundary

variable {pattern : Pattern}

theorem eq_none (h : pattern.OpensAtBoundary) {before rest : List Char}
    (hbefore : Halts isWordCharacter before) (hrest : Halts isWordCharacter rest) :
    pattern ⟨before, rest⟩ = none := by
  have hinside : Cursor.atBoundary ⟨before, rest⟩ = false := by
    rw [Cursor.atBoundary, Cursor.previous, Cursor.peek, hbefore, hrest]
    rfl
  rw [Option.eq_none_iff_forall_ne_some]
  intro stop hmatch
  rw [h _ stop hmatch] at hinside
  contradiction

/-- No word begins in front of a blank. -/
theorem findFrom_blanks (h : pattern.OpensAtBoundary) {before blanks : List Char}
    (hbefore : Halts isWordCharacter before) (hblanks : IsBlank blanks) (rest : List Char) :
    Cursor.findFrom pattern before (blanks ++ rest) =
      Cursor.findFrom pattern (blanks.reverse ++ before) rest := by
  induction blanks generalizing before with
  | nil => rfl
  | cons ch blanks ih =>
      obtain ⟨hch, hlater⟩ := List.forall_mem_cons.mp hblanks
      have hword : Halts isWordCharacter (ch :: (blanks ++ rest)) :=
        (halts_cons _ _ _).mpr (blank_delimits hch).2.1
      have hbehind : Halts isWordCharacter (ch :: before) :=
        (halts_cons _ _ _).mpr (blank_delimits hch).2.1
      rw [List.cons_append, Cursor.findFrom, h.eq_none hbefore hword, List.reverse_cons,
        List.append_assoc]
      exact ih hbehind hlater

theorem find?_skipSpace (h : pattern.OpensAtBoundary) {cursor : Cursor}
    (hbefore : Halts isWordCharacter cursor.before) :
    cursor.skipSpace.find? pattern = cursor.find? pattern := by
  obtain ⟨blanks, hblanks, hrest, hpast⟩ := cursor.skipSpace_reads
  have hsearch := h.findFrom_blanks hbefore hblanks cursor.skipSpace.rest
  rw [← hrest, ← hpast] at hsearch
  exact hsearch.symm

end OpensAtBoundary

end Pattern

end SasOutline
