import SasOutline.Proofs.LeftmostMatch
import SasOutline.Proofs.NameReading
import SasOutline.Proofs.RuleChoice

/-!
# Words in front of a mark

An option is a word in front of an equals sign, and a step ends with a word in front of a
semicolon.  Blanks may stand between the word and its mark, so the blanks at the end of a text
do not stop such a pattern.  A name behind them does: the pattern keeps to the text when what
follows it begins with a name.
-/

namespace SasOutline

theorem delimiter_ends_name {ch : Char} (hch : isDelimiter ch = true) :
    isNameCharacter ch = false ∧ ch ≠ '&' ∧ ch ≠ '.' := by
  have hother {mark : Char} (hmark : isDelimiter mark = false) : ch ≠ mark := by
    rintro rfl
    rw [hch] at hmark
    contradiction
  refine ⟨?_, hother (by decide), hother (by decide)⟩
  by_contra hname
  rw [Bool.not_eq_false] at hname
  have hblank := isWhiteSpace_of_isNameCharacter hname
  have hsemicolon : ch ≠ ';' := by
    rintro rfl
    exact absurd hname (by decide)
  simp [isDelimiter, hblank, hsemicolon] at hch

/-- The first character belongs to a name. -/
def StartsName (text : List Char) : Prop := text.head?.any isNameCharacter = true

theorem StartsName.halts_space {text : List Char} (h : StartsName text) :
    Halts isWhiteSpace text := by
  obtain ⟨ch, hhead, hch⟩ := (Option.any_eq_true _ _).mp h
  rw [Halts, hhead, Option.any_some]
  exact isWhiteSpace_of_isNameCharacter hch

theorem StartsName.head?_ne {text : List Char} (h : StartsName text) {mark : Char}
    (hmark : isNameCharacter mark = false) : text.head? ≠ some mark := by
  intro hhead
  rw [StartsName, hhead, Option.any_some, hmark] at h
  contradiction

namespace Cursor

theorem space?_append {blanks rest : List Char} (hne : blanks ≠ [])
    (hblanks : IsBlank blanks) (hrest : Halts isWhiteSpace rest) (before : List Char) :
    (⟨before, blanks ++ rest⟩ : Cursor).space? = some ⟨blanks.reverse ++ before, rest⟩ :=
  run?_append hne hblanks hrest before

/-- The mark is the first character behind the blanks. -/
def precedesMark (mark : Char) (cursor : Cursor) : Bool := cursor.skipSpace.peek == some mark

theorem peek_skipSpace (cursor : Cursor) :
    cursor.skipSpace.peek = (cursor.rest.dropWhile isWhiteSpace).head? := by
  rw [skipSpace, skipWhile_eq]
  rfl

theorem peek_skipSpace_of_startsName {text : List Char} (h : StartsName text)
    (before : List Char) : (⟨before, text⟩ : Cursor).skipSpace.peek = text.head? := by
  rw [skipSpace_of_halts h.halts_space]
  rfl

/-- The first character behind the blanks of a text stands behind the text when the text has
nothing but blanks. -/
theorem peek_skipSpace_append (before before' text rest : List Char) :
    (⟨before, text ++ rest⟩ : Cursor).skipSpace.peek =
      ((⟨before', text⟩ : Cursor).skipSpace.peek).or (⟨before, rest⟩ : Cursor).skipSpace.peek := by
  rw [peek_skipSpace, peek_skipSpace, peek_skipSpace, List.dropWhile_append]
  cases text.dropWhile isWhiteSpace with
  | nil => rfl
  | cons ch more => rfl

theorem precedesMark_append {mark : Char} (hmark : isNameCharacter mark = false)
    {rest : List Char} (hrest : StartsName rest) (before before' text : List Char) :
    precedesMark mark ⟨before, text ++ rest⟩ = precedesMark mark ⟨before', text⟩ := by
  rw [precedesMark, precedesMark, peek_skipSpace_append before before',
    peek_skipSpace_of_startsName hrest]
  cases (⟨before', text⟩ : Cursor).skipSpace.peek with
  | none =>
      rw [Option.none_or, beq_eq_false_iff_ne.mpr (hrest.head?_ne hmark)]
      rfl
  | some ch => rfl

theorem isSome_char? (cursor : Cursor) (mark : Char) :
    (cursor.char? mark).isSome = (cursor.peek == some mark) := by
  rw [char?]
  split
  · next hpeek => simp [hpeek]
  · next hpeek => simp [hpeek]

end Cursor

namespace Pattern

theorem isSome_terminated (word : String) (cursor : Cursor) :
    (terminated word cursor).isSome = (opening word cursor).any (Cursor.precedesMark ';') := by
  rw [terminated, Option.bind_eq_bind, Option.isSome_bind]
  congr 1
  funext stop
  exact Cursor.isSome_char? _ _

theorem isSome_assigned (word : String) (cursor : Cursor) :
    (assigned word cursor).isSome = (opening word cursor).any (Cursor.precedesMark '=') := by
  have hmark (stop : Cursor) :
      ((stop.skipSpace.char? '=').bind fun equals => some equals.skipSpace).isSome =
        Cursor.precedesMark '=' stop := by
    rw [Cursor.precedesMark, ← Cursor.isSome_char?]
    cases stop.skipSpace.char? '=' with
    | none => rfl
    | some equals => rfl
  rw [assigned, Option.bind_eq_bind, Option.isSome_bind]
  congr 1
  funext stop
  exact hmark stop

/-! ## Words that are written -/

section Written

variable (word : String) {before : List Char} (hletter : word.toList ≠ [])
  (hword : word.toList.all isWordCharacter = true) (hbefore : Halts isWordCharacter before)

include hletter hword hbefore

theorem terminated_append (rest : List Char) :
    terminated word ⟨before, word.toList ++ ';' :: rest⟩ =
      some ⟨';' :: (word.toList.reverse ++ before), rest⟩ := by
  rw [terminated, opening_append word hletter hword hbefore, Option.bind_eq_bind,
    Option.bind_some, Cursor.skipSpace_of_halts (Cursor.halts_space_semicolon rest),
    Cursor.char?_cons_self]

theorem assigned_append {rest : List Char} (hrest : Halts isWhiteSpace rest) :
    assigned word ⟨before, word.toList ++ '=' :: rest⟩ =
      some ⟨'=' :: (word.toList.reverse ++ before), rest⟩ := by
  have hequals : Halts isWhiteSpace ('=' :: rest) := (halts_cons _ _ _).mpr (by decide)
  simp only [assigned, opening_append word hletter hword hbefore, Option.bind_eq_bind,
    Option.bind_some, Cursor.skipSpace_of_halts hequals, Cursor.char?_cons_self,
    Cursor.skipSpace_of_halts hrest]
  rfl

end Written

theorem terminated_eq_none {word : String} {cursor : Cursor}
    (h : Cursor.letters? foldedLetter cursor word = none) : terminated word cursor = none := by
  rw [terminated, opening_eq_none h]
  rfl

/-- The words that end a procedure step. -/
def stepEndWords : List String := ["run", "quit"]

theorem stepEnd_append {word : String} (hword : word ∈ stepEndWords) {before : List Char}
    (hbefore : Halts isWordCharacter before) (rest : List Char) :
    stepEnd ⟨before, word.toList ++ ';' :: rest⟩ =
      some ⟨';' :: (word.toList.reverse ++ before), rest⟩ := by
  rcases List.mem_pair.mp hword with rfl | rfl
  · exact either_first (terminated_append "run" (by decide) (by decide) hbefore rest)
  · have hletters : Cursor.letters? foldedLetter ⟨before, ['q'] ++ ("uit".toList ++ ';' :: rest)⟩
        "run" = none :=
      Cursor.letters?_eq_none ['q'] (by decide) (by decide) before _
    have hrun : terminated "run" ⟨before, "quit".toList ++ ';' :: rest⟩ = none :=
      terminated_eq_none hletters
    rw [stepEnd, either_second hrun]
    exact terminated_append "quit" (by decide) (by decide) hbefore rest

/-! ## Words that are searched for -/

section Kept

variable {word : String} (hletter : word.toList ≠ [])
  (hword : (word.toList.map foldedLetter).all isWordCharacter = true)

include hletter hword

theorem terminated_keepsInFrontOf {rest : List Char} (hrest : StartsName rest) :
    (terminated word).KeepsInFrontOf rest :=
  keepsInFrontOf_of_opening hletter hword (isSome_terminated word)
    fun before before' text _ _ _ =>
      Cursor.precedesMark_append (by decide) hrest before before' text

theorem assigned_keepsInFrontOf {rest : List Char} (hrest : StartsName rest) :
    (assigned word).KeepsInFrontOf rest :=
  keepsInFrontOf_of_opening hletter hword (isSome_assigned word)
    fun before before' text _ _ _ =>
      Cursor.precedesMark_append (by decide) hrest before before' text

theorem terminated_delimiter {ch : Char} (hch : isDelimiter ch = true) (before rest : List Char) :
    terminated word ⟨before, ch :: rest⟩ = none := by
  rw [terminated, opening_delimiter hletter hword hch]
  rfl

theorem assigned_delimiter {ch : Char} (hch : isDelimiter ch = true) (before rest : List Char) :
    assigned word ⟨before, ch :: rest⟩ = none := by
  rw [assigned, opening_delimiter hletter hword hch]
  rfl

/-- A search for an option passes over a text between delimiters when it finds nothing in the
text alone, also where a word stands in front of the text. -/
theorem findFrom_assigned_append {text rest : List Char}
    (hstart : text.head?.any isDelimiter = true) (htext : EndsDelimited text)
    (hnone : Cursor.findFrom (assigned word) [] text = none) (hrest : StartsName rest)
    (before : List Char) :
    Cursor.findFrom (assigned word) before (text ++ rest) =
      Cursor.findFrom (assigned word) (text.reverse ++ before) rest := by
  cases text with
  | nil => rfl
  | cons ch text =>
      have hch : isDelimiter ch = true := hstart
      have hlater : Cursor.findFrom (assigned word) ([ch].reverse ++ []) text = none :=
        findFrom_append_eq_none hnone
      have hkind : (ch :: before).head?.any isWordCharacter =
          ([ch].reverse ++ []).head?.any isWordCharacter := rfl
      rw [List.cons_append, Cursor.findFrom, assigned_delimiter hletter hword hch,
        List.reverse_cons, List.append_assoc]
      exact (assigned_keepsInFrontOf hletter hword hrest).findFrom_append htext.tail hkind hlater

end Kept

theorem stepEnd_keepsInFrontOf {rest : List Char} (hrest : StartsName rest) :
    stepEnd.KeepsInFrontOf rest :=
  (terminated_keepsInFrontOf (by decide) (by decide) hrest).either
    (terminated_keepsInFrontOf (by decide) (by decide) hrest)

theorem dataOption_keepsInFrontOf {rest : List Char} (hrest : StartsName rest) :
    dataOption.KeepsInFrontOf rest :=
  assigned_keepsInFrontOf (by decide) (by decide) hrest

/-- A search for an option passes over characters that do not begin its word. -/
theorem findFrom_assigned_read {word : String} {letter : Char}
    (hletter : word.toList.head? = some letter) {read : List Char}
    (hread : read.all (fun ch => foldedLetter ch != foldedLetter letter) = true)
    (before rest : List Char) :
    Cursor.findFrom (assigned word) before (read ++ rest) =
      Cursor.findFrom (assigned word) (read.reverse ++ before) rest := by
  induction read generalizing before with
  | nil => rfl
  | cons ch read ih =>
      obtain ⟨hch, hlater⟩ := Bool.and_eq_true_iff.mp hread
      have hother : assigned word ⟨before, ch :: (read ++ rest)⟩ = none := by
        rw [assigned, opening_eq_none
          (Cursor.letters?_other foldedLetter hletter (bne_iff_ne.mp hch))]
        rfl
      rw [List.cons_append, Cursor.findFrom, hother, List.reverse_cons, List.append_assoc]
      exact ih hlater (ch :: before)

/-- There is no option without an equals sign. -/
theorem find?_assigned_eq_none (word : String) {cursor : Cursor} (h : '=' ∉ cursor.rest) :
    cursor.find? (assigned word) = none := by
  rw [Option.eq_none_iff_forall_ne_some]
  intro found hfound
  obtain ⟨hreaches, hmatch⟩ := Cursor.find?_some hfound
  have hmarked : (opening word found.start).any (Cursor.precedesMark '=') = true := by
    rw [← isSome_assigned, hmatch]
    rfl
  obtain ⟨-, -, hequals⟩ := (any_opening _ _ _).mp hmarked
  rw [Cursor.precedesMark, Cursor.peek_skipSpace, beq_iff_eq] at hequals
  have hbehind : '=' ∈ found.start.rest.drop word.toList.length :=
    (List.dropWhile_sublist _).subset (List.mem_of_mem_head? hequals)
  obtain ⟨read, hrest, -⟩ := hreaches
  rw [hrest, List.mem_append, not_or] at h
  exact h.2 (List.mem_of_mem_drop hbehind)

end Pattern

end SasOutline
