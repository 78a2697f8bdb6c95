import SasOutline.Proofs.BareSettings
import SasOutline.Proofs.DataStepDivision
import SasOutline.Proofs.QuotedPaths

/-!
# The forms of an option

An option is a flag, or it has a setting in parentheses, in quotation marks or bare.  A bare
setting may hold blanks and ends where the next option begins, which is searched for up to the
first closing parenthesis or semicolon.  That mark may stand inside of a later setting, but never
in front of the equals sign of the next option.

A list of options is read back as it was written, unless a flag stands directly behind a bare
setting and so becomes a part of it.
-/

namespace SasOutline

/-! ## Options as they are written -/

/-- A name that is a word for the search of the next option too. -/
structure OptionName extends Word where
  unhyphenated : '-' ∉ text.toList

structure ParenthesisedText where
  text : String
  unclosed : text.toList.all (fun ch => ch != ')' && ch != ';') = true

def isBareCharacter (ch : Char) : Bool := !"();'\"=".toList.contains ch

/-- A setting that nothing encloses.  It may hold blanks but neither begins nor ends in one. -/
structure BareText where
  text : String
  filled : text.toList ≠ []
  plain : text.toList.all isBareCharacter = true
  front : Halts isWhiteSpace text.toList
  back : Halts isWhiteSpace text.toList.reverse

inductive OptionSetting where
  | flag
  | parenthesised (setting : ParenthesisedText)
  | quoted (setting : EnclosedPath) (unmarked : setting.IsUnmarked)
  | bare (setting : BareText)

structure WrittenOption where
  name : OptionName
  setting : OptionSetting

namespace OptionSetting

/-- What is written behind the name of the option. -/
def text : OptionSetting → List Char
  | flag => []
  | parenthesised setting => '=' :: '(' :: (setting.text.toList ++ [')'])
  | quoted setting _ => '=' :: setting.text
  | bare setting => '=' :: setting.text.toList

/-- A setting keeps its parentheses and loses its quotation marks. -/
def value : OptionSetting → Option String
  | flag => none
  | parenthesised setting => some (String.ofList ('(' :: (setting.text.toList ++ [')'])))
  | quoted setting _ => some setting.path
  | bare setting => some setting.text

def isFlag : OptionSetting → Bool
  | flag => true
  | _ => false

def isBare : OptionSetting → Bool
  | bare _ => true
  | _ => false

theorem text_of_isFlag_eq_false {setting : OptionSetting} (h : setting.isFlag = false) :
    ∃ more, setting.text = '=' :: more := by
  cases setting with
  | flag => contradiction
  | parenthesised setting => exact ⟨_, rfl⟩
  | quoted setting unmarked => exact ⟨_, rfl⟩
  | bare setting => exact ⟨_, rfl⟩

end OptionSetting

namespace WrittenOption

def text (option : WrittenOption) : List Char := option.name.text.toList ++ option.setting.text

def option (option : WrittenOption) : DatasetOption :=
  ⟨.ofLiteral option.name.text, option.setting.value⟩

/-- No flag stands directly behind a bare setting. -/
def MayPrecede (first second : WrittenOption) : Prop :=
  first.setting.isBare = true → second.setting.isFlag = false

instance (first second : WrittenOption) : Decidable (first.MayPrecede second) :=
  inferInstanceAs (Decidable (first.setting.isBare = true → second.setting.isFlag = false))

/-- What stands behind an option in a list. -/
inductive EndsAt (option : WrittenOption) : List Char → Prop
  | closing (rest : List Char) : EndsAt option (')' :: rest)
  | next {second : WrittenOption} (hnext : option.MayPrecede second) (rest : List Char) :
      EndsAt option (' ' :: (second.text ++ rest))

end WrittenOption

/-- Options in parentheses, joined by single blanks. -/
def optionsText (options : List WrittenOption) : List Char :=
  '(' :: ([' '].intercalate (options.map WrittenOption.text) ++ [')'])

/-! ## The search for the next option -/

namespace OptionName

theorem isWordCharacter_of_mem (name : OptionName) :
    ∀ ch ∈ name.text.toList, isWordCharacter ch = true := by
  have hascii {ch : Char} (hch : ch.toNat < 128) :
      isNameCharacter ch = true → ch ≠ '-' → isWordCharacter ch = true :=
    forall_ascii (P := fun ch => isNameCharacter ch = true → ch ≠ '-' → isWordCharacter ch = true)
      (by decide +kernel) hch
  intro ch hch
  have hname := name.plain.2 ch hch
  exact hascii (toNat_lt_of_isNameCharacter hname) hname
    (ne_of_mem_of_not_mem hch name.unhyphenated)

end OptionName

theorem OpensOption.of_name (name : OptionName) (more : List Char) :
    OpensOption (' ' :: (name.text.toList ++ '=' :: more)) :=
  ⟨[' '], name.text.toList, [], more, by simp, List.forall_mem_singleton.mpr (by decide),
    name.plain.1, name.isWordCharacter_of_mem, List.forall_mem_nil _, rfl⟩

/-- What stands in front of the last word of a text, when the text ends in a word. -/
theorem front_eq_of_lastWord {front name blanks word more : List Char}
    (hname : name ≠ []) (hnameWord : ∀ ch ∈ name, isWordCharacter ch = true)
    (hblanks : IsBlank blanks) (hword : word ≠ [])
    (hwordWord : ∀ ch ∈ word, isWordCharacter ch = true) (hmore : IsBlank more)
    (h : front ++ ' ' :: name = blanks ++ (word ++ more)) : front ++ [' '] = blanks := by
  have hspace {text : List Char} (hne : text ≠ [])
      (htext : ∀ ch ∈ text, isWordCharacter ch = true) (rest : List Char) :
      Halts isWhiteSpace (text.reverse ++ rest) :=
    halts_append (mt List.reverse_eq_nil_iff.mp hne)
      (fun ch hch => isWhiteSpace_of_isWordCharacter (htext ch (List.mem_reverse.mp hch))) rest
  have hreverse : [] ++ (name.reverse ++ ' ' :: front.reverse) =
      more.reverse ++ (word.reverse ++ blanks.reverse) := by
    simpa using congrArg List.reverse h
  obtain ⟨-, hwords⟩ := Cursor.append_inj_of_halts (List.forall_mem_nil _)
    (hspace hname hnameWord _) (fun ch hch => hmore ch (List.mem_reverse.mp hch))
    (hspace hword hwordWord _) hreverse
  have hfront : Halts isWordCharacter (' ' :: front.reverse) :=
    (halts_cons _ _ _).mpr (blank_delimits (by decide)).2.1
  have hbehind : Halts isWordCharacter blanks.reverse := by
    simpa using (endsWord_nil.blanks hblanks).word
  obtain ⟨-, hfronts⟩ := Cursor.append_inj_of_halts
    (fun ch hch => hnameWord ch (List.mem_reverse.mp hch)) hfront
    (fun ch hch => hwordWord ch (List.mem_reverse.mp hch)) hbehind hwords
  simpa using congrArg List.reverse hfronts

/-- No text but blanks stands in front of the next option where a match begins. -/
theorem OpensOption.isBlank {name : OptionName} {front more : List Char} (hfront : '=' ∉ front)
    (h : OpensOption (front ++ ' ' :: (name.text.toList ++ '=' :: more))) : IsBlank front := by
  obtain ⟨blanks, word, behind, rest, -, hblanks, hne, hword, hbehind, hrest⟩ := h
  have hdivided : (front ++ ' ' :: name.text.toList) ++ '=' :: more =
      (blanks ++ (word ++ behind)) ++ '=' :: rest := by
    simpa using hrest
  have hwritten : '=' ∉ front ++ ' ' :: name.text.toList := by
    have hname : '=' ∉ name.text.toList := notMem_of_forall name.plain.2 (by decide)
    simp [hfront, hname]
  have hmatched : '=' ∉ blanks ++ (word ++ behind) := by
    simp only [List.mem_append, not_or]
    exact ⟨notMem_of_forall hblanks (by decide), notMem_of_forall hword (by decide),
      notMem_of_forall hbehind (by decide)⟩
  have hsame := (Cursor.append_mark_inj hwritten hmatched hdivided).1
  have hblank := front_eq_of_lastWord name.plain.1 name.isWordCharacter_of_mem hblanks hne hword
    hbehind hsame
  intro ch hch
  exact hblanks ch (hblank ▸ List.mem_append_left _ hch)

namespace BareText

variable (setting : BareText)

theorem not_mem {mark : Char} (hmark : isBareCharacter mark = false) :
    mark ∉ setting.text.toList :=
  notMem_of_forall (List.all_eq_true.mp setting.plain) hmark

/-- The setting is read whole when no option opens inside of it. -/
theorem bareSettingEnd?_text {following : List Char} (hended : EndsSetting following)
    (hunopened : ∀ front back, setting.text.toList = front ++ back → back ≠ [] →
      ¬OpensOption (back ++ following)) (before : List Char) :
    (⟨before, setting.text.toList ++ following⟩ : Cursor).bareSettingEnd? =
      some ⟨setting.text.toList.reverse ++ before, following⟩ := by
  refine Cursor.bareSettingEnd?_eq_some_iff.mpr
    ⟨setting.text.toList, ⟨rfl, rfl⟩, fun front back htext hne hends => ?_, hended⟩
  have hunmarked {mark : Char} (hmark : isBareCharacter mark = false) :
      (back ++ following).head? ≠ some mark := by
    have hback : mark ∉ front ++ back := htext ▸ setting.not_mem hmark
    exact head?_append_ne hne (fun hmem => hback (List.mem_append_right front hmem)) following
  exact hunopened front back htext hne
    (hends.opensOption (hunmarked (by decide)) (hunmarked (by decide)))

/-- Without an equals sign there is no next option. -/
theorem bareSettingEnd?_closing (before rest : List Char) :
    (⟨before, setting.text.toList ++ ')' :: rest⟩ : Cursor).bareSettingEnd? =
      some ⟨setting.text.toList.reverse ++ before, ')' :: rest⟩ := by
  refine setting.bareSettingEnd?_text (.inl rfl) (fun front back htext _ hopens => ?_) before
  have hclosing : Halts (fun ch => ch != ')' && ch != ';') (')' :: rest) :=
    (halts_cons _ _ _).mpr (by decide)
  have hequals := ((OpensOption.append_iff hclosing).mp hopens).equals_mem
  exact setting.not_mem (by decide) (htext ▸ List.mem_append_right front hequals)

/-- A match inside of the setting would mean that the setting ends in a blank. -/
theorem bareSettingEnd?_next (name : OptionName) (before more : List Char) :
    (⟨before, setting.text.toList ++ ' ' :: (name.text.toList ++ '=' :: more)⟩ :
        Cursor).bareSettingEnd? =
      some ⟨setting.text.toList.reverse ++ before, ' ' :: (name.text.toList ++ '=' :: more)⟩ := by
  refine setting.bareSettingEnd?_text (.inr (.inr (.of_name name more)))
    (fun front back htext hne hopens => ?_) before
  have hequals : '=' ∉ back := by
    have hsetting : '=' ∉ front ++ back := htext ▸ setting.not_mem (by decide)
    exact fun hmem => hsetting (List.mem_append_right front hmem)
  have hblank := hopens.isBlank hequals
  have hback := setting.back
  rw [htext, List.reverse_append, Halts,
    List.head?_append_of_ne_nil _ (mt List.reverse_eq_nil_iff.mp hne), List.head?_reverse,
    List.getLast?_eq_some_getLast hne] at hback
  exact absurd (hblank _ (List.getLast_mem hne)) (Bool.eq_false_iff.mp hback)

theorem halts_space (rest : List Char) : Halts isWhiteSpace (setting.text.toList ++ rest) := by
  rw [Halts, List.head?_append_of_ne_nil _ setting.filled]
  exact setting.front

theorem head_ne {mark : Char} (hmark : isBareCharacter mark = false) (rest : List Char) :
    (setting.text.toList ++ rest).head? ≠ some mark :=
  head?_append_ne setting.filled (setting.not_mem hmark) rest

theorem quotedPath?_eq_none (before rest : List Char) :
    (⟨before, setting.text.toList ++ rest⟩ : Cursor).quotedPath? = none := by
  have hmark : (⟨before, setting.text.toList ++ rest⟩ : Cursor).quotationMark? = none := by
    cases hread : (⟨before, setting.text.toList ++ rest⟩ : Cursor).quotationMark? with
    | none => rfl
    | some stop =>
        obtain ⟨mark, hmark, hrest, -⟩ := Cursor.quotationMark?_eq_some hread
        have hbare : isBareCharacter mark = false := by
          simp only [isQuotationMark, Bool.or_eq_true, beq_iff_eq] at hmark
          rcases hmark with rfl | rfl <;> decide
        exact absurd (congrArg List.head? hrest) (setting.head_ne hbare rest)
  simp [Cursor.quotedPath?, hmark]

end BareText

/-! ## Reading one option -/

namespace OptionName

variable (name : OptionName)

theorem optionName?_append {rest : List Char} (hrest : Halts isWhiteSpace rest)
    (before : List Char) :
    (⟨before, name.text.toList ++ '=' :: rest⟩ : Cursor).optionName? =
      some (.ofLiteral name.text, ⟨'=' :: (name.text.toList.reverse ++ before), rest⟩) := by
  have hequals : Halts isWhiteSpace ('=' :: rest) := (halts_cons _ _ _).mpr (by decide)
  simp only [Cursor.optionName?, name.read_append '=' (by decide), Option.bind_eq_bind,
    Option.bind_some, Cursor.skipSpace_of_halts hequals, Cursor.char?_cons_self,
    Cursor.skipSpace_of_halts hrest]
  rfl

end OptionName

namespace WrittenOption

theorem halts_space (option : WrittenOption) (rest : List Char) :
    Halts isWhiteSpace (option.text ++ rest) := by
  rw [text, List.append_assoc]
  exact Cursor.halts_space_of_plain option.name.plain _

namespace EndsAt

variable {option : WrittenOption} {following : List Char} (h : option.EndsAt following)
include h

theorem read_name (name : Word) (before : List Char) :
    (⟨before, name.text.toList ++ following⟩ : Cursor).dynamicName? =
      some (.ofLiteral name.text, ⟨name.text.toList.reverse ++ before, following⟩) := by
  cases h with
  | closing rest => exact name.read_append ')' (by decide) before rest
  | next hnext rest => exact name.read_append ' ' (by decide) before _

/-- No setting follows. -/
theorem unset (before : List Char) :
    (⟨before, following⟩ : Cursor).skipSpace.char? '=' = none := by
  cases h with
  | closing rest =>
      have hbracket : Halts isWhiteSpace (')' :: rest) := (halts_cons _ _ _).mpr (by decide)
      rw [Cursor.skipSpace_of_halts hbracket]
      exact Cursor.char?_eq_none (by simp) before
  | @next second hnext rest =>
      rw [Cursor.skipSpace_blank (second.halts_space rest), text, List.append_assoc]
      exact Cursor.char?_eq_none (second.name.head_ne (by decide) _) _

end EndsAt

/-! One lemma for each form of an option, in the order in which the forms are tried. -/

section Forms

variable (name : OptionName) (before following : List Char)

theorem parenthesisedOption?_eq_none {rest : List Char} (hspace : Halts isWhiteSpace rest)
    (hrest : rest.head? ≠ some '(') :
    (⟨before, name.text.toList ++ '=' :: rest⟩ : Cursor).parenthesisedOption? = none := by
  simp [Cursor.parenthesisedOption?, name.optionName?_append hspace, Cursor.char?_eq_none hrest]

theorem datasetOption?_parenthesised (setting : ParenthesisedText) :
    (⟨before, text ⟨name, .parenthesised setting⟩ ++ following⟩ : Cursor).datasetOption? =
      some (option ⟨name, .parenthesised setting⟩,
        ⟨(text ⟨name, .parenthesised setting⟩).reverse ++ before, following⟩) := by
  have hspace : Halts isWhiteSpace ('(' :: (setting.text.toList ++ ')' :: following)) :=
    (halts_cons _ _ _).mpr (by decide)
  have hclosing : Halts (fun ch => ch != ')' && ch != ';') (')' :: following) :=
    (halts_cons _ _ _).mpr (by decide)
  have hinner := Cursor.skipWhile_append (List.all_eq_true.mp setting.unclosed) hclosing
  have hsetting (before before' : List Char) := Cursor.stringUntil_append before before'
    ('(' :: (setting.text.toList ++ [')'])) following
  simp only [List.cons_append, List.append_assoc, List.nil_append] at hsetting
  have hwritten : text ⟨name, .parenthesised setting⟩ ++ following =
      name.text.toList ++ '=' :: '(' :: (setting.text.toList ++ ')' :: following) := by
    simp [text, OptionSetting.text]
  rw [hwritten]
  simp only [Cursor.datasetOption?, Cursor.parenthesisedOption?, name.optionName?_append hspace,
    Option.bind_eq_bind, Option.bind_some, Cursor.char?_cons_self, hinner, hsetting]
  simp [text, option, OptionSetting.text, OptionSetting.value]

theorem datasetOption?_quoted (setting : EnclosedPath) (hunmarked : setting.IsUnmarked) :
    (⟨before, text ⟨name, .quoted setting hunmarked⟩ ++ following⟩ : Cursor).datasetOption? =
      some (option ⟨name, .quoted setting hunmarked⟩,
        ⟨(text ⟨name, .quoted setting hunmarked⟩).reverse ++ before, following⟩) := by
  have hspace := setting.halts_space_text following
  have hbracket : (setting.text ++ following).head? ≠ some '(' := by
    have hmark : setting.mark ≠ '(' := by
      intro hmark
      exact absurd (hmark ▸ setting.isQuotationMark_mark) (by decide)
    simpa [EnclosedPath.text] using hmark
  have hwritten : text ⟨name, .quoted setting hunmarked⟩ ++ following =
      name.text.toList ++ '=' :: (setting.text ++ following) := by
    simp [text, OptionSetting.text]
  rw [hwritten]
  simp only [Cursor.datasetOption?, parenthesisedOption?_eq_none name before hspace hbracket,
    Cursor.quotedOption?, name.optionName?_append hspace, Option.bind_eq_bind, Option.bind_some,
    setting.quotedPath?_text _ _ hunmarked]
  simp [text, option, OptionSetting.text, OptionSetting.value]

theorem datasetOption?_bare (setting : BareText) {following : List Char}
    (h : EndsAt ⟨name, .bare setting⟩ following) :
    (⟨before, text ⟨name, .bare setting⟩ ++ following⟩ : Cursor).datasetOption? =
      some (option ⟨name, .bare setting⟩,
        ⟨(text ⟨name, .bare setting⟩).reverse ++ before, following⟩) := by
  have hspace := setting.halts_space following
  have hbracket := setting.head_ne (by decide : isBareCharacter '(' = false) following
  have hwritten : text ⟨name, .bare setting⟩ ++ following =
      name.text.toList ++ '=' :: (setting.text.toList ++ following) := by
    simp [text, OptionSetting.text]
  have hend (before : List Char) :
      (⟨before, setting.text.toList ++ following⟩ : Cursor).bareSettingEnd? =
        some ⟨setting.text.toList.reverse ++ before, following⟩ := by
    cases h with
    | closing rest => exact setting.bareSettingEnd?_closing before rest
    | @next second hnext rest =>
        obtain ⟨more, hmore⟩ := OptionSetting.text_of_isFlag_eq_false (hnext rfl)
        have hsecond : second.text ++ rest = second.name.text.toList ++ '=' :: (more ++ rest) := by
          simp [text, hmore]
        rw [hsecond]
        exact setting.bareSettingEnd?_next second.name before (more ++ rest)
  have hsetting (before before' : List Char) := Cursor.stringUntil_append before before'
    setting.text.toList following
  rw [String.ofList_toList] at hsetting
  rw [hwritten]
  simp only [Cursor.datasetOption?, parenthesisedOption?_eq_none name before hspace hbracket,
    Cursor.quotedOption?, Cursor.bareOption?, name.optionName?_append hspace, Option.bind_eq_bind,
    Option.bind_some, setting.quotedPath?_eq_none, hend, hsetting]
  simp [text, option, OptionSetting.text, OptionSetting.value]

theorem datasetOption?_flag {following : List Char} (h : EndsAt ⟨name, .flag⟩ following) :
    (⟨before, text ⟨name, .flag⟩ ++ following⟩ : Cursor).datasetOption? =
      some (option ⟨name, .flag⟩, ⟨(text ⟨name, .flag⟩).reverse ++ before, following⟩) := by
  have hwritten : text ⟨name, .flag⟩ = name.text.toList := List.append_nil _
  have hname : (⟨before, name.text.toList ++ following⟩ : Cursor).optionName? = none := by
    simp [Cursor.optionName?, h.read_name, h.unset]
  rw [hwritten]
  simp only [Cursor.datasetOption?, Cursor.parenthesisedOption?, Cursor.quotedOption?,
    Cursor.bareOption?, Cursor.flagOption?, hname, h.read_name, Option.bind_eq_bind,
    Option.bind_some, Option.bind_none]
  rfl

end Forms

theorem datasetOption?_append (option : WrittenOption) {following : List Char}
    (h : option.EndsAt following) (before : List Char) :
    (⟨before, option.text ++ following⟩ : Cursor).datasetOption? =
      some (option.option, ⟨option.text.reverse ++ before, following⟩) := by
  obtain ⟨name, setting⟩ := option
  cases setting with
  | flag => exact datasetOption?_flag name before h
  | parenthesised setting => exact datasetOption?_parenthesised name before following setting
  | quoted setting hunmarked =>
      exact datasetOption?_quoted name before following setting hunmarked
  | bare setting => exact datasetOption?_bare name before setting h

end WrittenOption

/-! ## Lists of options -/

/-- Further options, each with a blank in front. -/
def furtherOptions (options : List WrittenOption) : List Char :=
  options.flatMap fun option => ' ' :: option.text

theorem optionsText_cons (first : WrittenOption) (others : List WrittenOption) :
    optionsText (first :: others) = '(' :: (first.text ++ (furtherOptions others ++ [')'])) := by
  rw [optionsText, intercalate_map_cons, List.append_assoc]
  rfl

theorem WrittenOption.endsAt_further {option : WrittenOption} {later : List WrittenOption}
    (hchain : (option :: later).IsChain WrittenOption.MayPrecede) (rest : List Char) :
    option.EndsAt (furtherOptions later ++ ')' :: rest) := by
  cases later with
  | nil => exact .closing rest
  | cons second later =>
      have hnext := (List.isChain_cons_cons.mp hchain).1
      have hwritten : furtherOptions (second :: later) ++ ')' :: rest =
          ' ' :: (second.text ++ (furtherOptions later ++ ')' :: rest)) := by
        simp [furtherOptions]
      rw [hwritten]
      exact .next hnext _

theorem separatedTail_options {options : List WrittenOption}
    (hchain : options.IsChain WrittenOption.MayPrecede) (before rest : List Char) :
    separatedTail Cursor.datasetOption? Cursor.space?
        ⟨before, furtherOptions options ++ ')' :: rest⟩ =
      (options.map WrittenOption.option,
        ⟨(furtherOptions options).reverse ++ before, ')' :: rest⟩) := by
  have hbracket : Halts isWhiteSpace (')' :: rest) := (halts_cons _ _ _).mpr (by decide)
  refine separatedTail_append (fun option _ => List.cons_ne_nil ' ' option.text) ?_ ?_ before
  · intro option later hsuffix before
    have hends := WrittenOption.endsAt_further (hchain.suffix hsuffix) rest
    have hspace := Cursor.space?_blank
      (option.halts_space (furtherOptions later ++ ')' :: rest)) before
    rw [List.cons_append, ← furtherOptions, hspace, Option.bind_some,
      option.datasetOption?_append hends]
    simp
  · intro before
    have hend : (⟨before, ')' :: rest⟩ : Cursor).space? = none :=
      Cursor.run?_of_halts hbracket before
    rw [hend, Option.bind_none]

/-- The options are read one by one, each as it was written, and nothing behind the closing
parenthesis is read. -/
theorem Cursor.datasetOptions?_optionsText {options : List WrittenOption}
    (hchain : options.IsChain WrittenOption.MayPrecede) (before suffix : List Char) :
    (⟨before, optionsText options ++ suffix⟩ : Cursor).datasetOptions? =
      some (options.map WrittenOption.option,
        ⟨(optionsText options).reverse ++ before, suffix⟩) := by
  have hbracket : Halts isWhiteSpace (')' :: suffix) := (halts_cons _ _ _).mpr (by decide)
  cases options with
  | nil =>
      have hnone := dynamicName?_eq_none_of_startsNoSegment
        (startsNoSegment_cons (by decide : isNameCharacter ')' = false) (by decide) suffix)
        ('(' :: before)
      have hoption : (⟨'(' :: before, ')' :: suffix⟩ : Cursor).datasetOption? = none := by
        simp [datasetOption?, parenthesisedOption?, quotedOption?, bareOption?, flagOption?,
          optionName?, hnone]
      change (⟨before, '(' :: ')' :: suffix⟩ : Cursor).datasetOptions? = _
      simp only [datasetOptions?, char?_cons_self, Option.bind_eq_bind, Option.bind_some,
        skipSpace_of_halts hbracket, separated, hoption]
      rfl
  | cons first others =>
      have hends := WrittenOption.endsAt_further hchain suffix
      have hfirst := first.datasetOption?_append hends ('(' :: before)
      have hspace := first.halts_space (furtherOptions others ++ ')' :: suffix)
      have hothers : others.IsChain WrittenOption.MayPrecede := hchain.tail
      have hwritten : optionsText (first :: others) ++ suffix =
          '(' :: (first.text ++ (furtherOptions others ++ ')' :: suffix)) := by
        simp [optionsText_cons]
      rw [hwritten]
      simp only [datasetOptions?, char?_cons_self, Option.bind_eq_bind, Option.bind_some,
        skipSpace_of_halts hspace, separated, hfirst, separatedTail_options hothers,
        skipSpace_of_halts hbracket]
      simp [optionsText_cons]

def subsetText : ParenthesisedText := ⟨"a (b = 1", by decide⟩

def keptText : BareText := ⟨"a -  b", by decide, by decide, rfl, rfl⟩

def labelText : EnclosedPath := ⟨'\'', "x) y;", isQuotationMark_apostrophe, by decide, by decide⟩

/-- The parenthesis and the semicolon inside of the label end the search for the next option. -/
def mixedOptions : List WrittenOption :=
  [⟨⟨⟨"nway", by decide⟩, by decide⟩, .flag⟩,
    ⟨⟨⟨"where", by decide⟩, by decide⟩, .parenthesised subsetText⟩,
    ⟨⟨⟨"keep", by decide⟩, by decide⟩, .bare keptText⟩,
    ⟨⟨⟨"label", by decide⟩, by decide⟩,
      .quoted labelText (by simp [EnclosedPath.IsUnmarked, labelText, isQuotationMark])⟩]

theorem Cursor.datasetOptions?_optionsText_mixed :
    mixedOptions.IsChain WrittenOption.MayPrecede ∧
      optionsText mixedOptions = "(nway where=(a (b = 1) keep=a -  b label='x) y;')".toList ∧
      (⟨[], optionsText mixedOptions ++ ";".toList⟩ : Cursor).datasetOptions? =
        some ([⟨.ofLiteral "nway", none⟩, ⟨.ofLiteral "where", some "(a (b = 1)"⟩,
          ⟨.ofLiteral "keep", some "a -  b"⟩, ⟨.ofLiteral "label", some "x) y;"⟩],
          ⟨(optionsText mixedOptions).reverse ++ [], ";".toList⟩) := by
  have hchain : mixedOptions.IsChain WrittenOption.MayPrecede := by decide
  have hread := datasetOptions?_optionsText hchain [] ";".toList
  have hoptions : mixedOptions.map WrittenOption.option =
      [⟨.ofLiteral "nway", none⟩, ⟨.ofLiteral "where", some "(a (b = 1)"⟩,
        ⟨.ofLiteral "keep", some "a -  b"⟩, ⟨.ofLiteral "label", some "x) y;"⟩] := by decide
  rw [hoptions] at hread
  exact ⟨hchain, by decide, hread⟩

end SasOutline
