import SasOutline.DatasetOption
import SasOutline.Proofs.LeftmostMatch

/-!
# Where a bare setting ends

Nothing encloses a bare setting.  It is searched for the option that follows it, up to the first
closing parenthesis or semicolon, and without an option it runs up to that mark.  A match never
reaches over the mark, so the limit of the search makes no difference to what is found in front
of it: the setting is the text in front of the first place where an option opens or one of the
two marks stands.

The name of the option that is searched for is a word.  A hyphen or a macro variable in front of
the equals sign opens no option here.
-/

namespace SasOutline

/-- The text begins with blanks, a word and an equals sign, and there may be further blanks in
front of the sign. -/
def OpensOption (text : List Char) : Prop :=
  ∃ blanks word more rest : List Char, blanks ≠ [] ∧ IsBlank blanks ∧ word ≠ [] ∧
    (∀ ch ∈ word, isWordCharacter ch = true) ∧ IsBlank more ∧
    text = blanks ++ (word ++ (more ++ '=' :: rest))

/-- The text begins with a closing mark or with the next option, and a setting in front of it
goes no further. -/
def EndsSetting (text : List Char) : Prop :=
  text.head? = some ')' ∨ text.head? = some ';' ∨ OpensOption text

/-- The setting stands between the two cursors, and `stop` is the first place that ends it. -/
structure IsBareSetting (start : Cursor) (setting : List Char) (stop : Cursor) : Prop where
  read : start.Reads setting stop
  unended : ∀ front back, setting = front ++ back → back ≠ [] → ¬EndsSetting (back ++ stop.rest)
  ended : EndsSetting stop.rest

/-! ## The option that follows -/

namespace Pattern

theorem nextOption_eq_some {place stop : Cursor} (h : nextOption place = some stop) :
    ∃ blanks word more, blanks ≠ [] ∧ IsBlank blanks ∧ word ≠ [] ∧
      (∀ ch ∈ word, isWordCharacter ch = true) ∧ IsBlank more ∧
      place.rest = blanks ++ (word ++ (more ++ '=' :: stop.rest)) := by
  obtain ⟨start, hstart, h⟩ := Option.bind_eq_some_iff.1 h
  obtain ⟨behind, hbehind, hequals⟩ := Option.bind_eq_some_iff.1 h
  obtain ⟨blanks, hblanks, hblank, -, hfirst, -⟩ := Cursor.run?_eq_some hstart
  obtain ⟨word, hword, hall, -, hsecond, -⟩ := Cursor.run?_eq_some hbehind
  obtain ⟨more, hmore, hthird⟩ := behind.skipSpace_reads
  exact ⟨blanks, word, more, hblanks, hblank, hword, hall, hmore,
    by rw [hfirst, hsecond, hthird.1, (Cursor.char?_eq_some hequals).1]⟩

/-- Blanks, words and the equals sign are of different classes, so each part is read whole. -/
theorem nextOption_append {blanks word more : List Char} (hfilled : blanks ≠ [])
    (hblanks : IsBlank blanks) (hne : word ≠ [])
    (hword : ∀ ch ∈ word, isWordCharacter ch = true) (hmore : IsBlank more)
    (before rest : List Char) :
    (nextOption ⟨before, blanks ++ (word ++ (more ++ '=' :: rest))⟩).isSome = true := by
  have hfirst : Halts isWhiteSpace (word ++ (more ++ '=' :: rest)) :=
    halts_append hne (fun ch hch => isWhiteSpace_of_isWordCharacter (hword ch hch)) _
  have hsecond : Halts isWordCharacter (more ++ '=' :: rest) := by
    cases more with
    | nil => exact (halts_cons _ _ _).mpr (by decide)
    | cons ch more => exact (halts_cons _ _ _).mpr (blank_delimits (hmore ch (by simp))).2.1
  have hthird : Halts isWhiteSpace ('=' :: rest) := (halts_cons _ _ _).mpr (by decide)
  simp only [nextOption, Cursor.space?, Cursor.run?_append hfilled hblanks hfirst,
    Option.bind_eq_bind, Option.bind_some, Cursor.run?_append hne hword hsecond,
    Cursor.skipSpace, Cursor.skipWhile_append hmore hthird, Cursor.char?_cons_self]
  rfl

theorem nextOption_isSome_iff {place : Cursor} :
    (nextOption place).isSome = true ↔ OpensOption place.rest := by
  constructor
  · intro h
    obtain ⟨stop, hstop⟩ := Option.isSome_iff_exists.mp h
    obtain ⟨blanks, word, more, hfilled, hblanks, hne, hword, hmore, hrest⟩ :=
      nextOption_eq_some hstop
    exact ⟨blanks, word, more, stop.rest, hfilled, hblanks, hne, hword, hmore, hrest⟩
  · rintro ⟨blanks, word, more, rest, hfilled, hblanks, hne, hword, hmore, hrest⟩
    obtain ⟨before, written⟩ := place
    obtain rfl : written = _ := hrest
    exact nextOption_append hfilled hblanks hne hword hmore before rest

theorem nextOption_eq_none_iff {place : Cursor} :
    nextOption place = none ↔ ¬OpensOption place.rest := by
  rw [← nextOption_isSome_iff, Option.not_isSome_iff_eq_none]

end Pattern

theorem eq_mark_of_halts {mark : Char} {suffix : List Char}
    (h : Halts (fun ch => ch != ')' && ch != ';') (mark :: suffix)) : mark = ')' ∨ mark = ';' := by
  simpa [bne, ← or_iff_not_imp_left] using h

namespace OpensOption

theorem equals_mem {text : List Char} (h : OpensOption text) : '=' ∈ text := by
  obtain ⟨blanks, word, more, rest, -, -, -, -, -, rfl⟩ := h
  simp

theorem ne_nil {text : List Char} (h : OpensOption text) : text ≠ [] :=
  List.ne_nil_of_mem h.equals_mem

theorem append {text : List Char} (h : OpensOption text) (suffix : List Char) :
    OpensOption (text ++ suffix) := by
  obtain ⟨blanks, word, more, rest, hfilled, hblanks, hne, hword, hmore, rfl⟩ := h
  exact ⟨blanks, word, more, rest ++ suffix, hfilled, hblanks, hne, hword, hmore, by simp⟩

/-- What stands behind a match counts only as far as the match reaches, and no match reaches
over a closing mark. -/
theorem append_iff {text suffix : List Char}
    (hsuffix : Halts (fun ch => ch != ')' && ch != ';') suffix) :
    OpensOption (text ++ suffix) ↔ OpensOption text := by
  refine ⟨fun h => ?_, fun h => h.append suffix⟩
  cases suffix with
  | nil => rwa [List.append_nil] at h
  | cons mark suffix =>
      obtain ⟨blanks, word, more, rest, hfilled, hblanks, hne, hword, hmore, hrest⟩ := h
      -- Blanks, words and the equals sign leave no room for the mark inside of a match.
      have hmark : mark ∉ blanks ++ (word ++ (more ++ ['='])) := by
        have hapart : isWhiteSpace mark = false ∧ isWordCharacter mark = false ∧ mark ≠ '=' := by
          rcases eq_mark_of_halts hsuffix with rfl | rfl <;> decide
        simp only [List.mem_append, List.mem_singleton, not_or]
        exact ⟨notMem_of_forall hblanks hapart.1, notMem_of_forall hword hapart.2.1,
          notMem_of_forall hmore hapart.1, hapart.2.2⟩
      have hdivided : text ++ mark :: suffix = (blanks ++ (word ++ (more ++ ['=']))) ++ rest := by
        simpa using hrest
      obtain ⟨behind, rfl, -⟩ := exists_more_of_notMem hmark hdivided
      exact ⟨blanks, word, more, behind, hfilled, hblanks, hne, hword, hmore, by simp⟩

end OpensOption

theorem EndsSetting.opensOption {text : List Char} (h : EndsSetting text)
    (hbracket : text.head? ≠ some ')') (hsemicolon : text.head? ≠ some ';') : OpensOption text :=
  (h.resolve_left hbracket).resolve_left hsemicolon

/-! ## The end of the setting -/

namespace IsBareSetting

variable {start stop : Cursor} {setting : List Char}

/-- What ends a setting stands behind it. -/
theorem isPrefix_of_endsSetting (h : IsBareSetting start setting stop) {front later : List Char}
    (hdivided : start.rest = front ++ later) (hlater : EndsSetting later) : setting <+: front := by
  obtain ⟨back, rfl, -⟩ | ⟨back, rfl, rfl⟩ :=
    List.append_eq_append_iff.mp (h.read.1.symm.trans hdivided)
  · exact List.prefix_append setting back
  · cases hback : back with
    | nil => simp
    | cons ch back' => exact absurd hlater (h.unended front back rfl (hback ▸ by simp))

theorem unique (h : IsBareSetting start setting stop) {setting' : List Char} {stop' : Cursor}
    (h' : IsBareSetting start setting' stop') : setting = setting' ∧ stop = stop' := by
  have hprefix := h.isPrefix_of_endsSetting h'.read.1 h'.ended
  have hprefix' := h'.isPrefix_of_endsSetting h.read.1 h.ended
  obtain rfl := hprefix.eq_of_length_le hprefix'.length_le
  exact ⟨rfl, h.read.skip_eq.symm.trans h'.read.skip_eq⟩

theorem notMem (h : IsBareSetting start setting stop) {mark : Char}
    (hmark : ∀ rest, EndsSetting (mark :: rest)) : mark ∉ setting := by
  intro hmem
  obtain ⟨front, back, rfl⟩ := List.append_of_mem hmem
  exact h.unended front (mark :: back) rfl (by simp) (hmark _)

/-- A part of the setting that opens an option would open it in front of the rest too. -/
theorem not_opensOption (h : IsBareSetting start setting stop) {part : List Char}
    (hpart : part <:+: setting) : ¬OpensOption part := by
  intro hopens
  obtain ⟨front, back, rfl⟩ := hpart
  have hlater : OpensOption (part ++ back ++ stop.rest) := (hopens.append back).append stop.rest
  exact h.unended front (part ++ back) (by simp) (by simp [hopens.ne_nil]) (.inr (.inr hlater))

/-- The search runs over a part of the text only, up to the first closing mark. -/
theorem of_misses {before tail following : List Char}
    (hinside : ∀ ch ∈ setting ++ tail, (ch != ')' && ch != ';') = true)
    (hfollowing : Halts (fun ch => ch != ')' && ch != ';') following)
    (hmisses : Pattern.nextOption.Misses ⟨before, setting ++ tail⟩
      ⟨setting.reverse ++ before, tail⟩)
    (hended : EndsSetting (tail ++ following)) :
    IsBareSetting ⟨before, setting ++ (tail ++ following)⟩ setting
      ⟨setting.reverse ++ before, tail ++ following⟩ := by
  refine ⟨⟨rfl, rfl⟩, ?_, hended⟩
  rintro front back rfl hne hends
  have hunmarked {mark : Char} (hmark : (mark != ')' && mark != ';') = false) :
      (back ++ (tail ++ following)).head? ≠ some mark :=
    head?_append_ne hne (notMem_of_forall (fun ch hch => hinside ch (by simp [hch])) hmark) _
  have hopens := hends.opensOption (hunmarked (by decide)) (hunmarked (by decide))
  rw [← List.append_assoc, OpensOption.append_iff hfollowing] at hopens
  have hmiss : Pattern.nextOption ⟨front.reverse ++ before, back ++ tail⟩ = none := by
    refine hmisses _ ⟨front, by simp, rfl⟩ ?_
    have hlength := List.length_pos_iff.mpr hne
    simp only [Cursor.remaining, List.length_append]
    omega
  exact Pattern.nextOption_eq_none_iff.mp hmiss hopens

end IsBareSetting

namespace Cursor

theorem bareSettingEnd?_append {segment following : List Char}
    (hinside : ∀ ch ∈ segment, (ch != ')' && ch != ';') = true)
    (hfollowing : Halts (fun ch => ch != ')' && ch != ';') following) (before : List Char) :
    (⟨before, segment ++ following⟩ : Cursor).bareSettingEnd? =
      match (⟨before, segment⟩ : Cursor).find? Pattern.nextOption with
      | some next => some ((⟨before, segment ++ following⟩ : Cursor).skip
          (segment.length - next.start.remaining))
      | none => if following = [] then none else some ⟨segment.reverse ++ before, following⟩ := by
  have hatEnd : (⟨segment.reverse ++ before, following⟩ : Cursor).atEnd =
      decide (following = []) := by
    cases following <;> rfl
  simp only [bareSettingEnd?, skipWhile_append hinside hfollowing, textUntil_append, hatEnd,
    decide_eq_true_eq]
  rfl

/-- The closing mark and the next option are the two ways in which the search ends. -/
theorem isBareSetting_of_bareSettingEnd? {start stop : Cursor}
    (h : start.bareSettingEnd? = some stop) : ∃ setting, IsBareSetting start setting stop := by
  obtain ⟨before, rest⟩ := start
  obtain ⟨segment, following, rfl, hinside, hfollowing⟩ :=
    exists_run (fun ch => ch != ')' && ch != ';') rest
  rw [bareSettingEnd?_append hinside hfollowing] at h
  cases hfound : (⟨before, segment⟩ : Cursor).find? Pattern.nextOption with
  | none =>
      -- No option opens in the segment, so the setting is all of it.
      simp only [hfound] at h
      cases following with
      | nil => contradiction
      | cons mark following =>
          obtain rfl := Option.some.inj h
          have hended : EndsSetting (mark :: following) := by
            rcases eq_mark_of_halts hfollowing with rfl | rfl <;> simp [EndsSetting]
          rw [← List.append_nil segment] at hinside hfound
          exact ⟨segment, IsBareSetting.of_misses hinside hfollowing
            (fun place hplace _ => find?_eq_none hfound hplace) hended⟩
  | some next =>
      have hmisses := find?_misses hfound
      obtain ⟨⟨setting, hread⟩, hmatch⟩ := find?_some hfound
      obtain ⟨⟨behind, tail⟩, nextStop⟩ := next
      obtain rfl : segment = setting ++ tail := hread.1
      obtain rfl : behind = setting.reverse ++ before := hread.2
      have hopens : OpensOption (tail ++ following) :=
        (OpensOption.append_iff hfollowing).mpr
          (Pattern.nextOption_isSome_iff.mp (Option.isSome_of_mem hmatch))
      have hlength : (setting ++ tail).length - remaining ⟨setting.reverse ++ before, tail⟩ =
          setting.length := by
        simp [remaining]
      simp only [hfound, hlength, List.append_assoc, skip_append] at h ⊢
      obtain rfl := Option.some.inj h
      exact ⟨setting, .of_misses hinside hfollowing hmisses (.inr (.inr hopens))⟩

/-- Where something ends the setting, the search ends too. -/
theorem bareSettingEnd?_isSome {start stop : Cursor} {setting : List Char}
    (h : IsBareSetting start setting stop) : start.bareSettingEnd?.isSome = true := by
  obtain ⟨before, rest⟩ := start
  obtain ⟨segment, following, rfl, hinside, hfollowing⟩ :=
    exists_run (fun ch => ch != ')' && ch != ';') rest
  rw [bareSettingEnd?_append hinside hfollowing]
  cases hfound : (⟨before, segment⟩ : Cursor).find? Pattern.nextOption with
  | some next => rfl
  | none =>
      -- Were there no mark either, nothing could end a setting.
      have hmarked : following ≠ [] := by
        rintro rfl
        rw [← List.append_nil segment] at hfound
        have hmark {mark : Char} (hmark : (mark != ')' && mark != ';') = false) :
            stop.rest.head? ≠ some mark := by
          intro hhead
          have hwritten : segment ++ [] = setting ++ stop.rest := h.read.1
          have hmem : mark ∈ segment ++ [] :=
            hwritten ▸ List.mem_append_right setting (List.mem_of_mem_head? hhead)
          exact notMem_of_forall hinside hmark (by simpa using hmem)
        exact Pattern.nextOption_eq_none_iff.mp (find?_eq_none hfound h.read.reaches)
          (h.ended.opensOption (hmark (by decide)) (hmark (by decide)))
      simp [hmarked]

theorem bareSettingEnd?_eq_some_iff {start stop : Cursor} :
    start.bareSettingEnd? = some stop ↔ ∃ setting, IsBareSetting start setting stop := by
  constructor
  · exact isBareSetting_of_bareSettingEnd?
  · rintro ⟨setting, h⟩
    obtain ⟨found, hfound⟩ := Option.isSome_iff_exists.mp (bareSettingEnd?_isSome h)
    obtain ⟨setting', h'⟩ := isBareSetting_of_bareSettingEnd? hfound
    rw [hfound, (h.unique h').2]

theorem bareOption?_eq_some_iff {cursor stop : Cursor} {option : DatasetOption} :
    cursor.bareOption? = some (option, stop) ↔
      ∃ start setting, cursor.optionName? = some (option.name, start) ∧
        option.setting = some (String.ofList setting) ∧ IsBareSetting start setting stop := by
  constructor
  · intro h
    obtain ⟨⟨name, start⟩, hname, h⟩ := Option.bind_eq_some_iff.1 h
    obtain ⟨later, hlater, h⟩ := Option.bind_eq_some_iff.1 h
    obtain ⟨rfl, rfl⟩ := Prod.mk.inj (Option.some.inj h)
    obtain ⟨setting, hsetting⟩ := bareSettingEnd?_eq_some_iff.mp hlater
    exact ⟨start, setting, hname,
      congrArg (fun text => some (String.ofList text)) hsetting.read.textUntil_eq, hsetting⟩
  · rintro ⟨start, setting, hname, hset, hsetting⟩
    obtain ⟨name, value⟩ := option
    obtain rfl : value = _ := hset
    have hend := bareSettingEnd?_eq_some_iff.mpr ⟨setting, hsetting⟩
    simp only [bareOption?, hname, hend, Option.bind_eq_bind, Option.bind_some, stringUntil,
      hsetting.read.textUntil_eq]
    rfl

/-- A bare option takes in nothing of the option that follows it and does not leave its list or
its statement. -/
theorem bareOption?_stops {cursor stop : Cursor} {option : DatasetOption}
    (h : cursor.bareOption? = some (option, stop)) :
    ∃ start setting, cursor.optionName? = some (option.name, start) ∧
      option.setting = some (String.ofList setting) ∧ start.Reads setting stop ∧
      ')' ∉ setting ∧ ';' ∉ setting ∧ (∀ part, part <:+: setting → ¬OpensOption part) ∧
      (stop.peek = some ')' ∨ stop.peek = some ';' ∨ OpensOption stop.rest) ∧
      ∀ front later, start.rest = front ++ later → EndsSetting later → setting <+: front := by
  obtain ⟨start, setting, hname, hset, hsetting⟩ := bareOption?_eq_some_iff.mp h
  exact ⟨start, setting, hname, hset, hsetting.read,
    hsetting.notMem fun rest => .inl rfl, hsetting.notMem fun rest => .inr (.inl rfl),
    fun part hpart => hsetting.not_opensOption hpart, hsetting.ended,
    fun front later hdivided hlater => hsetting.isPrefix_of_endsSetting hdivided hlater⟩

/-- The blanks around the second name are a line break, an em space and a blank. -/
def renamedText : String := "keep=ä b\n\u2003rename =c);"

theorem bareOption?_stops_of_rename :
    ∃ stop, (ofText renamedText).bareOption? = some (⟨.ofLiteral "keep", some "ä b"⟩, stop) ∧
      stop.rest = "\n\u2003rename =c);".toList ∧
      ∃ start setting, (ofText renamedText).optionName? = some (.ofLiteral "keep", start) ∧
        some "ä b" = some (String.ofList setting) ∧ start.Reads setting stop ∧
        ')' ∉ setting ∧ ';' ∉ setting ∧ (∀ part, part <:+: setting → ¬OpensOption part) ∧
        (stop.peek = some ')' ∨ stop.peek = some ';' ∨ OpensOption stop.rest) ∧
        ∀ front later, start.rest = front ++ later → EndsSetting later → setting <+: front := by
  have hread : (ofText renamedText).bareOption? =
      some (⟨.ofLiteral "keep", some "ä b"⟩,
        ⟨"keep=ä b".toList.reverse, "\n\u2003rename =c);".toList⟩) := by
    decide +kernel
  exact ⟨_, hread, rfl, bareOption?_stops hread⟩

end Cursor

end SasOutline
