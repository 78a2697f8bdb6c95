import SasOutline.Proofs.PrintedStatements

/-!
# Statements that name a variable or a library

Any text that the reader of names consumes whole may name a macro variable, a library or the
library it is a pointer to, be it plain or put together from macro variables.  In a statement
the name is followed by a mark that no name goes on with, so it is read there as it is read
alone, and the value behind a macro variable is kept word for word.
-/

namespace SasOutline

/-- A text that the reader of names consumes whole. -/
structure NameText where
  text : String
  name : DynamicName
  consumed : ∃ stop, (Cursor.ofText text).dynamicName? = some (name, stop) ∧ stop.rest = []

/-- What is written behind the equals sign of a definition, possibly nothing. -/
def writtenValue : Option LetValue → List Char
  | none => []
  | some value => value.text.toList

namespace NameText

theorem read (written : NameText) :
    written.name.ReadsBefore [] ∧ written.name.text = written.text := by
  obtain ⟨stop, hname, hend⟩ := written.consumed
  obtain ⟨hreads, htext⟩ := Cursor.dynamicName?_eq_some hname
  rw [hend] at hreads htext
  have hsame : written.text.toList = written.name.text.toList ++ [] := htext
  rw [List.append_nil] at hsame
  exact ⟨hreads, (String.toList_inj.mp hsame).symm⟩

theorem text_name (written : NameText) : written.name.text = written.text := written.read.2

theorem readsBefore (written : NameText) (mark : Char)
    (hmark : isNameCharacter mark = false ∧ mark ≠ '&' ∧ mark ≠ '.') (rest : List Char) :
    written.name.ReadsBefore (mark :: rest) :=
  written.read.1.before_mark hmark rest

theorem halts_space (written : NameText) (rest : List Char) :
    Halts isWhiteSpace (written.text.toList ++ rest) := by
  rw [← written.text_name]
  exact written.read.1.halts_space rest

theorem read_append (written : NameText) (mark : Char)
    (hmark : isNameCharacter mark = false ∧ mark ≠ '&' ∧ mark ≠ '.') (before rest : List Char) :
    (⟨before, written.text.toList ++ mark :: rest⟩ : Cursor).dynamicName? =
      some (written.name, ⟨written.text.toList.reverse ++ before, mark :: rest⟩) := by
  rw [← written.text_name]
  exact Cursor.dynamicName?_of_readsBefore (written.readsBefore mark hmark rest) before

def definitionText (variableName : NameText) (value : Option LetValue) : List Char :=
  "%let".toList ++ ' ' :: (variableName.text.toList ++ '=' :: (writtenValue value ++ [';']))

theorem definitionText_eq (variableName : NameText) (value : Option LetValue) :
    variableName.definitionText value = "%let".toList ++
      ' ' :: (variableName.text.toList ++ '=' :: (writtenValue value ++ [';'])) :=
  rfl

/-- The target of a pointer, with the semicolon behind it. -/
def targetText (pointer : NameText) : List Char := '(' :: (pointer.text.toList ++ [')', ';'])

def pointerText (library pointer : NameText) : List Char :=
  "libname".toList ++ ' ' :: (library.text.toList ++ ' ' :: pointer.targetText)

theorem pointerText_eq (library pointer : NameText) :
    library.pointerText pointer =
      "libname".toList ++ ' ' :: (library.text.toList ++ ' ' :: pointer.targetText) :=
  rfl

end NameText

namespace Cursor

theorem letValue_writtenValue (value : Option LetValue) (before rest : List Char) :
    (⟨before, writtenValue value ++ ';' :: rest⟩ : Cursor).letValue =
      (value.map LetValue.text, ⟨(writtenValue value).reverse ++ before, ';' :: rest⟩) := by
  cases value with
  | none =>
      have hsemicolon : Halts (· != ';') (';' :: rest) := (halts_cons _ _ _).mpr (by decide)
      change letValue ⟨before, ';' :: rest⟩ = (none, ⟨before, ';' :: rest⟩)
      rw [letValue, run?_of_halts hsemicolon]
  | some value => exact letValue_append value before rest

theorem macroVariableDefinition?_named (variableName : NameText) (value : Option LetValue)
    (before rest : List Char) :
    (⟨before, variableName.definitionText value ++ rest⟩ : Cursor).macroVariableDefinition? =
      some (⟨variableName.name, value.map LetValue.text⟩,
        ⟨(variableName.definitionText value).reverse ++ before, rest⟩) := by
  have hname : variableName.name.ReadsBefore ('=' :: (writtenValue value ++ ';' :: rest)) :=
    variableName.readsBefore '=' (by decide) _
  have hread := macroVariableDefinition?_of_letValue hname
    (fun before => letValue_writtenValue value before rest) before
  simpa [NameText.definitionText_eq, variableName.text_name] using hread

/-- A binding is read up to the end of its target. -/
theorem libraryBinding?_of_target {library : DynamicName} {target : LibraryTarget}
    {written rest : List Char} (hlibrary : library.ReadsBefore (' ' :: (written ++ rest)))
    (hspace : Halts isWhiteSpace (written ++ rest))
    (htarget : ∀ before, ((⟨before, written ++ rest⟩ : Cursor).pathTarget? <|>
        (⟨before, written ++ rest⟩ : Cursor).pointerTarget?) =
      some (target, ⟨written.reverse ++ before, rest⟩))
    {before : List Char} (hbefore : Halts isKeywordGlue before) :
    (⟨before, "libname".toList ++ ' ' :: (library.text.toList ++ ' ' :: (written ++ rest))⟩ :
        Cursor).libraryBinding? =
      some (⟨library, target, none⟩,
        ⟨("libname".toList ++ ' ' :: (library.text.toList ++ ' ' :: written)).reverse ++ before,
          rest⟩) := by
  have hword := word?_append "libname" hbefore
    (halts_glue_blank (library.text.toList ++ ' ' :: (written ++ rest)))
  have hname (before : List Char) :=
    space?_blank (hlibrary.halts_space (' ' :: (written ++ rest))) before
  simp only [libraryBinding?, hword, Option.bind_eq_bind, Option.bind_some, hname,
    dynamicName?_of_readsBefore hlibrary, space?_blank hspace, htarget]
  simp

theorem target?_named (pointer : NameText) (before rest : List Char) :
    ((⟨before, pointer.targetText ++ rest⟩ : Cursor).pathTarget? <|>
        (⟨before, pointer.targetText ++ rest⟩ : Cursor).pointerTarget?) =
      some (.pointer pointer.name, ⟨pointer.targetText.reverse ++ before, rest⟩) := by
  have hpath : (⟨before, pointer.targetText ++ rest⟩ : Cursor).pathTarget? = none := rfl
  have hclosing : Halts isWhiteSpace (')' :: ';' :: rest) := (halts_cons _ _ _).mpr (by decide)
  have hwritten : pointer.targetText ++ rest =
      '(' :: (pointer.text.toList ++ ')' :: ';' :: rest) := by
    simp [NameText.targetText]
  rw [hpath, hwritten]
  simp only [pointerTarget?, char?_cons_self, Option.bind_eq_bind, Option.bind_some,
    skipSpace_of_halts (pointer.halts_space (')' :: ';' :: rest)),
    pointer.read_append ')' (by decide), skipSpace_of_halts hclosing, semicolon?_cons]
  simp [NameText.targetText]

theorem libraryBinding?_named (library pointer : NameText) {before : List Char}
    (hbefore : Halts isKeywordGlue before) (rest : List Char) :
    (⟨before, library.pointerText pointer ++ rest⟩ : Cursor).libraryBinding? =
      some (⟨library.name, .pointer pointer.name, none⟩,
        ⟨(library.pointerText pointer).reverse ++ before, rest⟩) := by
  have hlibrary := library.readsBefore ' ' (by decide) (pointer.targetText ++ rest)
  have hspace : Halts isWhiteSpace (pointer.targetText ++ rest) :=
    (halts_cons _ _ _).mpr (by decide)
  have hread := libraryBinding?_of_target hlibrary hspace (target?_named pointer · rest) hbefore
  simpa [NameText.pointerText_eq, library.text_name] using hread

end Cursor

/-- A definition and a pointer are read whole, with their names as they were written. -/
theorem Grammar.firstMatch?_namedStatement {before : List Char}
    (hbefore : Halts isKeywordGlue before) (variableName library pointer : NameText)
    (value : Option LetValue) (suffix : List Char) :
    full.firstMatch? ⟨before, variableName.definitionText value ++ suffix⟩ =
        some (.single ⟨before, variableName.definitionText value ++ suffix⟩
          (.macroVariable ⟨variableName.name, value.map LetValue.text⟩)
          ⟨(variableName.definitionText value).reverse ++ before, suffix⟩) ∧
      full.firstMatch? ⟨before, library.pointerText pointer ++ suffix⟩ =
        some (.single ⟨before, library.pointerText pointer ++ suffix⟩
          (.libraryBinding ⟨library.name, .pointer pointer.name, none⟩)
          ⟨(library.pointerText pointer).reverse ++ before, suffix⟩) ∧
      variableName.name.text = variableName.text ∧ library.name.text = library.text ∧
      pointer.name.text = pointer.text := by
  refine ⟨?_, ?_, variableName.text_name, library.text_name, pointer.text_name⟩
  · exact firstMatch?_of_macroVariableDefinition?
      (Cursor.macroVariableDefinition?_named variableName value before suffix)
  · exact firstMatch?_of_libraryBinding?
      (Cursor.libraryBinding?_named library pointer hbefore suffix)

/-- A double reference that a dot closes, with a plain piece behind it. -/
def indirectName : NameText where
  text := "&&a&b.c"
  name := ⟨[.reference ⟨"&&a&b."⟩, .literal "c"]⟩
  consumed := ⟨⟨"c.b&a&&".toList, []⟩, by decide +kernel, rfl⟩

/-- A reference without a dot at the end of the name. -/
def trailingName : NameText where
  text := "x&y"
  name := ⟨[.literal "x", .reference ⟨"&y"⟩]⟩
  consumed := ⟨⟨"y&x".toList, []⟩, by decide +kernel, rfl⟩

def statementValue : LetValue := ⟨" 'a\n%let b=c", by decide, List.all_eq_true.mp (by decide)⟩

theorem Grammar.firstMatch?_namedStatement_indirect :
    Halts isKeywordGlue [] ∧
      full.firstMatch? ⟨[], trailingName.definitionText (some statementValue) ++ "z".toList⟩ =
        some (.single ⟨[], trailingName.definitionText (some statementValue) ++ "z".toList⟩
          (.macroVariable ⟨⟨[.literal "x", .reference ⟨"&y"⟩]⟩, some " 'a\n%let b=c"⟩)
          ⟨(trailingName.definitionText (some statementValue)).reverse ++ [], "z".toList⟩) ∧
      full.firstMatch? ⟨[], indirectName.pointerText trailingName ++ "z".toList⟩ =
        some (.single ⟨[], indirectName.pointerText trailingName ++ "z".toList⟩
          (.libraryBinding ⟨⟨[.reference ⟨"&&a&b."⟩, .literal "c"]⟩,
            .pointer ⟨[.literal "x", .reference ⟨"&y"⟩]⟩, none⟩)
          ⟨(indirectName.pointerText trailingName).reverse ++ [], "z".toList⟩) := by
  have hnil : Halts isKeywordGlue [] := halts_nil _
  obtain ⟨hdefinition, hbinding, -⟩ := firstMatch?_namedStatement hnil trailingName indirectName
    trailingName (some statementValue) "z".toList
  exact ⟨hnil, hdefinition, hbinding⟩

end SasOutline
