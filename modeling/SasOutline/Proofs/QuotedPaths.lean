import SasOutline.Proofs.LeftmostMatch
import SasOutline.Proofs.NamedStatements
import SasOutline.Proofs.NodeOrigin

/-!
# Quoted paths

A quotation runs from a mark to the next mark, whichever of the two marks this is.  What it
holds is therefore free of both marks, but the marks around it may differ.

Inclusions and library bindings quote a path.  Such a statement is read as it was written
exactly when its path holds no mark at all.  A path with an apostrophe is cut off there even
when double quotation marks enclose it, and the statement is read with another path or not at
all.
-/

namespace SasOutline

/-! ## Quotations -/

theorem isQuotationMark_apostrophe : isQuotationMark '\'' = true := by decide

/-- Two marks of either kind around a text that holds neither. -/
structure Quotation where
  opening : Char
  inner : List Char
  closing : Char
  isQuotationMark_opening : isQuotationMark opening = true
  isQuotationMark_closing : isQuotationMark closing = true
  unmarked : ∀ ch ∈ inner, isQuotationMark ch = false

def Quotation.text (quotation : Quotation) : List Char :=
  quotation.opening :: (quotation.inner ++ [quotation.closing])

namespace Cursor

theorem quotationMark?_cons {mark : Char} (hmark : isQuotationMark mark = true)
    (before rest : List Char) :
    (⟨before, mark :: rest⟩ : Cursor).quotationMark? = some ⟨mark :: before, rest⟩ := by
  simp [quotationMark?, peek, skip, hmark]

theorem quotationMark?_eq_some {cursor later : Cursor} (h : cursor.quotationMark? = some later) :
    ∃ mark, isQuotationMark mark = true ∧ cursor.Reads [mark] later := by
  unfold quotationMark? at h
  split at h
  · next hpeek =>
      obtain rfl := Option.some.inj h
      obtain ⟨mark, hhead, hmark⟩ := (Option.any_eq_true _ _).mp hpeek
      obtain ⟨rest, hrest⟩ := List.head?_eq_some_iff.mp hhead
      exact ⟨mark, hmark, by simp [Reads, skip, hrest]⟩
  · contradiction

end Cursor

namespace Quotation

variable (quotation : Quotation) (before rest : List Char)

theorem halts_closing : Halts (! isQuotationMark ·) (quotation.closing :: rest) := by
  simp [quotation.isQuotationMark_closing]

theorem inner_unmarked : ∀ ch ∈ quotation.inner, (! isQuotationMark ch) = true := by
  intro ch hch
  simp [quotation.unmarked ch hch]

theorem text_append :
    quotation.text ++ rest =
      quotation.opening :: (quotation.inner ++ quotation.closing :: rest) := by
  simp [text]

theorem quotedString?_append :
    (⟨before, quotation.text ++ rest⟩ : Cursor).quotedString? =
      some (String.ofList quotation.text, ⟨quotation.text.reverse ++ before, rest⟩) := by
  have hread := Cursor.stringUntil_append before (quotation.text.reverse ++ before)
    quotation.text rest
  rw [text_append] at hread ⊢
  simp only [Cursor.quotedString?, Cursor.quotationMark?_cons quotation.isQuotationMark_opening,
    Option.bind_eq_bind, Option.bind_some,
    Cursor.skipWhile_append quotation.inner_unmarked (quotation.halts_closing rest),
    Cursor.quotationMark?_cons quotation.isQuotationMark_closing]
  simpa [text] using hread

theorem quotedPath?_append (hne : quotation.inner ≠ []) :
    (⟨before, quotation.text ++ rest⟩ : Cursor).quotedPath? =
      some (String.ofList quotation.inner, ⟨quotation.text.reverse ++ before, rest⟩) := by
  have hrun := Cursor.run?_append hne quotation.inner_unmarked (quotation.halts_closing rest)
    (quotation.opening :: before)
  rw [text_append]
  simp only [Cursor.quotedPath?, Cursor.quotationMark?_cons quotation.isQuotationMark_opening,
    Option.bind_eq_bind, Option.bind_some, hrun,
    Cursor.quotationMark?_cons quotation.isQuotationMark_closing, Cursor.stringUntil_append]
  simp [text]

end Quotation

namespace Cursor

/-- A quotation is read with its marks, which may differ. -/
theorem quotedString?_eq_some_iff {cursor stop : Cursor} {text : String} :
    cursor.quotedString? = some (text, stop) ↔
      ∃ quotation : Quotation, text.toList = quotation.text ∧
        cursor.Reads quotation.text stop := by
  constructor
  · intro h
    obtain ⟨opened, hopened, h⟩ := Option.bind_eq_some_iff.1 h
    obtain ⟨last, hlast, h⟩ := Option.bind_eq_some_iff.1 h
    obtain ⟨rfl, rfl⟩ := Prod.mk.inj (Option.some.inj h)
    obtain ⟨opening, hopening, hfirst⟩ := quotationMark?_eq_some hopened
    obtain ⟨closing, hclosing, hstop⟩ := quotationMark?_eq_some hlast
    have hinner := (opened.skipWhile_reaches (! isQuotationMark ·)).reads
    have hunmarked : ∀ ch ∈ opened.textUntil (opened.skipWhile (! isQuotationMark ·)),
        isQuotationMark ch = false := by
      intro ch hch
      rw [textUntil_skipWhile] at hch
      simpa using List.all_eq_true.mp List.all_takeWhile ch hch
    have hread := hfirst.trans (hinner.trans hstop)
    refine ⟨⟨opening, _, closing, hopening, hclosing, hunmarked⟩, ?_, hread⟩
    rw [stringUntil, hread.textUntil_eq, String.toList_ofList]
    rfl
  · rintro ⟨quotation, htext, hread⟩
    obtain ⟨before, rest, rfl, rfl⟩ := hread.exists_eq
    rw [quotation.quotedString?_append before rest, ← htext, String.ofList_toList]

/-- Of a quoted path the text between the marks is kept. -/
theorem quotedPath?_eq_some_iff {cursor stop : Cursor} {path : String} :
    cursor.quotedPath? = some (path, stop) ↔
      ∃ quotation : Quotation, path.toList = quotation.inner ∧ quotation.inner ≠ [] ∧
        cursor.Reads quotation.text stop := by
  constructor
  · intro h
    obtain ⟨opened, hopened, h⟩ := Option.bind_eq_some_iff.1 h
    obtain ⟨closed, hclosed, h⟩ := Option.bind_eq_some_iff.1 h
    obtain ⟨last, hlast, h⟩ := Option.bind_eq_some_iff.1 h
    obtain ⟨rfl, rfl⟩ := Prod.mk.inj (Option.some.inj h)
    obtain ⟨opening, hopening, hfirst⟩ := quotationMark?_eq_some hopened
    obtain ⟨closing, hclosing, hstop⟩ := quotationMark?_eq_some hlast
    obtain ⟨inner, hne, hall, -, hinside⟩ := run?_eq_some hclosed
    have hinner : opened.Reads inner closed := hinside
    have hunmarked : ∀ ch ∈ inner, isQuotationMark ch = false := by
      intro ch hch
      simpa using hall ch hch
    refine ⟨⟨opening, inner, closing, hopening, hclosing, hunmarked⟩, ?_, hne,
      hfirst.trans (hinner.trans hstop)⟩
    rw [stringUntil, hinner.textUntil_eq, String.toList_ofList]
  · rintro ⟨quotation, hpath, hne, hread⟩
    obtain ⟨before, rest, rfl, rfl⟩ := hread.exists_eq
    rw [quotation.quotedPath?_append before rest hne, ← hpath, String.ofList_toList]

end Cursor

/-! ## Statements that quote a path -/

/-- A path between two marks of one kind, which the path does not hold. -/
structure EnclosedPath where
  mark : Char
  path : String
  isQuotationMark_mark : isQuotationMark mark = true
  filled : path.toList ≠ []
  unenclosed : mark ∉ path.toList

namespace EnclosedPath

/-- The path does not hold the other mark either. -/
def IsUnmarked (enclosed : EnclosedPath) : Prop :=
  ∀ ch ∈ enclosed.path.toList, isQuotationMark ch = false

def text (enclosed : EnclosedPath) : List Char :=
  enclosed.mark :: (enclosed.path.toList ++ [enclosed.mark])

def inclusionText (enclosed : EnclosedPath) : List Char :=
  "%include".toList ++ ' ' :: (enclosed.text ++ [';'])

def bindingText (enclosed : EnclosedPath) (library : Word) : List Char :=
  "libname".toList ++ ' ' :: (library.text.toList ++ ' ' :: (enclosed.text ++ [';']))

theorem inclusionText_eq (enclosed : EnclosedPath) :
    enclosed.inclusionText = "%include".toList ++ ' ' :: (enclosed.text ++ [';']) :=
  rfl

theorem bindingText_eq (enclosed : EnclosedPath) (library : Word) :
    enclosed.bindingText library =
      "libname".toList ++ ' ' :: (library.text.toList ++ ' ' :: (enclosed.text ++ [';'])) :=
  rfl

variable (enclosed : EnclosedPath) (library : Word) (before rest : List Char)

theorem halts_space_text : Halts isWhiteSpace (enclosed.text ++ rest) := by
  refine (halts_cons _ _ _).mpr (Bool.eq_false_iff.mpr fun hblank => ?_)
  have hmark := (blank_delimits hblank).2.2.2
  rw [enclosed.isQuotationMark_mark] at hmark
  contradiction

section Unmarked

variable (hunmarked : enclosed.IsUnmarked)
include hunmarked

theorem quotedPath?_text :
    (⟨before, enclosed.text ++ rest⟩ : Cursor).quotedPath? =
      some (enclosed.path, ⟨enclosed.text.reverse ++ before, rest⟩) := by
  let quotation : Quotation := ⟨enclosed.mark, enclosed.path.toList, enclosed.mark,
    enclosed.isQuotationMark_mark, enclosed.isQuotationMark_mark, hunmarked⟩
  have hread := quotation.quotedPath?_append before rest enclosed.filled
  rwa [String.ofList_toList] at hread

theorem inclusion?_text :
    (⟨before, enclosed.inclusionText ++ rest⟩ : Cursor).inclusion? =
      some (⟨enclosed.path, none⟩, ⟨enclosed.inclusionText.reverse ++ before, rest⟩) := by
  have hkeyword := Cursor.letters?_append Char.toLower "%include" before
    (' ' :: (enclosed.text ++ ';' :: rest))
  have hspace (before : List Char) :=
    Cursor.space?_blank (enclosed.halts_space_text (';' :: rest)) before
  have hwritten : enclosed.inclusionText ++ rest =
      "%include".toList ++ ' ' :: (enclosed.text ++ ';' :: rest) := by
    simp [inclusionText_eq]
  rw [hwritten]
  simp only [Cursor.inclusion?, Cursor.keyword?, hkeyword, Option.bind_eq_bind, Option.bind_some,
    hspace, enclosed.quotedPath?_text _ _ hunmarked, Cursor.semicolon?_cons]
  simp [inclusionText_eq]

theorem libraryBinding?_text {before : List Char} (hbefore : Halts isKeywordGlue before) :
    (⟨before, enclosed.bindingText library ++ rest⟩ : Cursor).libraryBinding? =
      some (⟨.ofLiteral library.text, .path enclosed.path, none⟩,
        ⟨(enclosed.bindingText library).reverse ++ before, rest⟩) := by
  have hlibrary := DynamicName.ofLiteral_readsBefore library.plain
    (by decide : isNameCharacter ' ' = false ∧ ' ' ≠ '&') (enclosed.text ++ [';'] ++ rest)
  have hspace : Halts isWhiteSpace (enclosed.text ++ [';'] ++ rest) := by
    rw [List.append_assoc]
    exact enclosed.halts_space_text _
  have htarget (before : List Char) :
      ((⟨before, enclosed.text ++ [';'] ++ rest⟩ : Cursor).pathTarget? <|>
        (⟨before, enclosed.text ++ [';'] ++ rest⟩ : Cursor).pointerTarget?) =
          some (.path enclosed.path, ⟨(enclosed.text ++ [';']).reverse ++ before, rest⟩) := by
    rw [List.append_assoc, List.singleton_append]
    simp only [Cursor.pathTarget?, enclosed.quotedPath?_text _ _ hunmarked, Option.bind_eq_bind,
      Option.bind_some, Cursor.semicolon?_cons]
    simp
  have hread := Cursor.libraryBinding?_of_target hlibrary hspace htarget hbefore
  simpa [bindingText_eq] using hread

end Unmarked

end EnclosedPath

namespace Cursor

theorem quotedPath?_unmarked {cursor stop : Cursor} {path : String}
    (h : cursor.quotedPath? = some (path, stop)) :
    ∀ ch ∈ path.toList, isQuotationMark ch = false := by
  obtain ⟨quotation, hpath, -⟩ := quotedPath?_eq_some_iff.mp h
  rw [hpath]
  exact quotation.unmarked

theorem inclusion?_unmarked {cursor stop : Cursor} {inclusion : Inclusion}
    (h : cursor.inclusion? = some (inclusion, stop)) :
    ∀ ch ∈ inclusion.path.toList, isQuotationMark ch = false := by
  obtain ⟨keyword, -, h⟩ := Option.bind_eq_some_iff.1 h
  obtain ⟨start, -, h⟩ := Option.bind_eq_some_iff.1 h
  obtain ⟨⟨path, quoted⟩, hpath, h⟩ := Option.bind_eq_some_iff.1 h
  obtain ⟨last, -, h⟩ := Option.bind_eq_some_iff.1 h
  obtain ⟨rfl, -⟩ := Prod.mk.inj (Option.some.inj h)
  exact quotedPath?_unmarked hpath

theorem libraryBinding?_unmarked {cursor stop : Cursor} {binding : LibraryBinding} {path : String}
    (h : cursor.libraryBinding? = some (binding, stop)) (hbinding : binding.target = .path path) :
    ∀ ch ∈ path.toList, isQuotationMark ch = false := by
  obtain ⟨keyword, -, h⟩ := Option.bind_eq_some_iff.1 h
  obtain ⟨start, -, h⟩ := Option.bind_eq_some_iff.1 h
  obtain ⟨⟨library, nameStop⟩, -, h⟩ := Option.bind_eq_some_iff.1 h
  obtain ⟨targetStart, -, h⟩ := Option.bind_eq_some_iff.1 h
  obtain ⟨⟨target, last⟩, htarget, h⟩ := Option.bind_eq_some_iff.1 h
  obtain ⟨rfl, -⟩ := Prod.mk.inj (Option.some.inj h)
  obtain rfl : target = .path path := hbinding
  rcases orElse_some htarget with hpath | ⟨-, hpointer⟩
  · obtain ⟨⟨path, quoted⟩, hpath, h⟩ := Option.bind_eq_some_iff.1 hpath
    obtain ⟨stop, -, h⟩ := Option.bind_eq_some_iff.1 h
    obtain ⟨⟨⟩, -⟩ := Prod.mk.inj (Option.some.inj h)
    exact quotedPath?_unmarked hpath
  · obtain ⟨opened, -, h⟩ := Option.bind_eq_some_iff.1 hpointer
    obtain ⟨name, -, h⟩ := Option.bind_eq_some_iff.1 h
    obtain ⟨closed, -, h⟩ := Option.bind_eq_some_iff.1 h
    obtain ⟨stop, -, h⟩ := Option.bind_eq_some_iff.1 h
    obtain ⟨⟨⟩, -⟩ := Prod.mk.inj (Option.some.inj h)

end Cursor

/-- A quotation ends at the next mark of either kind.  A statement with a path between two marks
of one kind is read as it was written exactly when the path holds none of the other kind. -/
theorem Grammar.firstMatch?_quotedPath {before : List Char} (hbefore : Halts isKeywordGlue before)
    (enclosed : EnclosedPath) (library : Word) (suffix : List Char) (cursor stop : Cursor)
    (text : String) :
    (cursor.quotedString? = some (text, stop) ↔
      ∃ quotation : Quotation, text.toList = quotation.text ∧
        cursor.Reads quotation.text stop) ∧
    (cursor.quotedPath? = some (text, stop) ↔
      ∃ quotation : Quotation, text.toList = quotation.inner ∧ quotation.inner ≠ [] ∧
        cursor.Reads quotation.text stop) ∧
    (full.firstMatch? ⟨before, enclosed.inclusionText ++ suffix⟩ =
        some (.single ⟨before, enclosed.inclusionText ++ suffix⟩
          (.inclusion ⟨enclosed.path, none⟩)
          ⟨enclosed.inclusionText.reverse ++ before, suffix⟩) ↔
      enclosed.IsUnmarked) ∧
    (full.firstMatch? ⟨before, enclosed.bindingText library ++ suffix⟩ =
        some (.single ⟨before, enclosed.bindingText library ++ suffix⟩
          (.libraryBinding ⟨.ofLiteral library.text, .path enclosed.path, none⟩)
          ⟨(enclosed.bindingText library).reverse ++ before, suffix⟩) ↔
      enclosed.IsUnmarked) := by
  refine ⟨Cursor.quotedString?_eq_some_iff, Cursor.quotedPath?_eq_some_iff, ?_, ?_⟩
  · constructor
    · intro h
      have hread := List.forall_mem_singleton.mp (firstMatch?_isRead h)
      cases hread with
      | inclusion hread => exact Cursor.inclusion?_unmarked hread
    · intro hunmarked
      exact firstMatch?_of_inclusion? (enclosed.inclusion?_text before suffix hunmarked)
  · constructor
    · intro h
      have hread := List.forall_mem_singleton.mp (firstMatch?_isRead h)
      cases hread with
      | libraryBinding hread => exact Cursor.libraryBinding?_unmarked hread rfl
    · intro hunmarked
      exact firstMatch?_of_libraryBinding?
        (enclosed.libraryBinding?_text library suffix hunmarked hbefore)

def apostrophePath : EnclosedPath := ⟨'"', "it's", by decide, by decide, by decide⟩

/-- What is read of the path: the apostrophe closes what the other mark has opened. -/
def cutQuotation : Quotation :=
  ⟨'"', ['i', 't'], '\'', by decide, isQuotationMark_apostrophe, by simp [isQuotationMark]⟩

def stockLibrary : Word := ⟨"stock", by decide⟩

/-- The apostrophe ends the quotation, and neither statement is read as it was written. -/
theorem Grammar.firstMatch?_quotedPath_of_apostrophe :
    Halts isKeywordGlue [] ∧
      (Cursor.ofText "\"it's\";").quotedPath? =
        some ("it", ⟨"'ti\"".toList, "s\";".toList⟩) ∧
      full.firstMatch? ⟨[], apostrophePath.inclusionText ++ "x=1;".toList⟩ ≠
        some (.single ⟨[], apostrophePath.inclusionText ++ "x=1;".toList⟩
          (.inclusion ⟨"it's", none⟩) ⟨apostrophePath.inclusionText.reverse ++ [], "x=1;".toList⟩) ∧
      full.firstMatch? ⟨[], apostrophePath.bindingText stockLibrary ++ "x=1;".toList⟩ ≠
        some (.single ⟨[], apostrophePath.bindingText stockLibrary ++ "x=1;".toList⟩
          (.libraryBinding ⟨.ofLiteral "stock", .path "it's", none⟩)
          ⟨(apostrophePath.bindingText stockLibrary).reverse ++ [], "x=1;".toList⟩) := by
  have hnil : Halts isKeywordGlue [] := halts_nil _
  have hmarked : ¬apostrophePath.IsUnmarked := by
    intro hunmarked
    exact absurd (hunmarked '\'' (by decide)) (by decide)
  obtain ⟨-, hpath, hinclusion, hbinding⟩ := firstMatch?_quotedPath hnil apostrophePath stockLibrary
    "x=1;".toList (.ofText "\"it's\";") ⟨"'ti\"".toList, "s\";".toList⟩ "it"
  have hread : Cursor.Reads (.ofText "\"it's\";") cutQuotation.text
      ⟨"'ti\"".toList, "s\";".toList⟩ := ⟨rfl, rfl⟩
  exact ⟨hnil, hpath.mpr ⟨cutQuotation, rfl, by decide, hread⟩, hinclusion.not.mpr hmarked,
    hbinding.not.mpr hmarked⟩

end SasOutline
