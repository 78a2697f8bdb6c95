import Mathlib.Data.List.Infix
import SasOutline.Proofs.CommentEnds
import SasOutline.Proofs.PrintedStatements
import SasOutline.Proofs.TableEnumerations

/-!
# Arguments of macro definitions

An argument is a name, possibly with a default value behind an equals sign and a comment behind
that.  Slashes are legal in a default value and also open the comment; the comment may hold
commas, parentheses and semicolons.  Still the argument list of a definition is read back as it
was written, argument by argument.
-/

namespace SasOutline

/-! ## The text of a definition -/

/-- Characters of a default value that is written without quotation marks. -/
def isPlainDefault (ch : Char) : Bool := ch.isAlphanum || "_-@.:/\\".toList.contains ch

/-- A default value without quotation marks; it may be empty. -/
structure PlainDefault where
  text : String
  plain : text.toList.all isPlainDefault = true

/-- The text of a block comment, which does not hold the mark that closes it. -/
structure DocText where
  text : String
  filled : text.toList ≠ []
  unclosed : ¬['*', '/'] <:+: text.toList

structure ArgumentText where
  name : Word
  default : Option PlainDefault
  doc : Option DocText

def defaultText : Option PlainDefault → List Char
  | none => []
  | some value => '=' :: value.text.toList

def docText : Option DocText → List Char
  | none => []
  | some doc => '/' :: '*' :: (doc.text.toList ++ ['*', '/'])

namespace ArgumentText

def text (argument : ArgumentText) : List Char :=
  argument.name.text.toList ++ (defaultText argument.default ++ docText argument.doc)

def argument (argument : ArgumentText) : MacroArgument :=
  ⟨.ofLiteral argument.name.text, argument.default.map PlainDefault.text,
    argument.doc.map fun doc => ⟨doc.text⟩⟩

end ArgumentText

/-- Arguments separated by commas. -/
def argumentsText (arguments : List ArgumentText) : List Char :=
  [','].intercalate (arguments.map ArgumentText.text)

/-- The statement that opens a definition. -/
def definitionText (name : Word) (arguments : List ArgumentText) : List Char :=
  "%macro".toList ++ ' ' ::
    (name.text.toList ++ '(' :: (argumentsText arguments ++ [')', ';']))

theorem definitionText_eq (name : Word) (arguments : List ArgumentText) :
    definitionText name arguments = "%macro".toList ++ ' ' ::
      (name.text.toList ++ '(' :: (argumentsText arguments ++ [')', ';'])) :=
  rfl

theorem definitionText_append (name : Word) (arguments : List ArgumentText)
    (suffix : List Char) :
    definitionText name arguments ++ suffix = "%macro".toList ++ ' ' ::
      (name.text.toList ++ '(' :: (argumentsText arguments ++ ')' :: ';' :: suffix)) := by
  simp [definitionText_eq]

/-! ## Comments -/

theorem DocText.comment?_append (doc : DocText) (before rest : List Char) :
    (⟨before, docText (some doc) ++ rest⟩ : Cursor).comment? =
      some (⟨doc.text⟩, ⟨(docText (some doc)).reverse ++ before, rest⟩) := by
  have hlater : ¬['*', '/'] <:+: doc.text.toList.tail :=
    fun hinner => doc.unclosed (hinner.trans (List.tail_suffix _).isInfix)
  have hwritten : Cursor.Reads ⟨before, docText (some doc) ++ rest⟩ (docText (some doc))
      ⟨(docText (some doc)).reverse ++ before, rest⟩ := ⟨rfl, rfl⟩
  exact Cursor.comment?_eq_some_iff.mpr (.inr ⟨hwritten, doc.filled, hlater⟩)

/-! ## Default values -/

/-- A default value that is read in front of this text ends there. -/
structure EndsDefault (following : List Char) : Prop where
  run : defaultRunLength following = 0
  mark : ∃ mark ∈ [',', ')', '/'], following.head? = some mark

theorem endsDefault_mark {mark : Char} (hmark : mark ∈ [',', ')']) (rest : List Char) :
    EndsDefault (mark :: rest) := by
  rcases List.mem_pair.mp hmark with rfl | rfl
  · exact ⟨rfl, ',', by decide, rfl⟩
  · exact ⟨rfl, ')', by decide, rfl⟩

theorem endsDefault_docText (doc : Option DocText) {mark : Char} (hmark : mark ∈ [',', ')'])
    (rest : List Char) : EndsDefault (docText doc ++ mark :: rest) := by
  cases doc with
  | none => exact endsDefault_mark hmark rest
  | some doc => exact ⟨rfl, '/', by decide, rfl⟩

/-- A slash in a default value is never taken for the beginning of the comment. -/
theorem defaultRunLength_append {value following : List Char}
    (hvalue : value.all isPlainDefault = true) (hfollowing : EndsDefault following) :
    defaultRunLength (value ++ following) = value.length := by
  induction value with
  | nil => exact hfollowing.run
  | cons ch value ih =>
      obtain ⟨hch, hlater⟩ := Bool.and_eq_true_iff.mp hvalue
      have hnext : (value ++ following).head? ≠ some '*' := by
        cases value with
        | nil =>
            obtain ⟨mark, hmark, hhead⟩ := hfollowing.mark
            rw [List.nil_append, hhead]
            rintro ⟨⟩
            exact absurd hmark (by decide)
        | cons next value =>
            rintro ⟨⟩
            exact absurd hlater (by simp [isPlainDefault])
      have hallowed : (isDefaultCharacter ch || (ch == '/' || ch == '\\')) = true := by
        simpa [isPlainDefault, isDefaultCharacter, or_assoc] using hch
      rw [List.cons_append, defaultRunLength, bne_iff_ne.mpr hnext, Bool.and_true,
        if_pos hallowed, ih hlater, List.length_cons]

theorem isWhiteSpace_of_isPlainDefault {ch : Char} (hch : isPlainDefault ch = true) :
    isWhiteSpace ch = false := by
  rcases Bool.or_eq_true_iff.mp hch with hname | hmark
  · exact isWhiteSpace_of_isNameCharacter (by simp [isNameCharacter, hname])
  · have hmarks : "_-@.:/\\".toList.all (! isWhiteSpace ·) = true := by decide
    simpa using List.all_eq_true.mp hmarks ch (List.contains_iff_mem.mp hmark)

namespace EndsDefault

variable {following : List Char} (h : EndsDefault following)
include h

theorem halts_space : Halts isWhiteSpace following := by
  obtain ⟨mark, hmark, hhead⟩ := h.mark
  have hmarks : [',', ')', '/'].all (! isWhiteSpace ·) = true := by decide
  simpa [Halts, hhead] using List.all_eq_true.mp hmarks mark hmark

theorem defaultPiece?_eq_none (before : List Char) :
    (⟨before, following⟩ : Cursor).defaultPiece? = none := by
  obtain ⟨mark, hmark, hhead⟩ := h.mark
  have hplain : (⟨before, following⟩ : Cursor).defaultRun? = none := if_pos h.run
  have hampersand : (⟨before, following⟩ : Cursor).char? '&' = none := by
    apply Cursor.char?_eq_none
    rw [hhead]
    rintro ⟨⟩
    exact absurd hmark (by decide)
  have hquotation : (⟨before, following⟩ : Cursor).quotationMark? = none := by
    have hmarks : [',', ')', '/'].all (! isQuotationMark ·) = true := by decide
    have hunquoted := List.all_eq_true.mp hmarks mark hmark
    simpa [Cursor.quotationMark?, Cursor.peek, hhead] using hunquoted
  simp [Cursor.defaultPiece?, hplain, Cursor.macroVariable?, Cursor.referenceEnd?, hampersand,
    Cursor.quotedString?, hquotation]

theorem defaultEnd_append {value : List Char} (hvalue : value.all isPlainDefault = true)
    (before : List Char) :
    (⟨before, value ++ following⟩ : Cursor).defaultEnd = ⟨value.reverse ++ before, following⟩ := by
  have hnone (before : List Char) := Cursor.defaultEnd_of_none (h.defaultPiece?_eq_none before)
  have hlength := defaultRunLength_append hvalue h
  cases value with
  | nil => exact hnone before
  | cons ch value =>
      have hrun : (⟨before, ch :: value ++ following⟩ : Cursor).defaultRun? =
          some ⟨(ch :: value).reverse ++ before, following⟩ := by
        unfold Cursor.defaultRun?
        rw [hlength, if_neg (by simp), Cursor.skip_append]
      have hpiece : (⟨before, ch :: value ++ following⟩ : Cursor).defaultPiece? =
          some ⟨(ch :: value).reverse ++ before, following⟩ := by
        simp only [Cursor.defaultPiece?, hrun]
        rfl
      rw [Cursor.defaultEnd_of_some hpiece, hnone]

theorem argumentDefault?_append (value : PlainDefault) (before : List Char) :
    (⟨before, defaultText (some value) ++ following⟩ : Cursor).argumentDefault? =
      some (value.text, ⟨(defaultText (some value)).reverse ++ before, following⟩) := by
  have hhalts : Halts isWhiteSpace (value.text.toList ++ following) := by
    have hplain := value.plain
    cases htext : value.text.toList with
    | nil => exact h.halts_space
    | cons ch text =>
        rw [htext] at hplain
        exact (halts_cons _ _ _).mpr
          (isWhiteSpace_of_isPlainDefault (Bool.and_eq_true_iff.mp hplain).1)
  have hread := Cursor.stringUntil_append ('=' :: before)
    (value.text.toList.reverse ++ '=' :: before) value.text.toList following
  rw [String.ofList_toList] at hread
  simp only [defaultText, List.cons_append, Cursor.argumentDefault?, Cursor.char?_cons_self,
    Option.bind_eq_bind, Option.bind_some, Cursor.skipSpace_of_halts hhalts,
    h.defaultEnd_append value.plain, hread]
  simp

theorem optional_argumentDefault? (value : Option PlainDefault) (before : List Char) :
    optional (⟨before, defaultText value ++ following⟩ : Cursor)
        (⟨before, defaultText value ++ following⟩ : Cursor).argumentDefault? =
      (value.map PlainDefault.text, ⟨(defaultText value).reverse ++ before, following⟩) := by
  cases value with
  | none =>
      obtain ⟨mark, hmark, hhead⟩ := h.mark
      have hequals : (⟨before, following⟩ : Cursor).char? '=' = none := by
        apply Cursor.char?_eq_none
        rw [hhead]
        rintro ⟨⟩
        exact absurd hmark (by decide)
      simp [defaultText, optional, Cursor.argumentDefault?, hequals]
  | some value =>
      rw [h.argumentDefault?_append value before]
      rfl

end EndsDefault

/-! ## Arguments -/

section Argument

variable {mark : Char} (hmark : mark ∈ [',', ')'])
include hmark

theorem optional_comment? (doc : Option DocText) (before rest : List Char) :
    optional (⟨before, docText doc ++ mark :: rest⟩ : Cursor)
        (⟨before, docText doc ++ mark :: rest⟩ : Cursor).comment? =
      (doc.map fun doc => ⟨doc.text⟩, ⟨(docText doc).reverse ++ before, mark :: rest⟩) := by
  cases doc with
  | none =>
      have hstar : (⟨before, mark :: rest⟩ : Cursor).char? '*' = none := by
        apply Cursor.char?_other
        rintro rfl
        exact absurd hmark (by decide)
      have hslash : (⟨before, mark :: rest⟩ : Cursor).char? '/' = none := by
        apply Cursor.char?_other
        rintro rfl
        exact absurd hmark (by decide)
      simp [docText, optional, Cursor.comment?, Cursor.starComment?, Cursor.blockComment?, hstar,
        hslash]
  | some doc =>
      rw [doc.comment?_append before (mark :: rest)]
      rfl

namespace ArgumentText

/-- The first character behind the name of an argument ends the name. -/
theorem behind_name (argument : ArgumentText) (rest : List Char) :
    ∃ next ∈ ['=', '/', ',', ')'], ∃ more,
      defaultText argument.default ++ (docText argument.doc ++ mark :: rest) = next :: more := by
  obtain ⟨name, default, doc⟩ := argument
  cases default with
  | some value => exact ⟨'=', by decide, _, rfl⟩
  | none =>
      cases doc with
      | some doc => exact ⟨'/', by decide, _, rfl⟩
      | none => exact ⟨mark, List.mem_cons_of_mem _ (List.mem_cons_of_mem _ hmark), rest, rfl⟩

theorem macroArgument?_append (argument : ArgumentText) (before rest : List Char) :
    (⟨before, argument.text ++ mark :: rest⟩ : Cursor).macroArgument? =
      some (argument.argument, ⟨argument.text.reverse ++ before, mark :: rest⟩) := by
  obtain ⟨next, hnext, more, hmore⟩ := argument.behind_name hmark rest
  have hends : isNameCharacter next = false ∧ next ≠ '&' := by
    simp only [List.mem_cons, List.not_mem_nil, or_false] at hnext
    rcases hnext with rfl | rfl | rfl | rfl <;> decide
  have hnospace : Halts isWhiteSpace (next :: more) := by
    rw [halts_cons]
    simp only [List.mem_cons, List.not_mem_nil, or_false] at hnext
    rcases hnext with rfl | rfl | rfl | rfl <;> decide
  have hname := argument.name.read_append next hends before more
  have hdefault := endsDefault_docText argument.doc hmark rest
  have hwritten : argument.text ++ mark :: rest = argument.name.text.toList ++
      (defaultText argument.default ++ (docText argument.doc ++ mark :: rest)) := by
    simp [ArgumentText.text]
  rw [← hmore] at hname hnospace
  rw [hwritten]
  simp only [Cursor.macroArgument?, hname, Option.bind_eq_bind, Option.bind_some,
    Cursor.skipSpace_of_halts hnospace, hdefault.optional_argumentDefault?,
    Cursor.skipSpace_of_halts hdefault.halts_space, optional_comment? hmark]
  simp [ArgumentText.text, ArgumentText.argument]

end ArgumentText

end Argument

/-! ## Lists of arguments -/

theorem ArgumentText.halts_space (argument : ArgumentText) (rest : List Char) :
    Halts isWhiteSpace (argument.text ++ rest) := by
  rw [ArgumentText.text, List.append_assoc]
  exact Cursor.halts_space_of_plain argument.name.plain _

/-- Further arguments, each with a comma in front. -/
def furtherArguments (arguments : List ArgumentText) : List Char :=
  arguments.flatMap fun argument => ',' :: argument.text

theorem argumentsText_cons (first : ArgumentText) (others : List ArgumentText) :
    argumentsText (first :: others) = first.text ++ furtherArguments others :=
  intercalate_map_cons ',' ArgumentText.text first others

theorem comma?_cons {rest : List Char} (hrest : Halts isWhiteSpace rest) (before : List Char) :
    comma? ⟨before, ',' :: rest⟩ = some ⟨',' :: before, rest⟩ := by
  have hblanks : IsBlank [] := List.forall_mem_nil _
  exact comma?_append hblanks hblanks hrest before

/-- What stands behind an argument: a comma or the closing bracket. -/
theorem furtherArguments_cons (arguments : List ArgumentText) (rest : List Char) :
    ∃ mark ∈ [',', ')'], ∃ more, furtherArguments arguments ++ ')' :: rest = mark :: more := by
  cases arguments with
  | nil => exact ⟨')', by decide, rest, rfl⟩
  | cons argument arguments => exact ⟨',', by decide, _, rfl⟩

theorem separatedTail_arguments (arguments : List ArgumentText) (before rest : List Char) :
    separatedTail Cursor.macroArgument? comma?
        ⟨before, furtherArguments arguments ++ ')' :: rest⟩ =
      (arguments.map ArgumentText.argument,
        ⟨(furtherArguments arguments).reverse ++ before, ')' :: rest⟩) := by
  have hbracket : Halts isWhiteSpace (')' :: rest) := (halts_cons _ _ _).mpr (by decide)
  have hend (before : List Char) : comma? ⟨before, ')' :: rest⟩ = none := by
    apply comma?_eq_none
    rw [Cursor.skipSpace_of_halts hbracket]
    simp [Cursor.peek]
  refine separatedTail_append (fun argument _ => List.cons_ne_nil ',' argument.text) ?_ ?_ before
  · intro argument later _ before
    obtain ⟨mark, hmark, more, hmore⟩ := furtherArguments_cons later rest
    have hcomma := comma?_cons (argument.halts_space (furtherArguments later ++ ')' :: rest)) before
    have hitem := argument.macroArgument?_append hmark (',' :: before) more
    rw [← hmore] at hitem
    rw [List.cons_append, ← furtherArguments, hcomma, Option.bind_some, hitem]
    simp
  · intro before
    rw [hend, Option.bind_none]

/-- The arguments between the brackets; there may be none. -/
theorem separated_arguments (arguments : List ArgumentText) (before rest : List Char) :
    separated Cursor.macroArgument? comma?
        (⟨before, argumentsText arguments ++ ')' :: rest⟩ : Cursor).skipSpace =
      (arguments.map ArgumentText.argument,
        ⟨(argumentsText arguments).reverse ++ before, ')' :: rest⟩) := by
  cases arguments with
  | nil =>
      have hbracket : Halts isWhiteSpace (')' :: rest) := (halts_cons _ _ _).mpr (by decide)
      have hname : (⟨before, ')' :: rest⟩ : Cursor).dynamicName? = none :=
        Cursor.dynamicName?_eq_none_of_startsNoSegment
          (startsNoSegment_cons (by decide) (by decide) rest) before
      change separated Cursor.macroArgument? comma? (⟨before, ')' :: rest⟩ : Cursor).skipSpace = _
      rw [Cursor.skipSpace_of_halts hbracket]
      simp [separated, Cursor.macroArgument?, hname, argumentsText]
  | cons first others =>
      obtain ⟨mark, hmark, more, hmore⟩ := furtherArguments_cons others rest
      have hfirst := first.macroArgument?_append hmark before more
      have hhalts := first.halts_space (furtherArguments others ++ ')' :: rest)
      rw [← hmore] at hfirst
      rw [argumentsText_cons, List.append_assoc, Cursor.skipSpace_of_halts hhalts]
      simp only [separated, hfirst, separatedTail_arguments]
      simp

theorem argumentList?_append (arguments : List ArgumentText) (before rest : List Char) :
    (⟨before, '(' :: (argumentsText arguments ++ ')' :: rest)⟩ : Cursor).argumentList? =
      some (arguments.map ArgumentText.argument,
        ⟨')' :: ((argumentsText arguments).reverse ++ '(' :: before), rest⟩) := by
  have hbracket : Halts isWhiteSpace (')' :: rest) := (halts_cons _ _ _).mpr (by decide)
  simp only [Cursor.argumentList?, Cursor.char?_cons_self, Option.bind_eq_bind, Option.bind_some,
    separated_arguments, Cursor.skipSpace_of_halts hbracket]
  rfl

/-! ## Definitions -/

theorem macroStart?_definitionText (name : Word) (arguments : List ArgumentText)
    (before suffix : List Char) :
    (⟨before, definitionText name arguments ++ suffix⟩ : Cursor).macroStart? =
      some (⟨.ofLiteral name.text, some (arguments.map ArgumentText.argument), none⟩,
        ⟨(definitionText name arguments).reverse ++ before, suffix⟩) := by
  have hkeyword := Cursor.letters?_append Char.toLower "%macro" before
    (' ' :: (name.text.toList ++ '(' :: (argumentsText arguments ++ ')' :: ';' :: suffix)))
  have hspace (before : List Char) := Cursor.space?_blank (Cursor.halts_space_of_plain name.plain
    ('(' :: (argumentsText arguments ++ ')' :: ';' :: suffix))) before
  have hopened : Halts isWhiteSpace
      ('(' :: (argumentsText arguments ++ ')' :: ';' :: suffix)) :=
    (halts_cons _ _ _).mpr (by decide)
  rw [definitionText_append]
  simp only [Cursor.macroStart?, Cursor.keyword?, hkeyword, Option.bind_eq_bind, Option.bind_some,
    hspace, name.read_append '(' (by decide), Cursor.skipSpace_of_halts hopened,
    argumentList?_append, optional, Cursor.macroOptions?_semicolon, Cursor.semicolon?_cons]
  simp [definitionText_eq]

/-- A definition is read with its name and with exactly the arguments that it was written
with; none of its characters are left and none behind it are read. -/
theorem Grammar.firstMatch?_definition (name : Word) (arguments : List ArgumentText)
    (before suffix : List Char) :
    full.firstMatch? ⟨before, definitionText name arguments ++ suffix⟩ =
      some (.single ⟨before, definitionText name arguments ++ suffix⟩
        (.macroStart ⟨.ofLiteral name.text, some (arguments.map ArgumentText.argument), none⟩)
        ⟨(definitionText name arguments).reverse ++ before, suffix⟩) :=
  firstMatch?_of_macroStart? (macroStart?_definitionText name arguments before suffix)

end SasOutline
