import SasOutline.Proofs.DataStepParts

/-!
# Statements as they are printed

Four kinds of statements are printed in one fixed form: a macro variable
definition, a data step without a body, and the two statements that delimit a
macro definition.  Wherever such a statement begins a line, the full grammar
reads exactly the statement and nothing of what follows it.
-/

namespace SasOutline

/-! ## What is printed -/

structure LetValue where
  text : String
  filled : text.toList ≠ []
  unbroken : ∀ ch ∈ text.toList, (ch != ';') = true

inductive Statement where
  | definition (name : Word) (value : LetValue)
  | dataStep (outputs inputs : TableList)
  | opening (name : Word)
  | closing

namespace Statement

def text : Statement → List Char
  | definition name value =>
      "%let".toList ++ ' ' :: (name.text.toList ++ '=' :: (value.text.toList ++ [';']))
  | dataStep outputs inputs =>
      "data".toList ++ ' ' :: (outputs.text ++ ';' ::
        ("set".toList ++ ' ' :: (inputs.text ++ ';' :: ("run".toList ++ [';']))))
  | opening name => "%macro".toList ++ ' ' :: (name.text.toList ++ [';'])
  | closing => "%mend".toList ++ [';']

theorem text_definition (name : Word) (value : LetValue) :
    (definition name value).text =
      "%let".toList ++ ' ' :: (name.text.toList ++ '=' :: (value.text.toList ++ [';'])) :=
  rfl

theorem text_dataStep (outputs inputs : TableList) :
    (dataStep outputs inputs).text = dataStepText outputs inputs "set" "" "" :=
  rfl

theorem text_opening (name : Word) :
    (opening name).text = "%macro".toList ++ ' ' :: (name.text.toList ++ [';']) :=
  rfl

theorem text_closing : closing.text = "%mend".toList ++ [';'] := rfl

def node : Statement → Node
  | definition name value => .macroVariable ⟨.ofLiteral name.text, some value.text⟩
  | dataStep outputs inputs =>
      .dataStep ⟨outputs.references, inputs.references, "", "", none⟩
  | opening name => .macroStart ⟨.ofLiteral name.text, none, none⟩
  | closing => .macroEnd

end Statement

/-! ## Statements of the macro language -/

namespace Cursor

theorem letValue_append (value : LetValue) (before rest : List Char) :
    (⟨before, value.text.toList ++ ';' :: rest⟩ : Cursor).letValue =
      (some value.text, ⟨value.text.toList.reverse ++ before, ';' :: rest⟩) := by
  have hsemicolon : Halts (· != ';') (';' :: rest) := by
    rw [halts_cons]
    decide
  unfold letValue
  rw [run?_append value.filled value.unbroken hsemicolon]
  simp only [stringUntil_append, String.ofList_toList]

theorem macroVariableDefinition?_of_letValue {name : DynamicName} {value : Option String}
    {written rest : List Char} (hname : name.ReadsBefore ('=' :: (written ++ ';' :: rest)))
    (hvalue : ∀ before, (⟨before, written ++ ';' :: rest⟩ : Cursor).letValue =
      (value, ⟨written.reverse ++ before, ';' :: rest⟩))
    (before : List Char) :
    (⟨before, "%let".toList ++ ' ' :: (name.text.toList ++ '=' :: (written ++ ';' :: rest))⟩ :
        Cursor).macroVariableDefinition? =
      some (⟨name, value⟩, ⟨("%let".toList ++
        ' ' :: (name.text.toList ++ '=' :: (written ++ [';']))).reverse ++ before, rest⟩) := by
  have hkeyword := letters?_append Char.toLower "%let" before
    (' ' :: (name.text.toList ++ '=' :: (written ++ ';' :: rest)))
  have hspace (before : List Char) :=
    space?_blank (hname.halts_space ('=' :: (written ++ ';' :: rest))) before
  have hequals : Halts isWhiteSpace ('=' :: (written ++ ';' :: rest)) := by
    rw [halts_cons]
    decide
  simp only [macroVariableDefinition?, keyword?, hkeyword, Option.bind_eq_bind, Option.bind_some,
    hspace, dynamicName?_of_readsBefore hname, skipSpace_of_halts hequals, char?_cons_self, hvalue]
  simp

theorem macroVariableDefinition?_append (name : Word) (value : LetValue)
    (before rest : List Char) :
    (⟨before, (Statement.definition name value).text ++ rest⟩ : Cursor).macroVariableDefinition? =
      some (⟨.ofLiteral name.text, some value.text⟩,
        ⟨(Statement.definition name value).text.reverse ++ before, rest⟩) := by
  have hequals : isNameCharacter '=' = false ∧ '=' ≠ '&' := by decide
  have hname := DynamicName.ofLiteral_readsBefore name.plain hequals
    (value.text.toList ++ ';' :: rest)
  have hread := macroVariableDefinition?_of_letValue hname
    (fun before => letValue_append value before rest) before
  simpa [Statement.text_definition] using hread

theorem argumentList?_semicolon (before rest : List Char) :
    (⟨before, ';' :: rest⟩ : Cursor).skipSpace.argumentList? = none := by
  have hbracket : (';' :: rest).head? ≠ some '(' := by simp
  unfold argumentList?
  rw [skipSpace_of_halts (halts_space_semicolon rest), char?_eq_none hbracket]
  rfl

theorem macroOptions?_semicolon (before rest : List Char) :
    (⟨before, ';' :: rest⟩ : Cursor).macroOptions? = none := by
  have hslash : (';' :: rest).head? ≠ some '/' := by simp
  unfold macroOptions?
  rw [skipSpace_of_halts (halts_space_semicolon rest), char?_eq_none hslash]
  rfl

theorem macroStart?_append (name : Word) (before rest : List Char) :
    (⟨before, (Statement.opening name).text ++ rest⟩ : Cursor).macroStart? =
      some (⟨.ofLiteral name.text, none, none⟩,
        ⟨(Statement.opening name).text.reverse ++ before, rest⟩) := by
  have hkeyword := letters?_append Char.toLower "%macro" before
    (' ' :: (name.text.toList ++ ';' :: rest))
  have hspace (before : List Char) :=
    space?_blank (halts_space_of_plain name.plain (';' :: rest)) before
  have hwritten : (Statement.opening name).text ++ rest =
      "%macro".toList ++ ' ' :: (name.text.toList ++ ';' :: rest) := by
    simp [Statement.text_opening]
  rw [hwritten]
  simp only [macroStart?, keyword?, hkeyword, Option.bind_eq_bind, Option.bind_some, hspace,
    name.read_append ';' (by decide), optional, argumentList?_semicolon, macroOptions?_semicolon,
    semicolon?_cons]
  simp [Statement.text_opening]

theorem macroEnd?_append (before rest : List Char) :
    (⟨before, Statement.closing.text ++ rest⟩ : Cursor).macroEnd? =
      some ⟨Statement.closing.text.reverse ++ before, rest⟩ := by
  have hkeyword := letters?_append foldedLetter "%mend" before (';' :: rest)
  have hsemicolon : Halts (fun ch => ch != '\n' && ch != ';') (';' :: rest) := by
    rw [halts_cons]
    decide
  have hwritten : Statement.closing.text ++ rest = "%mend".toList ++ ';' :: rest := by
    simp [Statement.text_closing]
  rw [hwritten]
  simp only [macroEnd?, hkeyword, Option.bind_eq_bind, Option.bind_some,
    skipWhile_of_halts hsemicolon, char?_cons_self]
  simp [Statement.text_closing]

end Cursor

namespace Statement

theorem earlier_closing (before rest : List Char) :
    ∀ rule ∈ Grammar.full.rules.take 9,
      rule.2.read? ⟨before, closing.text ++ rest⟩ = none := by
  have hstart : (⟨before, closing.text ++ rest⟩ : Cursor).keyword? "%macro" = none :=
    Cursor.letters?_eq_none ['%', 'm', 'e'] (by decide) (by decide) before _
  have hrules : Grammar.full.rules.take 9 =
      Grammar.full.rules.take 8 ++ [("macro start", .macroStart)] := rfl
  rw [hrules, List.forall_mem_append, List.forall_mem_singleton]
  constructor
  · exact Grammar.earlier_macros before _
  · simp [Construct.read?, Cursor.macroStart?, hstart]

/-- The statement is read whole, and by the rule that is meant for it. -/
theorem firstMatch?_append (statement : Statement) {before : List Char}
    (hbefore : Halts isKeywordGlue before) (rest : List Char) :
    Grammar.full.firstMatch? ⟨before, statement.text ++ rest⟩ =
      some (.single ⟨before, statement.text ++ rest⟩ statement.node
        ⟨statement.text.reverse ++ before, rest⟩) := by
  have hless : rest.length < (statement.text ++ rest).length := by
    cases statement <;>
      simp [text_definition, text_dataStep, dataStepText, text_opening, text_closing] <;> omega
  cases statement with
  | definition name value =>
      exact Grammar.firstMatch?_of_macroVariableDefinition?
        (Cursor.macroVariableDefinition?_append name value before rest)
  | dataStep outputs inputs =>
      have hkeyword : "set" ∈ inputKeywords := List.mem_cons_self
      have hempty : EndsDelimited "".toList := rfl
      rw [text_dataStep]
      exact Grammar.firstMatch?_of_dataStep?
        (dataStep?_append hkeyword hempty rfl rfl hempty rfl hbefore outputs inputs rest)
  | opening name =>
      exact Grammar.firstMatch?_of_macroStart? (Cursor.macroStart?_append name before rest)
  | closing =>
      refine Grammar.firstMatch?_of_nth 9 rfl (earlier_closing before rest) ?_ hless
      simp only [Construct.read?, Cursor.macroEnd?_append]
      rfl

end Statement

end SasOutline
