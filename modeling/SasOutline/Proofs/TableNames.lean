import SasOutline.DatasetReference
import SasOutline.GlobalStatements
import SasOutline.Proofs.NameReading

/-!
# Names of tables

A table is named by a word, and a second word in front of a dot names its library.  Any
word will do, a keyword too.  A list of tables in front of a semicolon is read table by
table, as it was written.
-/

namespace SasOutline

/-- A name without macro variables; any word will do, a keyword too. -/
structure Word where
  text : String
  plain : IsPlainText text.toList

structure TableName where
  library : Option Word
  dataset : Word

/-- Table names separated by blanks. -/
structure TableList where
  first : TableName
  others : List TableName

namespace TableName

def text (table : TableName) : List Char :=
  match table.library with
  | none => table.dataset.text.toList
  | some library => library.text.toList ++ '.' :: table.dataset.text.toList

def reference (table : TableName) : DatasetReference :=
  ⟨table.library.map fun library => .ofLiteral library.text,
    .ofLiteral table.dataset.text, none⟩

end TableName

namespace TableList

/-- Further names, each with a blank in front. -/
def further (tables : List TableName) : List Char :=
  tables.flatMap fun table => ' ' :: table.text

def text (tables : TableList) : List Char :=
  tables.first.text ++ further tables.others

def references (tables : TableList) : List DatasetReference :=
  (tables.first :: tables.others).map TableName.reference

end TableList

/-! ## Words and blanks -/

namespace Cursor

theorem semicolon?_cons (before rest : List Char) :
    (⟨before, ';' :: rest⟩ : Cursor).semicolon? = some ⟨';' :: before, rest⟩ := by
  unfold semicolon?
  rw [skipSpace_of_halts (halts_space_semicolon rest), char?_cons_self]

end Cursor

/-! ## Names and tables -/

namespace Word

theorem read_append (name : Word) (mark : Char)
    (hmark : isNameCharacter mark = false ∧ mark ≠ '&') (before rest : List Char) :
    (⟨before, name.text.toList ++ mark :: rest⟩ : Cursor).dynamicName? =
      some (.ofLiteral name.text, ⟨name.text.toList.reverse ++ before, mark :: rest⟩) := by
  have hreads := DynamicName.ofLiteral_readsBefore name.plain hmark rest
  have hread := Cursor.dynamicName?_of_readsBefore hreads before
  rwa [DynamicName.text_ofLiteral] at hread

theorem head_ne (name : Word) {mark : Char} (hmark : isNameCharacter mark = false)
    (rest : List Char) : (name.text.toList ++ rest).head? ≠ some mark :=
  head?_append_ne name.plain.1 (notMem_of_forall name.plain.2 hmark) rest

end Word

/-- A table that is read in front of this text has no options. -/
structure EndsTable (following : List Char) : Prop where
  mark : ∃ mark rest, following = mark :: rest ∧ isNameCharacter mark = false ∧
    mark ≠ '&' ∧ mark ≠ '.'
  bare : ∀ before, (⟨before, following⟩ : Cursor).skipSpace.peek ≠ some '('

theorem endsTable_semicolon (rest : List Char) : EndsTable (';' :: rest) := by
  constructor
  · exact ⟨';', rest, rfl, by decide⟩
  · intro before
    rw [Cursor.skipSpace_of_halts (Cursor.halts_space_semicolon rest)]
    simp [Cursor.peek]

namespace TableName

theorem plain_start (table : TableName) :
    ∃ (name : Word) (rest : List Char), table.text = name.text.toList ++ rest := by
  unfold text
  cases table.library with
  | none => exact ⟨table.dataset, [], (List.append_nil _).symm⟩
  | some library => exact ⟨library, _, rfl⟩

theorem not_mem_text (table : TableName) {mark : Char}
    (hmark : isNameCharacter mark = false) (hdot : mark ≠ '.') : mark ∉ table.text := by
  have hword (name : Word) : mark ∉ name.text.toList := notMem_of_forall name.plain.2 hmark
  obtain ⟨library, dataset⟩ := table
  cases library with
  | none => exact hword dataset
  | some library => simp [text, hword, hdot]

theorem halts_space (table : TableName) (rest : List Char) :
    Halts isWhiteSpace (table.text ++ rest) := by
  obtain ⟨name, more, htext⟩ := table.plain_start
  rw [htext, List.append_assoc]
  exact Cursor.halts_space_of_plain name.plain _

theorem endsTable_blank (table : TableName) (rest : List Char) :
    EndsTable (' ' :: (table.text ++ rest)) := by
  constructor
  · exact ⟨' ', _, rfl, by decide⟩
  · intro before
    obtain ⟨name, more, htext⟩ := table.plain_start
    rw [Cursor.skipSpace_blank (table.halts_space rest), htext, List.append_assoc]
    exact name.head_ne (by decide) _

theorem read_dataset (name : Word) {mark : Char}
    (hmark : isNameCharacter mark = false ∧ mark ≠ '&') (before rest : List Char) :
    (⟨before, name.text.toList ++ mark :: rest⟩ : Cursor).datasetName? =
      some (.ofLiteral name.text, ⟨name.text.toList.reverse ++ before, mark :: rest⟩) := by
  have hdot : (⟨before, name.text.toList ++ mark :: rest⟩ : Cursor).char? '.' = none :=
    Cursor.char?_eq_none (name.head_ne not_isNameCharacter_dot _) before
  unfold Cursor.datasetName?
  rw [hdot, name.read_append mark hmark]
  rfl

theorem read_append (table : TableName) {following : List Char} (hfollowing : EndsTable following)
    (before : List Char) :
    (⟨before, table.text ++ following⟩ : Cursor).datasetReference? =
      some (table.reference, ⟨table.text.reverse ++ before, following⟩) := by
  obtain ⟨⟨mark, rest, rfl, hmark, hampersand, hdot⟩, hbare⟩ := hfollowing
  have hoptions (before : List Char) :
      (⟨before, mark :: rest⟩ : Cursor).skipSpace.datasetOptions? = none := by
    have hopened : (⟨before, mark :: rest⟩ : Cursor).skipSpace.char? '(' = none :=
      if_neg (hbare before)
    simp [Cursor.datasetOptions?, hopened]
  obtain ⟨library, dataset⟩ := table
  cases library with
  | none =>
      have hqualifier : (⟨before, dataset.text.toList ++ mark :: rest⟩ : Cursor).qualifier? =
          none := by
        have hhead : (mark :: rest).head? ≠ some '.' := by simpa using hdot
        unfold Cursor.qualifier?
        rw [dataset.read_append mark ⟨hmark, hampersand⟩]
        simp [Cursor.char?_eq_none hhead]
      have hdataset := read_dataset dataset ⟨hmark, hampersand⟩ before rest
      simp [Cursor.datasetReference?, text, reference, optional, hqualifier, hdataset, hoptions]
  | some library =>
      have hqualifier (rest : List Char) :
          (⟨before, library.text.toList ++ '.' :: rest⟩ : Cursor).qualifier? =
            some (.ofLiteral library.text,
              ⟨'.' :: (library.text.toList.reverse ++ before), rest⟩) := by
        unfold Cursor.qualifier?
        rw [library.read_append '.' ⟨not_isNameCharacter_dot, by decide⟩]
        simp
      have hdataset (before : List Char) := read_dataset dataset ⟨hmark, hampersand⟩ before rest
      simp [Cursor.datasetReference?, text, reference, optional, hqualifier, hdataset, hoptions]

end TableName

namespace TableList

/-- What stands behind a table of a list: a further table or the end of the
statement. -/
theorem endsTable_further (tables : List TableName) (rest : List Char) :
    EndsTable (further tables ++ ';' :: rest) := by
  cases tables with
  | nil => exact endsTable_semicolon rest
  | cons table tables =>
      have hfollowing := table.endsTable_blank (further tables ++ ';' :: rest)
      rwa [← List.append_assoc] at hfollowing

theorem read_further (tables : List TableName) (before rest : List Char) :
    separatedTail Cursor.datasetReference? Cursor.space?
        ⟨before, further tables ++ ';' :: rest⟩ =
      (tables.map TableName.reference,
        ⟨(further tables).reverse ++ before, ';' :: rest⟩) := by
  have hend (before : List Char) : (⟨before, ';' :: rest⟩ : Cursor).space? = none :=
    Cursor.run?_of_halts (Cursor.halts_space_semicolon rest) before
  refine separatedTail_append (fun table _ => List.cons_ne_nil ' ' table.text) ?_ ?_ before
  · intro table later _ before
    have hspace := Cursor.space?_blank (table.halts_space (further later ++ ';' :: rest)) before
    have hitem := table.read_append (endsTable_further later rest) (' ' :: before)
    rw [List.cons_append, ← further, hspace, Option.bind_some, hitem]
    simp
  · intro before
    rw [hend, Option.bind_none]

theorem read_append (tables : TableList) (before rest : List Char) :
    (⟨before, tables.text ++ ';' :: rest⟩ : Cursor).datasetList =
      (tables.references, ⟨tables.text.reverse ++ before, ';' :: rest⟩) := by
  have hfirst := tables.first.read_append (endsTable_further tables.others rest) before
  unfold Cursor.datasetList separated text
  rw [List.append_assoc, hfirst]
  simp only [read_further]
  simp [references]

end TableList

end SasOutline
