import SasOutline.Proofs.MarkedWords
import SasOutline.Proofs.TableNames

/-!
# Tables separated by commas

In the statements of the `sql` procedure the tables of a list are separated by commas, with
any blanks on both sides of each comma.  Such a list ends where no comma follows, and it is
read table by table, as it was written.
-/

namespace SasOutline

/-! ## Commas -/

theorem comma?_append {front behind rest : List Char} (hfront : IsBlank front)
    (hbehind : IsBlank behind) (hrest : Halts isWhiteSpace rest) (before : List Char) :
    comma? ⟨before, front ++ ',' :: (behind ++ rest)⟩ =
      some ⟨behind.reverse ++ ',' :: (front.reverse ++ before), rest⟩ := by
  have hcomma : Halts isWhiteSpace (',' :: (behind ++ rest)) :=
    (halts_cons _ _ _).mpr (by decide)
  rw [comma?, Cursor.skipSpace, Cursor.skipWhile_append hfront hcomma, Cursor.char?_cons_self,
    Option.map_some, Cursor.skipSpace, Cursor.skipWhile_append hbehind hrest]

theorem comma?_eq_none {cursor : Cursor} (h : cursor.skipSpace.peek ≠ some ',') :
    comma? cursor = none := by
  rw [comma?, Cursor.char?, if_neg h]
  rfl

/-! ## Lists of tables -/

/-- A further table, with the blanks on both sides of the comma in front of it. -/
structure FurtherTable where
  front : List Char
  behind : List Char
  table : TableName
  isBlank_front : IsBlank front
  isBlank_behind : IsBlank behind

def FurtherTable.text (further : FurtherTable) : List Char :=
  further.front ++ ',' :: (further.behind ++ further.table.text)

structure TableEnumeration where
  first : TableName
  others : List FurtherTable

namespace TableEnumeration

def text (tables : TableEnumeration) : List Char :=
  tables.first.text ++ tables.others.flatMap FurtherTable.text

def references (tables : TableEnumeration) : List DatasetReference :=
  (tables.first :: tables.others.map FurtherTable.table).map TableName.reference

end TableEnumeration

/-- Blanks end the name in front of them. -/
theorem blanks_end_name {blanks : List Char} (hne : blanks ≠ []) (hblanks : IsBlank blanks)
    (rest : List Char) :
    ∃ mark more, blanks ++ rest = mark :: more ∧ isNameCharacter mark = false ∧ mark ≠ '&' ∧
      mark ≠ '.' := by
  cases blanks with
  | nil => contradiction
  | cons ch blanks =>
      have hblank := hblanks ch List.mem_cons_self
      exact ⟨ch, _, rfl, delimiter_ends_name (isDelimiter_of_blank hblank)⟩

/-- A list of tables that is read in front of this text ends there. -/
structure EndsEnumeration (following : List Char) : Prop where
  table : EndsTable following
  last : ∀ before, (⟨before, following⟩ : Cursor).skipSpace.peek ≠ some ','

theorem FurtherTable.endsTable (further : FurtherTable) (rest : List Char) :
    EndsTable (further.text ++ rest) := by
  have hwritten : further.text ++ rest =
      further.front ++ ',' :: (further.behind ++ (further.table.text ++ rest)) := by
    simp [FurtherTable.text]
  rw [hwritten]
  constructor
  · by_cases hfront : further.front = []
    · rw [hfront]
      exact ⟨',', _, rfl, by decide⟩
    · exact blanks_end_name hfront further.isBlank_front _
  · intro before
    have hcomma : Halts isWhiteSpace
        (',' :: (further.behind ++ (further.table.text ++ rest))) :=
      (halts_cons _ _ _).mpr (by decide)
    rw [Cursor.skipSpace, Cursor.skipWhile_append further.isBlank_front hcomma]
    simp [Cursor.peek]

section Reading

variable {following : List Char} (hfollowing : EndsEnumeration following)
include hfollowing

theorem endsTable_others (others : List FurtherTable) :
    EndsTable (others.flatMap FurtherTable.text ++ following) := by
  cases others with
  | nil => exact hfollowing.table
  | cons further others =>
      rw [List.flatMap_cons, List.append_assoc]
      exact further.endsTable _

theorem separatedTail_others (others : List FurtherTable) (before : List Char) :
    separatedTail Cursor.datasetReference? comma?
        ⟨before, others.flatMap FurtherTable.text ++ following⟩ =
      (others.map fun further => further.table.reference,
        ⟨(others.flatMap FurtherTable.text).reverse ++ before, following⟩) := by
  have hfilled (further : FurtherTable) : further.text ≠ [] := by simp [FurtherTable.text]
  refine separatedTail_append (fun further _ => hfilled further) ?_ ?_ before
  · intro further later _ before
    have hcomma := comma?_append further.isBlank_front further.isBlank_behind
      (further.table.halts_space (later.flatMap FurtherTable.text ++ following)) before
    have hitem (before : List Char) :=
      further.table.read_append (endsTable_others hfollowing later) before
    have hwritten : further.text ++ (later.flatMap FurtherTable.text ++ following) =
        further.front ++ ',' :: (further.behind ++
          (further.table.text ++ (later.flatMap FurtherTable.text ++ following))) := by
      simp [FurtherTable.text]
    rw [hwritten, hcomma, Option.bind_some, hitem]
    simp [FurtherTable.text]
  · intro before
    rw [comma?_eq_none (hfollowing.last before), Option.bind_none]

theorem TableEnumeration.read_append (tables : TableEnumeration) (before : List Char) :
    (⟨before, tables.text ++ following⟩ : Cursor).datasetEnumeration =
      (tables.references, ⟨tables.text.reverse ++ before, following⟩) := by
  have hfirst := tables.first.read_append (endsTable_others hfollowing tables.others) before
  unfold Cursor.datasetEnumeration separated text
  rw [List.append_assoc, hfirst]
  simp only [separatedTail_others hfollowing]
  simp [references, Function.comp_def]

end Reading

theorem TableEnumeration.semicolon_notMem (tables : TableEnumeration) : ';' ∉ tables.text := by
  have htable (table : TableName) : ';' ∉ table.text := table.not_mem_text (by decide) (by decide)
  rw [TableEnumeration.text, List.mem_append, List.mem_flatMap, not_or]
  refine ⟨htable tables.first, ?_⟩
  rintro ⟨further, -, hmem⟩
  simp [FurtherTable.text, htable, further.isBlank_front.semicolon_notMem,
    further.isBlank_behind.semicolon_notMem] at hmem

end SasOutline
