import SasOutline.ConstructMatch
import SasOutline.Proofs.CheckedSteps
import SasOutline.Proofs.MatchLayout
import SasOutline.SqlStatements

/-!
# Statements of the `sql` procedure at byte offsets

A statement runs through its semicolon, which is found in the text behind the
cursor and takes one byte.  Whether a statement is the `quit` that ends a block
is decided on its last four bytes, and those may well split a character: such a
statement has no tail to compare and is not a `quit`.
-/

namespace SasOutline

namespace Checked

def checkedSub (minuend subtrahend : Nat) : Option Nat :=
  if subtrahend ≤ minuend then some (minuend - subtrahend) else none

/-- The bytes of a text from `start` on, if they begin between two characters. -/
def trailing? (text : String) (start : Nat) : Option String :=
  if (⟨start⟩ : String.Pos.Raw).IsValid text then
    some (String.Pos.Raw.extract text ⟨start⟩ ⟨text.utf8ByteSize⟩)
  else none

def isQuit (statement : String) : Bool :=
  ((checkedSub statement.utf8ByteSize 4).bind (trailing? statement)).any
    fun tail => equalIgnoringCase tail "quit"

theorem trailing?_append (first second : List Char) :
    trailing? (String.ofList (first ++ second)) (String.utf8Len first) =
      some (String.ofList second) := by
  have hsize : (String.ofList (first ++ second)).utf8ByteSize =
      String.utf8Len first + String.utf8Len second := by
    rw [← String.utf8Len_toList, String.toList_ofList, String.utf8Len_append]
  have hextract := String.extract_of_valid first second []
  rw [List.append_nil] at hextract
  unfold trailing?
  rw [if_pos (isValid_utf8Len first second), hsize, hextract]

theorem trailing?_eq_some {text : List Char} {start : Nat} {tail : String}
    (h : trailing? (String.ofList text) start = some tail) :
    ∃ first, text = first ++ tail.toList := by
  by_cases hvalid : (⟨start⟩ : String.Pos.Raw).IsValid (String.ofList text)
  · obtain ⟨first, second, hsplit, hstart⟩ := exists_split_of_isValid hvalid
    rw [hsplit, hstart, trailing?_append] at h
    obtain rfl := Option.some.inj h
    rw [String.toList_ofList]
    exact ⟨first, hsplit⟩
  · unfold trailing? at h
    rw [if_neg hvalid] at h
    contradiction

end Checked

/-! ## The end of a block -/

def EndsInQuit (text : List Char) : Prop :=
  ∃ first tail, text = first ++ tail ∧ tail.map Char.toLower = "quit".toList

theorem length_of_quit {tail : List Char} (h : tail.map Char.toLower = "quit".toList) :
    tail.length = 4 := by
  simpa using congrArg List.length h

/-- The letters of `quit` are ASCII in either case, so they take four bytes. -/
theorem utf8Len_of_quit {tail : List Char} (h : tail.map Char.toLower = "quit".toList) :
    String.utf8Len tail = 4 := by
  have hascii : IsAscii tail := by
    have hquit : IsAscii "quit".toList := by decide
    apply hquit.of_map_toLower
    rw [h]
    decide
  rw [utf8Len_of_ascii hascii, length_of_quit h]

theorem equalIgnoringCase_quit (tail : List Char) :
    equalIgnoringCase (String.ofList tail) "quit" = true ↔
      tail.map Char.toLower = "quit".toList := by
  have hquit : "quit".toList.map Char.toLower = "quit".toList := by decide
  unfold equalIgnoringCase
  rw [beq_iff_eq, String.toList_ofList, hquit]

theorem endsInQuit_iff (text : List Char) :
    endsInQuit text = true ↔ EndsInQuit (trimEnd text) := by
  unfold endsInQuit
  rw [beq_iff_eq]
  constructor
  · intro hlast
    refine ⟨((trimEnd text).reverse.drop 4).reverse, ((trimEnd text).reverse.take 4).reverse,
      ?_, ?_⟩
    · rw [← List.reverse_append, List.take_append_drop, List.reverse_reverse]
    · rw [List.map_reverse, hlast]
      decide
  · intro ⟨first, tail, hsplit, htail⟩
    have htake : (trimEnd text).reverse.take 4 = tail.reverse := by
      have hlength : tail.reverse.length = 4 := by
        rw [List.length_reverse, length_of_quit htail]
      rw [hsplit, List.reverse_append, List.take_left' hlength]
    rw [htake, List.map_reverse, htail]
    decide

theorem isQuit_iff (text : List Char) :
    Checked.isQuit (String.ofList text) = true ↔ EndsInQuit text := by
  constructor
  · intro hquit
    unfold Checked.isQuit at hquit
    cases htail : (Checked.checkedSub (String.ofList text).utf8ByteSize 4).bind
        (Checked.trailing? (String.ofList text)) with
    | none =>
        rw [htail] at hquit
        contradiction
    | some tail =>
        rw [htail] at hquit
        obtain ⟨start, -, htrailing⟩ := Option.bind_eq_some_iff.1 htail
        obtain ⟨first, hsplit⟩ := Checked.trailing?_eq_some htrailing
        refine ⟨first, tail.toList, hsplit, ?_⟩
        apply (equalIgnoringCase_quit tail.toList).1
        rwa [String.ofList_toList]
  · intro ⟨first, tail, hsplit, htail⟩
    have hbytes := utf8Len_of_quit htail
    have hsize : (String.ofList text).utf8ByteSize = String.utf8Len first + 4 := by
      rw [← String.utf8Len_toList, String.toList_ofList, hsplit, String.utf8Len_append, hbytes]
    have hstart : Checked.checkedSub (String.ofList text).utf8ByteSize 4 =
        some (String.utf8Len first) := by
      unfold Checked.checkedSub
      rw [hsize, if_pos (by omega), Nat.add_sub_cancel]
    unfold Checked.isQuit
    rw [hstart, hsplit, Option.bind_some, Checked.trailing?_append]
    exact (equalIgnoringCase_quit tail).2 htail

/-! ## Statements -/

/-- A node with the offsets of its first byte and behind its last. -/
structure ByteItem where
  node : Node
  start : Nat
  stop : Nat
  deriving DecidableEq

def MatchItem.bytes (item : MatchItem) : ByteItem :=
  ⟨item.node, item.start.offset, item.stop.offset⟩

structure CheckedMatch where
  items : List ByteItem
  rest : ByteCursor
  deriving DecidableEq

namespace ByteCursor

open Checked

def pastSemicolon? (cursor : ByteCursor) : Checked ByteCursor := do
  let rest ← cursor.rest
  let index ← ofOption (indexOf? rest (· == ';'))
  cursor.jump (cursor.offset + index + 1)

/-- The offset of the next semicolon, or the end of the text. -/
def statementEnd (cursor : ByteCursor) : Checked Nat := do
  let rest ← cursor.rest
  match indexOf? rest (· == ';') with
  | some index => return cursor.offset + index
  | none => return cursor.text.utf8ByteSize

def fromClause? (cursor : ByteCursor) : Checked (List DatasetReference × ByteCursor) := do
  let limit ← cursor.statementEnd
  let found ← cursor.findBefore? Pattern.fromClause limit
  let start ← cursor.jump found.stop
  start.datasetEnumeration

def createTable? (cursor : ByteCursor) : Checked (Procedure × ByteCursor) := do
  let create ← cursor.word? "create"
  let start ← create.space?
  let table ← start.word? "table"
  let start ← table.skipSpace
  let (outputs, stop) ← start.datasetEnumeration
  let stop ← stop.skipSpace
  let query ← stop.word? "as"
  let (inputs, stop) ← query.repeated fromClause? (· ++ ·) []
  let stop ← stop.pastSemicolon?
  return (⟨"sql", inputs, outputs⟩, stop)

def sqlStatement? (cursor : ByteCursor) : Checked (SqlStatement × ByteCursor) := do
  let rest ← cursor.rest
  let index ← ofOption (indexOf? rest (· == ';'))
  let text ← slice rest 0 (index + 1)
  let statement ← slice text 0 index
  if isQuit (String.ofList (trimEnd statement.toList)) then failure
  else
    let stop ← cursor.jump (cursor.offset + index + 1)
    return (⟨text⟩, stop)

def sqlItem? (cursor : ByteCursor) : Checked (ByteItem × ByteCursor) := do
  let (node, stop) ←
    (do let (procedure, stop) ← cursor.createTable?
        return (Node.procedure procedure, stop)) <|>
    (do let (statement, stop) ← cursor.sqlStatement?
        return (Node.sqlStatement statement, stop))
  return (⟨node, cursor.offset, stop.offset⟩, stop)

def sqlBlock? (cursor : ByteCursor) : Checked CheckedMatch := do
  let keyword ← cursor.word? "proc"
  let start ← keyword.space?
  let kind ← start.word? "sql"
  let body ← kind.pastSemicolon?
  let start ← body.skipSpace
  let (items, stop) ← start.separated sqlItem? skipSpace
  let quit ← stop.find? Pattern.quit
  let rest ← stop.jump quit.stop
  return ⟨items, rest⟩

end ByteCursor

namespace Cursor

/-- The index of the semicolon that a text is read through. -/
structure SemicolonAt (cursor : Cursor) (found : List Char × Cursor) (index : Nat) : Prop where
  reaches : cursor.Reaches found.2
  textUntil_eq : cursor.textUntil found.2 = found.1 ++ [';']
  index_eq : index = String.utf8Len found.1

theorem SemicolonAt.utf8Len_eq {cursor : Cursor} {found : List Char × Cursor} {index : Nat}
    (h : cursor.SemicolonAt found index) :
    String.utf8Len (cursor.textUntil found.2) = index + 1 := by
  rw [h.textUntil_eq, h.index_eq, String.utf8Len_append]
  rfl

theorem indexOf?_semicolon (cursor : Cursor) :
    Checked.indexOf? (String.ofList cursor.rest) (· == ';') =
      if (cursor.skipWhile (· != ';')).atEnd then none
      else some (String.utf8Len (cursor.textUntil (cursor.skipWhile (· != ';')))) :=
  cursor.indexOf?_rest (· == ';')

theorem char?_skipWhile_eq_none {cursor : Cursor} {mark : Char}
    (h : (cursor.skipWhile (· != mark)).char? mark = none) :
    (cursor.skipWhile (· != mark)).atEnd = true := by
  have hhalts := halts_dropWhile (· != mark) cursor.rest
  rw [skipWhile_eq] at h ⊢
  cases hrest : cursor.rest.dropWhile (· != mark) with
  | nil => rfl
  | cons ch rest =>
      rw [hrest] at h hhalts
      have hch : ch = mark := by simpa using hhalts
      rw [hch, char?_cons_self] at h
      contradiction

theorem through?_agrees (cursor : Cursor) :
    Agrees cursor.SemicolonAt (cursor.through? ';')
      (Checked.ofOption (Checked.indexOf? (String.ofList cursor.rest) (· == ';'))) := by
  let stop := cursor.skipWhile (· != ';')
  have toStop : cursor.Reaches stop := cursor.skipWhile_reaches _
  have hthrough : cursor.through? ';' =
      (stop.char? ';').map fun later => (cursor.textUntil stop, later) := rfl
  rw [indexOf?_semicolon, hthrough]
  cases hchar : stop.char? ';' with
  | none =>
      rw [if_pos (char?_skipWhile_eq_none hchar)]
      exact rfl
  | some later =>
      have hend : ¬ stop.atEnd = true := by
        simp [atEnd, (char?_eq_some hchar).1]
      have toLater := (char?_passes hchar).reaches
      rw [if_neg hend]
      refine Agrees.ofValue ⟨toStop.trans toLater, ?_, rfl⟩
      rw [textUntil_trans toStop toLater, char?_textUntil hchar]

end Cursor

section Renamed

variable {α β : Type} (f : α → β) (item : Reader α) (separator : Cursor → Option Cursor)

theorem separatedTail_map (cursor : Cursor) :
    separatedTail (fun start => (item start).map (Prod.map f id)) separator cursor =
      Prod.map (List.map f) id (separatedTail item separator cursor) := by
  have hread : ∀ cursor : Cursor, (separator cursor).bind
      (fun start => (item start).map (Prod.map f id)) =
        ((separator cursor).bind item).map (Prod.map f id) := by
    intro cursor
    cases separator cursor <;> rfl
  fun_induction separatedTail item separator cursor with
  | case1 cursor hnone =>
      rw [separatedTail, hread, hnone]
      rfl
  | case2 cursor next after hpair hless more stop htail ih =>
      rw [htail] at ih
      rw [separatedTail, hread, hpair]
      simp only [Option.map_some, Prod.map_apply, id, if_pos hless, ih]
      rfl
  | case3 cursor next after hpair hless =>
      rw [separatedTail, hread, hpair]
      simp only [Option.map_some, Prod.map_apply, id, if_neg hless]
      rfl

theorem separated_map (cursor : Cursor) :
    separated (fun start => (item start).map (Prod.map f id)) separator cursor =
      Prod.map (List.map f) id (separated item separator cursor) := by
  unfold separated
  cases hitem : item cursor with
  | none =>
      simp only [hitem, Option.map_none]
      rfl
  | some read =>
      simp only [hitem, Option.map_some, Prod.map_apply, id, separatedTail_map]
      rfl

end Renamed

namespace Stands

variable {text : String} {cursor : Cursor} {bytes : ByteCursor}

theorem pastSemicolon?_agrees (h : Stands text cursor bytes) :
    Agrees (fun found next => Stands text found.2 next) (cursor.through? ';')
      bytes.pastSemicolon? := by
  unfold ByteCursor.pastSemicolon?
  rw [h.rest_eq, pure_bind, ← Option.bind_fun_some (cursor.through? ';')]
  apply cursor.through?_agrees.bind
  intro found index hfound
  have hjump := h.jump_by_agrees hfound.reaches
  rw [hfound.utf8Len_eq] at hjump
  exact hjump

theorem statementEnd_eq (h : Stands text cursor bytes) :
    bytes.statementEnd = pure (cursor.skipWhile (· != ';')).offset := by
  have toEnd := cursor.skipWhile_reaches (· != ';')
  unfold ByteCursor.statementEnd
  rw [h.rest_eq, pure_bind, cursor.indexOf?_semicolon]
  by_cases hend : (cursor.skipWhile (· != ';')).atEnd = true
  · have hnothing : (cursor.skipWhile (· != ';')).rest = [] := by simpa [Cursor.atEnd] using hend
    have hsize := (h.later_inText toEnd).utf8ByteSize_eq
    rw [hnothing, String.utf8Len_nil, Nat.add_zero] at hsize
    simp only [if_pos hend]
    rw [h.bytes_eq, hsize]
  · simp only [if_neg hend]
    rw [h.offset_eq, toEnd.offset_eq]

theorem fromClause?_agrees (h : Stands text cursor bytes) :
    Agrees (Reads text) cursor.fromClause? bytes.fromClause? := by
  unfold ByteCursor.fromClause?
  rw [h.statementEnd_eq, pure_bind]
  have hlimit := h.later_inText (cursor.skipWhile_reaches (· != ';'))
  apply (h.findBefore?_agrees (Pattern.spaced_advances "from").reaches hlimit).bind
  intro found result hfound
  apply (h.jumpBehind_agrees hfound).bindValue
  intro start hstart
  exact hstart.datasetEnumeration_agrees

theorem fromClauses_agrees (h : Stands text cursor bytes) :
    Agrees (Reads text) (some cursor.fromClauses)
      (bytes.repeated ByteCursor.fromClause? (· ++ ·) []) :=
  repeated_agrees Cursor.fromClauses (fun _ _ => fromClause?_agrees)
    (fun _ _ _ => Cursor.fromClause?_passes)
    (fun _ => Cursor.fromClauses_of_none) (fun _ _ _ => Cursor.fromClauses_of_some) h

theorem createTable?_agrees (h : Stands text cursor bytes) :
    Agrees (Reads text) cursor.createTable? bytes.createTable? := by
  apply (h.word?_agrees (by decide)).bind
  intro create create' hcreate
  apply hcreate.space?_agrees.bind
  intro start start' hstart
  apply (hstart.word?_agrees (by decide)).bind
  intro table table' htable
  apply htable.skipSpace_agrees.bindValue
  intro first hfirst
  apply hfirst.datasetEnumeration_agrees.bindReadValue
  intro stop hstop
  apply hstop.skipSpace_agrees.bindValue
  intro blank hblank
  apply (hblank.word?_agrees (by decide)).bind
  intro query query' hquery
  apply hquery.fromClauses_agrees.bindReadValue
  intro inputs hinputs
  apply hinputs.pastSemicolon?_agrees.bind
  intro found last hlast
  exact Agrees.read hlast

theorem sqlStatement?_agrees (h : Stands text cursor bytes) :
    Agrees (Reads text) cursor.sqlStatement? bytes.sqlStatement? := by
  unfold ByteCursor.sqlStatement?
  rw [h.rest_eq, pure_bind]
  apply cursor.through?_agrees.bind
  intro (statement, stop) index hfound
  have htext := Cursor.slice_rest_of_reaches hfound.reaches
  have hstatement : Checked.slice (cursor.stringUntil stop) 0 index =
      pure (String.ofList statement) := by
    have hleading := slice_leading statement [';']
    rwa [← hfound.textUntil_eq, ← hfound.index_eq] at hleading
  have hjump := h.jump_by_agrees hfound.reaches
  rw [hfound.utf8Len_eq] at htext hjump
  simp only [htext, hstatement, pure_bind, String.toList_ofList]
  have hquit : Checked.isQuit (String.ofList (trimEnd statement)) = true ↔
      endsInQuit statement = true := by
    rw [isQuit_iff, endsInQuit_iff]
  simp only [hquit]
  apply Agrees.ite
  · intro hends
    exact rfl
  · intro hends
    apply hjump.bindValue
    intro last hlast
    exact Agrees.read hlast

/-! ## Blocks -/

theorem sqlItem?_agrees (h : Stands text cursor bytes) :
    Agrees (Reads text) (cursor.sqlItem?.map (Prod.map MatchItem.bytes id)) bytes.sqlItem? := by
  let wrap (read : Node × Cursor) : ByteItem × Cursor :=
    (⟨read.1, cursor.offset, read.2.offset⟩, read.2)
  have hitem : cursor.sqlItem?.map (Prod.map MatchItem.bytes id) =
      (cursor.createTable?.map (Prod.map Node.procedure id) <|>
        cursor.sqlStatement?.map (Prod.map Node.sqlStatement id)) >>=
          fun read => some (wrap read) := by
    unfold Cursor.sqlItem?
    cases cursor.createTable? <;> cases cursor.sqlStatement? <;> rfl
  rw [hitem]
  apply ((h.createTable?_agrees.mapRead Node.procedure).orElse
    (h.sqlStatement?_agrees.mapRead Node.sqlStatement)).bindRead
  intro node stop stop' hstop
  simp only [h.offset_eq, hstop.offset_eq]
  exact Agrees.read hstop

end Stands

structure SameMatch (text : String) (found : ConstructMatch) (result : CheckedMatch) : Prop where
  items_eq : result.items = found.items.map MatchItem.bytes
  stands : Stands text found.rest result.rest

namespace Stands

variable {text : String} {cursor : Cursor} {bytes : ByteCursor}

theorem sqlItems_agrees (h : Stands text cursor bytes) :
    Agrees (Reads text)
      (some (Prod.map (List.map MatchItem.bytes) id
        (separated Cursor.sqlItem? (fun start => some start.skipSpace) cursor)))
      (bytes.separated ByteCursor.sqlItem? ByteCursor.skipSpace) := by
  rw [← separated_map]
  refine separated_agrees (fun _ _ h => h.sqlItem?_agrees) (fun _ _ h => h.skipSpace_agrees)
    ?_ ?_ h
  · intro cursor value after hread
    obtain ⟨⟨item, stop⟩, hitem, heq⟩ := Option.map_eq_some_iff.1 hread
    obtain ⟨-, rfl⟩ := Prod.mk.inj heq
    exact (Cursor.sqlItem?_span hitem).2.2.reaches
  · intro cursor after hskip
    obtain rfl := Option.some.inj hskip
    exact cursor.skipSpace_reaches

theorem sqlBlock?_agrees (h : Stands text cursor bytes) :
    Agrees (SameMatch text) cursor.sqlBlock? bytes.sqlBlock? := by
  apply (h.word?_agrees (by decide)).bind
  intro keyword keyword' hkeyword
  apply hkeyword.space?_agrees.bind
  intro start start' hstart
  apply (hstart.word?_agrees (by decide)).bind
  intro kind kind' hkind
  apply hkind.pastSemicolon?_agrees.bind
  intro found body hbody
  apply hbody.skipSpace_agrees.bindValue
  intro first hfirst
  apply hfirst.sqlItems_agrees.bindReadValue
  intro stop hstop
  apply (hstop.find?_agrees (Pattern.terminated_advances "quit").reaches).bind
  intro quit quit' hquit
  apply (hstop.jumpBehind_agrees hquit).bindValue
  intro rest hrest
  exact Agrees.ofValue ⟨rfl, hrest⟩

end Stands

end SasOutline
