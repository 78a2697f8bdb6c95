import SasOutline.Proofs.CheckedSql
import SasOutline.Proofs.ScanTurns

/-!
# A scan at byte offsets

The rules report byte ranges, and the driver cuts the text into slices along
them: from the end of the last range to the start of the next, along the range,
and from the last range to the end of the match.  These slices are in order only
because the ranges of a match are.

A scan that checks every one of its steps never meets a fault and yields what
the scan of cursors yields.
-/

namespace SasOutline

/-! ## Rules -/

namespace ByteCursor

open Checked

def single {α : Type} (start : ByteCursor) (wrap : α → Node) (parsed : Checked (α × ByteCursor)) :
    Checked CheckedMatch := do
  let (value, rest) ← parsed
  return ⟨[⟨wrap value, start.offset, rest.offset⟩], rest⟩

def construct? (construct : Construct) (cursor : ByteCursor) : Checked CheckedMatch :=
  match construct with
  | .newline => cursor.single (fun _ : Unit => .newline) (do
      let stop ← cursor.newline?
      return ((), stop))
  | .macroVariable => cursor.single .macroVariable cursor.macroVariableDefinition?
  | .comment => cursor.single .comment cursor.comment?
  | .dataStep => cursor.single .dataStep cursor.dataStep?
  | .procedure => cursor.single .procedure cursor.procedure?
  | .sqlBlock => cursor.sqlBlock?
  | .sqlStatement => cursor.single .sqlStatement cursor.sqlStatement?
  | .createTable => cursor.single .procedure cursor.createTable?
  | .libraryBinding => cursor.single .libraryBinding cursor.libraryBinding?
  | .inclusion => cursor.single .inclusion cursor.inclusion?
  | .macroStart => cursor.single .macroStart cursor.macroStart?
  | .macroEnd => cursor.single (fun _ : Unit => .macroEnd) (do
      let stop ← cursor.macroEnd?
      return ((), stop))
  | .macroCall => cursor.single .macroCall cursor.macroCall?
  | .nothing => return ⟨[], cursor⟩

/-- The first rule with a match that reads something. -/
def firstMatch? (rules : List (String × Construct)) (cursor : ByteCursor) :
    Checked CheckedMatch :=
  match rules with
  | [] => failure
  | (_, construct) :: rules =>
      (do let found ← cursor.construct? construct
          if cursor.offset < found.rest.offset then return found else failure) <|>
        firstMatch? rules cursor

end ByteCursor

theorem findSome?_cons_orElse {α β : Type} (f : α → Option β) (first : α) (rest : List α) :
    (first :: rest).findSome? f = (f first <|> rest.findSome? f) := by
  rw [List.findSome?_cons]
  cases f first <;> rfl

namespace Stands

variable {α : Type} {text : String} {cursor : Cursor} {bytes : ByteCursor}

theorem single_agrees (h : Stands text cursor bytes) (wrap : α → Node)
    {parsed : Option (α × Cursor)} {checked : Checked (α × ByteCursor)}
    (hparsed : Agrees (Reads text) parsed checked) :
    Agrees (SameMatch text)
      (parsed.map fun (value, stop) => ConstructMatch.single cursor (wrap value) stop)
      (bytes.single wrap checked) := by
  rw [Option.map_eq_bind]
  apply hparsed.bindRead
  intro value stop stop' hstop
  refine Agrees.ofValue ⟨?_, hstop⟩
  rw [h.offset_eq, hstop.offset_eq]
  rfl

theorem bare_agrees (h : Stands text cursor bytes) (node : Node) {stop? : Option Cursor}
    {checked : Checked ByteCursor} (hstop : Agrees (Stands text) stop? checked) :
    Agrees (SameMatch text) (stop?.map (ConstructMatch.single cursor node))
      (bytes.single (fun _ : Unit => node) (do
        let stop ← checked
        return ((), stop))) := by
  have hread : Agrees (Reads text) (stop?.map fun stop => ((), stop)) (do
      let stop ← checked
      return ((), stop)) :=
    hstop.map fun _ _ hstands => ⟨rfl, hstands⟩
  have hsingle := h.single_agrees (fun _ => node) hread
  rwa [Option.map_map] at hsingle

theorem construct?_agrees (h : Stands text cursor bytes) (construct : Construct) :
    Agrees (SameMatch text) (construct.read? cursor) (bytes.construct? construct) := by
  cases construct with
  | newline => exact h.bare_agrees .newline h.newline?_agrees
  | macroVariable => exact h.single_agrees .macroVariable h.macroVariableDefinition?_agrees
  | comment => exact h.single_agrees .comment h.comment?_agrees
  | dataStep => exact h.single_agrees .dataStep h.dataStep?_agrees
  | procedure => exact h.single_agrees .procedure h.procedure?_agrees
  | sqlBlock => exact h.sqlBlock?_agrees
  | sqlStatement => exact h.single_agrees .sqlStatement h.sqlStatement?_agrees
  | createTable => exact h.single_agrees .procedure h.createTable?_agrees
  | libraryBinding => exact h.single_agrees .libraryBinding h.libraryBinding?_agrees
  | inclusion => exact h.single_agrees .inclusion h.inclusion?_agrees
  | macroStart => exact h.single_agrees .macroStart h.macroStart?_agrees
  | macroEnd => exact h.bare_agrees .macroEnd h.macroEnd?_agrees
  | macroCall => exact h.single_agrees .macroCall h.macroCall?_agrees
  | nothing => exact Agrees.ofValue ⟨rfl, h⟩

theorem firstMatch?_agrees (h : Stands text cursor bytes) (grammar : Grammar) :
    Agrees (SameMatch text) (grammar.firstMatch? cursor)
      (bytes.firstMatch? grammar.rules) := by
  unfold Grammar.firstMatch?
  induction grammar.rules with
  | nil => exact rfl
  | cons rule rules ih =>
      obtain ⟨name, construct⟩ := rule
      have hrule : Agrees (SameMatch text)
          ((construct.read? cursor).filter fun found => found.rest.remaining < cursor.remaining)
          (do let found ← bytes.construct? construct
              if bytes.offset < found.rest.offset then return found else failure) := by
        apply (h.construct?_agrees construct).filter
        intro found result hfound
        rw [h.offset_eq, hfound.stands.offset_eq, decide_eq_true_iff]
        exact h.inText.offset_lt_iff hfound.stands.inText
      rw [findSome?_cons_orElse]
      exact hrule.orElse ih

end Stands

/-! ## The driver -/

namespace ScanCounts

def unread (total : Nat) : ScanCounts := ⟨total, 0, 0, 0⟩

def addMatch (length : Nat) (counts : ScanCounts) : ScanCounts :=
  { counts with
    matched := length + counts.matched
    matchCount := counts.matchCount + 1 }

def addSkip (counts : ScanCounts) : ScanCounts :=
  { counts with skipped := counts.skipped + 1 }

def ofSteps (total : Nat) (steps : List ScanStep) : ScanCounts :=
  { total := total
    matched := steps.foldr (fun step count => step.matchedLength + count) 0
    skipped := steps.countP fun step => !step.isMatch
    matchCount := steps.countP ScanStep.isMatch }

theorem ofSteps_matched (total : Nat) (start : Cursor) (found : ConstructMatch)
    (steps : List ScanStep) :
    ofSteps total (.matched start found :: steps) =
      (ofSteps total steps).addMatch (start.textUntil found.rest).length := by
  simp [ofSteps, addMatch, ScanStep.matchedLength, ScanStep.isMatch, List.countP_cons]

theorem ofSteps_skipped (total : Nat) (ch : Char) (steps : List ScanStep) :
    ofSteps total (.skipped ch :: steps) = (ofSteps total steps).addSkip := by
  simp [ofSteps, addSkip, ScanStep.matchedLength, ScanStep.isMatch]

end ScanCounts

namespace ByteCursor

open Checked

/-- The nodes of a match with their spans, and the position behind the match.
`position` belongs to the byte `scanned`. -/
def placeItems (text : String) (position : Position) (scanned rest : Nat) :
    List ByteItem → Checked (List (Spanned Node) × Position)
  | [] => do
      let between ← slice text scanned rest
      return ([], position.advance between.toList)
  | item :: items => do
      let between ← slice text scanned item.start
      let start := position.advance between.toList
      let covered ← slice text item.start item.stop
      let stop := start.advance covered.toList
      let (placed, behind) ← placeItems text stop item.stop rest items
      return (⟨item.node, ⟨start, stop⟩⟩ :: placed, behind)

/-- The turns of the driver from a cursor on; `position` belongs to the byte
`scanned`. -/
def scanFrom (rules : List (String × Construct)) (position : Position) (scanned : Nat)
    (cursor : ByteCursor) : Checked (List (Spanned Node) × ScanCounts) := do
  if cursor.atEnd then return ([], .unread cursor.text.length)
  else
    match ← attempt (cursor.firstMatch? rules) with
    | some found =>
        let (placed, behind) ← placeItems cursor.text position scanned found.rest.offset found.items
        let read ← found.rest.since cursor
        if found.rest.remaining < cursor.remaining then
          let (more, counts) ← scanFrom rules behind found.rest.offset found.rest
          return (placed ++ more, counts.addMatch read.length)
        else fault (.stalled cursor.offset)
    | none =>
        match ← attempt cursor.bump? with
        | none => return ([], .unread cursor.text.length)
        | some (ch, next) =>
            if next.remaining < cursor.remaining then
              let (more, counts) ← scanFrom rules (position.advanceChar ch) next.offset next
              return (more, counts.addSkip)
            else fault (.stalled cursor.offset)
termination_by cursor.remaining

def scan (grammar : Grammar) (text : String) : Checked Scan := do
  let (nodes, counts) ← scanFrom grammar.rules .start 0 ⟨text, 0⟩
  return ⟨nodes, counts⟩

end ByteCursor

theorem placeItems_checked {text : String} {items : List MatchItem} {scanned rest : Cursor}
    (h : scanned.InText text) (hitems : LaidOut scanned items rest) (position : Position) :
    ByteCursor.placeItems text position scanned.offset rest.offset
        (items.map MatchItem.bytes) =
      pure (placeItems position scanned rest items) := by
  induction items generalizing scanned position with
  | nil =>
      have hslice := slice_of_reaches h hitems
      simp only [List.map_nil, ByteCursor.placeItems, hslice, pure_bind, placeItems,
        Cursor.stringUntil, String.toList_ofList]
  | cons item items ih =>
      obtain ⟨toStart, toStop, hlater⟩ := hitems
      have hstart := h.of_reaches toStart
      have hbetween := slice_of_reaches h toStart
      have hcovered := slice_of_reaches hstart toStop.reaches
      have hmore := ih (hstart.of_reaches toStop.reaches) hlater
      simp only [List.map_cons, ByteCursor.placeItems, MatchItem.bytes, hbetween, hcovered,
        pure_bind, placeItems, Cursor.stringUntil, String.toList_ofList]
      rw [hmore]
      rfl

namespace Stands

variable {text : String} {cursor : Cursor} {bytes : ByteCursor}

theorem atEnd_iff (h : Stands text cursor bytes) : bytes.atEnd = true ↔ cursor.rest = [] := by
  have hsize := h.inText.utf8ByteSize_eq
  have hempty : String.utf8Len cursor.rest = 0 ↔ cursor.rest = [] := by simp
  rw [h.bytes_eq, ByteCursor.atEnd, decide_eq_true_iff, ← hempty]
  simp only
  omega

theorem not_atEnd (h : Stands text cursor bytes) {later : Cursor}
    (passes : cursor.Passes later) : ¬ bytes.atEnd = true := by
  intro hend
  have hless := passes.remaining_lt
  simp [Cursor.remaining, h.atEnd_iff.1 hend] at hless

variable {grammar : Grammar} {position : Position} {more : List (Spanned Node)}
  {counts : ScanCounts}

theorem scanFrom_matched {found : ConstructMatch} (h : Stands text cursor bytes)
    (hfound : grammar.firstMatch? cursor = some found)
    (hmore : ∀ after, Stands text found.rest after →
      after.scanFrom grammar.rules (placeItems position cursor found.rest found.items).2
        found.rest.offset = pure (more, counts)) :
    bytes.scanFrom grammar.rules position cursor.offset =
      pure ((placeItems position cursor found.rest found.items).1 ++ more,
        counts.addMatch (cursor.textUntil found.rest).length) := by
  have passes := Grammar.firstMatch?_passes hfound
  have hmatch := (h.firstMatch?_agrees grammar).attempt
  rw [hfound] at hmatch
  obtain ⟨result?, hresult, hrelated⟩ := hmatch
  cases hrelated with
  | @some _ result hsame =>
      have hrest : Stands text found.rest result.rest := hsame.stands
      have hplaced := placeItems_checked h.inText (Grammar.firstMatch?_startsAt hfound) position
      have hread := h.since_eq hrest passes.reaches
      have hless := h.remaining_lt hrest passes.remaining_lt
      rw [ByteCursor.scanFrom, if_neg (h.not_atEnd passes), hresult, pure_bind]
      simp only [h.text_eq, hsame.items_eq, hrest.offset_eq, hplaced, hread, pure_bind,
        if_pos hless, hmore _ hrest, Cursor.stringUntil, String.length_ofList]

theorem scanFrom_skipped {after : Cursor} {ch : Char} (h : Stands text cursor bytes)
    (hnone : grammar.firstMatch? cursor = none) (hbump : cursor.bump? = some (ch, after))
    (hmore : ∀ next, Stands text after next →
      next.scanFrom grammar.rules (position.advanceChar ch) after.offset = pure (more, counts)) :
    bytes.scanFrom grammar.rules position cursor.offset = pure (more, counts.addSkip) := by
  have passes := Cursor.bump?_passes hbump
  have hmatch := (h.firstMatch?_agrees grammar).attempt
  rw [hnone] at hmatch
  obtain ⟨result?, hresult, hrelated⟩ := hmatch
  cases hrelated with
  | none =>
      have hread := h.bump?_agrees.attempt
      rw [hbump] at hread
      obtain ⟨read?, hread?, hrelated⟩ := hread
      cases hrelated with
      | @some _ read hread =>
          obtain ⟨ch', next⟩ := read
          obtain rfl : ch' = ch := hread.value_eq
          have hnext : Stands text after next := hread.stands
          have hless := h.remaining_lt hnext passes.remaining_lt
          rw [ByteCursor.scanFrom, if_neg (h.not_atEnd passes), hresult, pure_bind]
          simp only [hread?, pure_bind, hnext.offset_eq, if_pos hless, hmore _ hnext]

theorem scanFrom_eq (h : Stands text cursor bytes) :
    bytes.scanFrom grammar.rules position cursor.offset =
      pure (placeSteps position (grammar.steps cursor),
        ScanCounts.ofSteps text.length (grammar.steps cursor)) := by
  fun_induction Grammar.steps grammar cursor generalizing position bytes with
  | case1 cursor found hfound ih =>
      rw [ScanCounts.ofSteps_matched]
      exact h.scanFrom_matched hfound fun _ => ih
  | case2 cursor hnone ch after hbump ih =>
      rw [ScanCounts.ofSteps_skipped]
      exact h.scanFrom_skipped hnone hbump fun _ => ih
  | case3 cursor hnone hbump =>
      have hend := h.atEnd_iff.2 (Cursor.bump?_eq_none hbump)
      rw [ByteCursor.scanFrom, if_pos hend, h.text_eq]
      rfl

end Stands

theorem scan_eq (grammar : Grammar) (text : String) :
    ByteCursor.scan grammar text = pure (grammar.scan text) := by
  have hstart : Stands text (.ofText text) ⟨text, 0⟩ := ⟨Cursor.ofText_inText text, rfl⟩
  have hscan : ByteCursor.scanFrom grammar.rules .start 0 ⟨text, 0⟩ =
      pure (placeSteps .start (grammar.steps (.ofText text)),
        ScanCounts.ofSteps text.length (grammar.steps (.ofText text))) := hstart.scanFrom_eq
  unfold ByteCursor.scan
  rw [hscan]
  rfl

/-! ## Ranges -/

/-- The match of a construct at an offset lies between it and the end of the text,
and so do its items, in order and without overlap. -/
structure CheckedMatch.Within (text : String) (offset : Nat) (found : CheckedMatch) : Prop where
  rest_valid : (⟨found.rest.offset⟩ : String.Pos.Raw).IsValid text
  offset_lt : offset < found.rest.offset
  rest_le : found.rest.offset ≤ text.utf8ByteSize
  boundaries : ∀ item ∈ found.items, (⟨item.start⟩ : String.Pos.Raw).IsValid text ∧
    (⟨item.stop⟩ : String.Pos.Raw).IsValid text
  nonempty : ∀ item ∈ found.items, item.start < item.stop
  ordered : found.items.Pairwise fun first second => first.stop ≤ second.start
  inside : ∀ item ∈ found.items, offset ≤ item.start ∧ item.stop ≤ found.rest.offset

def ConstructMatch.bytes (text : String) (found : ConstructMatch) : CheckedMatch :=
  ⟨found.items.map MatchItem.bytes, ⟨text, found.rest.offset⟩⟩

namespace LaidOut

variable {text : String} {cursor rest : Cursor} {items : List MatchItem}

theorem passes (h : LaidOut cursor items rest) (hitems : items ≠ []) : cursor.Passes rest := by
  obtain ⟨item, hitem⟩ := List.exists_mem_of_ne_nil items hitems
  obtain ⟨toStart, toStop, toRest⟩ := h.item_inside hitem
  exact (toStart.trans_passes toStop).trans_reaches toRest

theorem ordered (h : LaidOut cursor items rest) :
    (items.map MatchItem.bytes).Pairwise fun first second => first.stop ≤ second.start := by
  induction items generalizing cursor with
  | nil => exact List.Pairwise.nil
  | cons first items ih =>
      obtain ⟨toStart, toStop, hitems⟩ := h
      rw [List.map_cons, List.pairwise_cons]
      constructor
      · intro second hsecond
        obtain ⟨item, hitem, rfl⟩ := List.mem_map.1 hsecond
        exact (hitems.item_inside hitem).1.offset_le
      · exact ih hitems

end LaidOut

theorem ConstructMatch.within {text : String} {cursor : Cursor} {found : ConstructMatch}
    (h : cursor.InText text) (hstarts : found.StartsAt cursor) (passes : cursor.Passes found.rest) :
    (found.bytes text).Within text cursor.offset := by
  have hrest := h.of_reaches passes.reaches
  have hitems : ∀ item ∈ (found.bytes text).items, ∃ source ∈ found.items,
      source.bytes = item := fun item hitem => List.mem_map.1 hitem
  constructor
  · exact hrest.isValid_offset
  · exact passes.offset_lt
  · have hsize := hrest.utf8ByteSize_eq
    change found.rest.offset ≤ text.utf8ByteSize
    omega
  · intro item hitem
    obtain ⟨source, hsource, rfl⟩ := hitems item hitem
    obtain ⟨toStart, toStop, -⟩ := hstarts.item_inside hsource
    have hstart := h.of_reaches toStart
    exact ⟨hstart.isValid_offset, (hstart.of_reaches toStop.reaches).isValid_offset⟩
  · intro item hitem
    obtain ⟨source, hsource, rfl⟩ := hitems item hitem
    exact (hstarts.item_inside hsource).2.1.offset_lt
  · exact hstarts.ordered
  · intro item hitem
    obtain ⟨source, hsource, rfl⟩ := hitems item hitem
    obtain ⟨toStart, -, toRest⟩ := hstarts.item_inside hsource
    exact ⟨toStart.offset_le, toRest.offset_le⟩

/-- All constructs but one read something: they yield a node with text of its own,
or a block behind the name of its procedure. -/
theorem Construct.read?_passes {construct : Construct} (hreads : construct ≠ .nothing)
    {cursor : Cursor} {found : ConstructMatch} (h : construct.read? cursor = some found) :
    cursor.Passes found.rest := by
  have hstarts := read?_startsAt h
  cases construct with
  | nothing => contradiction
  | sqlBlock => exact (Cursor.sqlBlock?_startsAt h).2
  | _ =>
      apply hstarts.passes
      obtain ⟨read, -, rfl⟩ := Option.map_eq_some_iff.1 h
      exact List.cons_ne_nil _ _

theorem SameMatch.eq_bytes {text : String} {found : ConstructMatch} {result : CheckedMatch}
    (h : SameMatch text found result) : result = found.bytes text := by
  obtain ⟨items, rest⟩ := result
  obtain rfl : items = found.items.map MatchItem.bytes := h.items_eq
  obtain rfl : rest = ⟨text, found.rest.offset⟩ := h.stands.bytes_eq
  rfl

theorem Agrees.eq_ofOption {text : String} {found? : Option ConstructMatch}
    {checked : Checked CheckedMatch} (h : Agrees (SameMatch text) found? checked) :
    checked = Checked.ofOption (found?.map (ConstructMatch.bytes text)) := by
  cases found? with
  | none => exact h
  | some found =>
      obtain ⟨result, hresult, hsame⟩ := h
      rw [hresult, hsame.eq_bytes]
      rfl

theorem Cursor.exists_inText {text : String} (place : text.Pos) :
    ∃ cursor : Cursor, cursor.InText text ∧ cursor.offset = place.offset.byteIdx := by
  obtain ⟨first, second, hsplit, hoffset⟩ :=
    String.Pos.Raw.isValid_iff_exists_append.1 place.isValid
  refine ⟨⟨first.toList.reverse, second.toList⟩, ⟨first.toList, ?_, ?_⟩, ?_⟩
  · rw [hsplit, ofText, String.toList_append]
  · simp [ofText]
  · rw [offset_eq_utf8Len, String.utf8Len_reverse, String.utf8Len_toList, hoffset]
    rfl

/-- Every rule can be read at every boundary of every text without a fault, and so
can the whole text: no slice is reversed, out of range or off a boundary, and no
jump leads back, out of the text or into a character. -/
theorem Grammar.full_reads_checked (text : String) :
    (∀ place : text.Pos, ∀ rule ∈ full.rules, ∃ cursor,
      Cursor.seek? text place.offset.byteIdx = some cursor ∧
      ByteCursor.construct? rule.2 ⟨text, place.offset.byteIdx⟩ =
        Checked.ofOption ((rule.2.read? cursor).map (ConstructMatch.bytes text)) ∧
      ∀ found, rule.2.read? cursor = some found →
        (found.bytes text).Within text place.offset.byteIdx) ∧
    ∀ grammar : Grammar, ByteCursor.scan grammar text = pure (grammar.scan text) := by
  constructor
  · intro place rule hrule
    obtain ⟨cursor, hcursor, hoffset⟩ := Cursor.exists_inText place
    have hstands : Stands text cursor ⟨text, cursor.offset⟩ := Stands.ofInText hcursor
    have hreads : ∀ rule ∈ full.rules, rule.2 ≠ .nothing := by decide
    rw [← hoffset]
    refine ⟨cursor, hcursor.seek?_offset, (hstands.construct?_agrees rule.2).eq_ofOption, ?_⟩
    intro found hfound
    exact ConstructMatch.within hcursor (Construct.read?_startsAt hfound)
      (Construct.read?_passes (hreads rule hrule) hfound)
  · intro grammar
    exact scan_eq grammar text

/-- A block behind a comment, with characters of two bytes in both. -/
def commentedBlock : String :=
  "/*é*/ proc sql; select 'é'; create table a as select * from b; quit;"

theorem commentedBlock_reads_checked :
    ∃ found, ByteCursor.construct? .sqlBlock ⟨commentedBlock, 7⟩ = pure found ∧
      found.Within commentedBlock 7 ∧
      found.items.map (fun item => (item.start, item.stop)) = [(17, 29), (30, 64)] ∧
      found.rest.offset = 70 := by
  let place : commentedBlock.Pos := ⟨⟨7⟩, by decide +kernel⟩
  obtain ⟨cursor, hseek, hchecked, hwithin⟩ :=
    (Grammar.full_reads_checked commentedBlock).1 place ("sql block", .sqlBlock) (by decide)
  have hread : (Construct.sqlBlock.read? cursor).map (fun found =>
      (found.items.map fun item => (item.start.offset, item.stop.offset), found.rest.offset)) =
        some ([(17, 29), (30, 64)], 70) := by
    have hblock : ((Cursor.seek? commentedBlock 7).bind fun cursor =>
        (Construct.sqlBlock.read? cursor).map fun found =>
          (found.items.map fun item => (item.start.offset, item.stop.offset),
            found.rest.offset)) = some ([(17, 29), (30, 64)], 70) := by decide +kernel
    rw [hseek] at hblock
    exact hblock
  obtain ⟨found, hfound, hranges⟩ := Option.map_eq_some_iff.1 hread
  obtain ⟨hitems, hrest⟩ := Prod.mk.inj hranges
  refine ⟨found.bytes commentedBlock, ?_, hwithin found hfound, ?_, hrest⟩
  · rw [hchecked, hfound]
    rfl
  · rw [← hitems]
    exact List.map_map

end SasOutline
