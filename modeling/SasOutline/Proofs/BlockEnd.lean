import SasOutline.Proofs.CheckedSql
import SasOutline.Proofs.DataStepDivision
import SasOutline.Proofs.NodeOrigin
import SasOutline.Proofs.SqlBlocks

/-!
# Where a block of the `sql` procedure ends

A block ends at a `quit` behind its opening statement.  A statement that is kept as text never
holds a `quit`, but a `create table` statement runs through its semicolon whatever stands in
front of it, so it may read through the `quit` that was meant to end the block.

No other `quit` is passed over: the block ends at the first one that no `create table`
statement of the block has read.  It ends at the first `quit` of all exactly when no item
holds one.
-/

namespace SasOutline

/-! ## The words that end a block -/

theorem quit_reads {cursor stop : Cursor} (h : Pattern.quit cursor = some stop) :
    ∃ written blanks, written.map Char.toLower = "quit".toList ∧ IsBlank blanks ∧
      cursor.Reads (written ++ blanks ++ [';']) stop := by
  obtain ⟨behind, hopening, hsemicolon⟩ := Option.bind_eq_some_iff.1 h
  obtain ⟨-, written, hwritten, hletters⟩ := Pattern.opening_eq_some hopening
  obtain ⟨blanks, hblanks, hskipped⟩ := behind.skipSpace_reads
  have hlower : written.map Char.toLower = "quit".toList :=
    map_toLower_of_folded hletters (by decide) (by decide)
  exact ⟨written, blanks, hlower, hblanks,
    (hwritten.trans hskipped).trans (Cursor.char?_reads hsemicolon)⟩

section Written

variable {written blanks : List Char} (hwritten : written.map Char.toLower = "quit".toList)
  (hblanks : IsBlank blanks)
include hwritten hblanks

theorem semicolon_notMem_quit : ';' ∉ written ++ blanks := by
  rw [List.mem_append, not_or]
  refine ⟨?_, hblanks.semicolon_notMem⟩
  intro hmem
  have hletter : Char.toLower ';' ∈ written.map Char.toLower := List.mem_map_of_mem hmem
  rw [hwritten] at hletter
  exact absurd hletter (by decide)

/-- A text whose last word is `quit` is recognised by its last letters. -/
theorem endsInQuit_append (before : List Char) :
    endsInQuit (before ++ (written ++ blanks)) = true := by
  have hblank : ∀ ch ∈ blanks.reverse, isWhiteSpace ch = true :=
    fun ch hch => hblanks ch (List.mem_reverse.mp hch)
  have hletters : Halts isWhiteSpace (written.reverse ++ before.reverse) := by
    have hlast : written.getLast?.map Char.toLower = some 't' := by
      rw [← List.getLast?_map, hwritten]
      decide
    obtain ⟨last, hlast, hlower⟩ := Option.map_eq_some_iff.mp hlast
    rw [Halts, List.head?_append, List.head?_reverse, hlast]
    simp only [Option.some_or, Option.any_some]
    rw [← isWhiteSpace_toLower, hlower]
    decide
  have htrimmed : trimEnd (before ++ (written ++ blanks)) = before ++ written := by
    rw [trimEnd, List.reverse_append, List.reverse_append, List.append_assoc,
      Cursor.dropWhile_append_of_halts hblank hletters, List.reverse_append,
      List.reverse_reverse, List.reverse_reverse]
  rw [endsInQuit_iff, htrimmed]
  exact ⟨before, written, rfl, hwritten⟩

end Written

/-! ## Statements that end in a semicolon -/

namespace Cursor

theorem through?_eq_some {cursor stop : Cursor} {mark : Char} {text : List Char}
    (h : cursor.through? mark = some (text, stop)) :
    mark ∉ text ∧ cursor.Reads (text ++ [mark]) stop := by
  obtain ⟨later, hmark, heq⟩ := Option.map_eq_some_iff.1 h
  obtain ⟨rfl, rfl⟩ := Prod.mk.inj heq
  refine ⟨?_, ((cursor.skipWhile_reaches _).reads).trans (char?_reads hmark)⟩
  intro hmem
  rw [textUntil_skipWhile] at hmem
  simpa using List.mem_takeWhile_imp hmem

theorem createTable?_reads {cursor later : Cursor} {procedure : Procedure}
    (h : cursor.createTable? = some (procedure, later)) :
    ∃ text, cursor.Reads (text ++ [';']) later := by
  obtain ⟨middle, text, toMiddle, hthrough⟩ := createTable?_through h
  have hread := toMiddle.reaches.reads.trans (through?_eq_some hthrough).2
  rw [← List.append_assoc] at hread
  exact ⟨_, hread⟩

/-- A statement that is kept as text has no other semicolon, and its last word is not `quit`. -/
theorem sqlStatement?_reads {cursor later : Cursor} {statement : SqlStatement}
    (h : cursor.sqlStatement? = some (statement, later)) :
    ∃ text, cursor.Reads (text ++ [';']) later ∧ ';' ∉ text ∧ endsInQuit text = false := by
  obtain ⟨⟨text, stop⟩, hthrough, h⟩ := Option.bind_eq_some_iff.1 h
  obtain ⟨hmark, hread⟩ := through?_eq_some hthrough
  simp only at h
  split at h
  · contradiction
  · next hquit =>
      obtain ⟨-, rfl⟩ := Prod.mk.inj (Option.some.inj h)
      exact ⟨text, hread, hmark, by simpa using hquit⟩

theorem sqlItem?_reads {cursor later : Cursor} {item : MatchItem}
    (h : cursor.sqlItem? = some (item, later)) :
    ∃ text, cursor.Reads (text ++ [';']) later := by
  rcases sqlItem?_eq_some h with ⟨procedure, hread, -⟩ | ⟨statement, -, hread, -⟩
  · exact createTable?_reads hread
  · obtain ⟨text, htext, -⟩ := sqlStatement?_reads hread
    exact ⟨text, htext⟩

end Cursor

/-! ## Items that hold a `quit` -/

/-- The item reads through the `quit` and its semicolon. -/
structure MatchItem.HoldsQuit (item : MatchItem) (quit : Found) : Prop where
  start : item.start.Reaches quit.start
  found : Pattern.quit quit.start = some quit.stop
  stop : quit.stop.Reaches item.stop

/-- A text that ends in a semicolon is not cut off inside of a `quit`. -/
theorem quit_stop_reaches {cursor place stop later : Cursor} {text : List Char}
    (hread : cursor.Reads (text ++ [';']) later) (hplace : cursor.Reaches place)
    (hquit : Pattern.quit place = some stop) (hless : later.remaining < place.remaining) :
    stop.Reaches later := by
  obtain ⟨written, blanks, hwritten, hblanks, hstop⟩ := quit_reads hquit
  obtain ⟨front, behind, hsplit, -, hlater⟩ := hread.divided hplace hless.le
  obtain ⟨inside, last, rfl⟩ :=
    (List.eq_nil_or_concat' behind).resolve_left (hlater.ne_nil hless)
  obtain rfl : ';' = last := by
    rw [← List.append_assoc] at hsplit
    simpa using (List.append_inj' hsplit rfl).2
  have hsame : inside ++ ';' :: later.rest = (written ++ blanks) ++ ';' :: stop.rest := by
    simpa using hlater.1.symm.trans hstop.1
  obtain ⟨more, -, hmore⟩ :=
    exists_more_of_notMem (semicolon_notMem_quit hwritten hblanks) hsame
  have hlength := congrArg List.length hmore
  simp only [List.length_cons, List.length_append] at hlength
  apply hstop.reaches.of_remaining_le hlater.reaches
  simp only [Cursor.remaining]
  omega

/-- Only a `create table` statement holds a `quit`. -/
theorem MatchItem.HoldsQuit.procedure {cursor later : Cursor} {item : MatchItem} {quit : Found}
    (hquit : item.HoldsQuit quit) (h : cursor.sqlItem? = some (item, later)) :
    ∃ procedure, item.node = .procedure procedure := by
  rcases Cursor.sqlItem?_eq_some h with ⟨procedure, -, rfl⟩ | ⟨statement, -, hread, rfl⟩
  · exact ⟨procedure, rfl⟩
  · obtain ⟨text, htext, hmark, hends⟩ := Cursor.sqlStatement?_reads hread
    obtain ⟨written, blanks, hwritten, hblanks, hstop⟩ := quit_reads hquit.found
    have hstart := hquit.start.reads
    have hbehind := hquit.stop.reads
    have hsplit := htext.eq ((hstart.trans hstop).trans hbehind)
    simp only [List.append_assoc, List.singleton_append] at hsplit
    rw [← List.append_assoc written, ← List.append_assoc (Cursor.textUntil _ _)] at hsplit
    obtain ⟨more, hmore, hlast⟩ := exists_more_of_notMem hmark hsplit.symm
    obtain rfl : more = [] := by
      have hlength := congrArg List.length hlast
      simp only [List.length_cons, List.length_append, List.length_nil] at hlength
      exact List.eq_nil_of_length_eq_zero (by omega)
    rw [List.append_nil] at hmore
    rw [← hmore, endsInQuit_append hwritten hblanks] at hends
    contradiction

/-! ## The items of a block -/

theorem misses_quit_skipSpace (cursor : Cursor) : Pattern.quit.Misses cursor cursor.skipSpace :=
  cursor.misses_skipSpace fun _ before rest hch =>
    Pattern.terminated_delimiter (by decide) (by decide) (isDelimiter_of_blank hch) before rest

/-- A `quit` in front of the place where the items end is held by one of them. -/
theorem separatedTail_holdsQuit {cursor : Cursor} {quit : Found}
    (hreaches : cursor.Reaches quit.start) (hquit : Pattern.quit quit.start = some quit.stop)
    (hless : (separatedTail Cursor.sqlItem? (fun cursor => some cursor.skipSpace)
      cursor).2.remaining < quit.start.remaining) :
    ∃ item ∈ (separatedTail Cursor.sqlItem? (fun cursor => some cursor.skipSpace) cursor).1,
      item.HoldsQuit quit := by
  fun_induction separatedTail Cursor.sqlItem? (fun cursor => some cursor.skipSpace) cursor with
  | case1 cursor hnone => exact absurd hreaches.remaining_le (Nat.not_le.mpr hless)
  | case3 cursor next after hpair hshort =>
      exact absurd hreaches.remaining_le (Nat.not_le.mpr hless)
  | case2 cursor next after hpair hshort more stop htail ih =>
      have hnext : cursor.skipSpace.sqlItem? = some (next, after) := by simpa using hpair
      obtain ⟨hstart, hstop, passes⟩ := Cursor.sqlItem?_span hnext
      obtain ⟨text, htext⟩ := Cursor.sqlItem?_reads hnext
      have hinside : quit.start.remaining ≤ cursor.skipSpace.remaining := by
        by_contra hblank
        rw [misses_quit_skipSpace cursor quit.start hreaches (Nat.lt_of_not_le hblank)] at hquit
        contradiction
      have toQuit := cursor.skipSpace_reaches.of_remaining_le hreaches hinside
      by_cases hbehind : quit.start.remaining ≤ after.remaining
      · rw [htail] at ih
        obtain ⟨item, hitem, hholds⟩ := ih (passes.reaches.of_remaining_le toQuit hbehind) hless
        exact ⟨item, List.mem_cons_of_mem next hitem, hholds⟩
      · have hholds : next.HoldsQuit quit :=
          { start := by rwa [hstart]
            found := hquit
            stop := by
              rw [hstop]
              exact quit_stop_reaches htext toQuit hquit (Nat.lt_of_not_le hbehind) }
        exact ⟨next, List.mem_cons_self, hholds⟩

/-! ## Blocks -/

/-- The block that was found ends at the `quit`.  A `quit` behind `body` and in front of that
one is held by an item, and the item is a `create table` statement. -/
structure ConstructMatch.EndsAtQuit (found : ConstructMatch) (body : Cursor) (quit : Found) :
    Prop where
  layout : LaidOut body found.items quit.start
  ending : Pattern.quit quit.start = some quit.stop
  rest : found.rest = quit.stop
  passed : ∀ earlier : Found, body.Reaches earlier.start →
    Pattern.quit earlier.start = some earlier.stop →
    quit.start.remaining < earlier.start.remaining → ∃ item ∈ found.items, item.HoldsQuit earlier
  held : ∀ item ∈ found.items, ∀ earlier, item.HoldsQuit earlier →
    ∃ procedure, item.node = .procedure procedure

/-- The block ends at its first `quit` when no item holds one, and only then. -/
theorem ConstructMatch.EndsAtQuit.find?_iff {found : ConstructMatch} {body : Cursor}
    {quit : Found} (h : found.EndsAtQuit body quit) :
    body.find? Pattern.quit = some quit ↔
      ∀ item ∈ found.items, ∀ earlier, ¬item.HoldsQuit earlier := by
  constructor
  · intro hfirst item hitem earlier hholds
    obtain ⟨toItem, -, toQuit⟩ := h.layout.item_inside hitem
    have hpasses := Pattern.terminated_advances "quit" _ _ hholds.found
    have hless : quit.start.remaining < earlier.start.remaining :=
      (hholds.stop.trans toQuit).remaining_le.trans_lt hpasses.remaining_lt
    have hnone := Cursor.find?_misses hfirst earlier.start (toItem.trans hholds.start) hless
    rw [hholds.found] at hnone
    contradiction
  · intro hnone
    apply Cursor.find?_of_misses h.layout.reaches h.ending
    intro place hplace hless
    cases hstop : Pattern.quit place with
    | none => rfl
    | some stop =>
        obtain ⟨item, hitem, hholds⟩ := h.passed ⟨place, stop⟩ hplace hstop hless
        exact absurd hholds (hnone item hitem _)

/-- The search for the end of a block begins where its items end. -/
theorem Cursor.sqlBlock?_tail {cursor : Cursor} {found : ConstructMatch}
    (h : cursor.sqlBlock? = some found) :
    ∃ (body : Cursor) (quit : Found),
      let tail := separatedTail sqlItem? (fun cursor => some cursor.skipSpace) body
      cursor.blockBody? = some body ∧ tail.2.find? Pattern.quit = some quit ∧
        found = ⟨tail.1, quit.stop⟩ := by
  obtain ⟨body, quit, hbody, hquit, hfound⟩ := sqlBlock?_eq_some h
  obtain ⟨kind, text, -, hthrough⟩ := blockBody?_eq_some hbody
  have hbehind : Halts isWordCharacter body.before := by
    rw [(through?_eq_some hthrough).2.2, List.reverse_append]
    exact (endsWord_semicolon _).word
  rw [separated_skipSpace] at hquit hfound
  refine ⟨body, quit, hbody, ?_, hfound⟩
  split at hquit
  · next hnone =>
      have htail : (separatedTail sqlItem? (fun cursor => some cursor.skipSpace) body).2 =
          body := by
        rw [separatedTail, Option.bind_some, Option.isNone_iff_eq_none.mp hnone]
      rw [htail, ← quit_opensAtBoundary.find?_skipSpace hbehind]
      exact hquit
  · exact hquit

/-- Where a block ends: at the first `quit` that is not held by one of its `create table`
statements, and so at the first `quit` of all when no item holds one, and only then. -/
theorem Cursor.sqlBlock?_endsAtQuit {cursor : Cursor} {found : ConstructMatch}
    (h : cursor.sqlBlock? = some found) :
    ∃ body quit, cursor.blockBody? = some body ∧ found.EndsAtQuit body quit ∧
      (body.find? Pattern.quit = some quit ↔
        ∀ item ∈ found.items, ∀ earlier, ¬item.HoldsQuit earlier) := by
  obtain ⟨body, quit, hbody, hquit, rfl⟩ := sqlBlock?_tail h
  have hends : ConstructMatch.EndsAtQuit _ body quit :=
    { layout := (separatedTail_sqlItem_laidOut body).trans_reaches (find?_some hquit).1
      ending := (find?_some hquit).2
      rest := rfl
      passed := by
        intro earlier hreaches hearlier hless
        apply separatedTail_holdsQuit hreaches hearlier
        by_contra hbehind
        have toEarlier := (separatedTail_sqlItem_laidOut body).reaches.of_remaining_le hreaches
          (Nat.not_lt.mp hbehind)
        rw [find?_misses hquit earlier.start toEarlier hless] at hearlier
        contradiction
      held := forall_mem_sqlBlock (fun _ _ _ hitem _ hholds => hholds.procedure hitem) h }
  exact ⟨body, quit, hbody, hends, hends.find?_iff⟩

def blockWithQuitInTable : String :=
  "proc sql; create table a as select b quit; data c; set d; run; quit; x"

/-- The first `quit` is read as a part of the query, and a data step behind it becomes a part of
the block. -/
theorem Cursor.sqlBlock?_endsAtQuit_of_createTable :
    ∃ (found : ConstructMatch) (body : Cursor) (quit : Found),
      (ofText blockWithQuitInTable).sqlBlock? = some found ∧
        found.rest.rest = " x".toList ∧
        found.items.map MatchItem.node =
          [.procedure ⟨"sql", [], [⟨none, .ofLiteral "a", none⟩]⟩, .sqlStatement ⟨"data c;"⟩,
            .sqlStatement ⟨"set d;"⟩, .sqlStatement ⟨"run;"⟩] ∧
        found.EndsAtQuit body quit ∧
        ¬∀ item ∈ found.items, ∀ earlier, ¬item.HoldsQuit earlier := by
  have hsome : (ofText blockWithQuitInTable).sqlBlock?.isSome = true := by decide +kernel
  have hread : (ofText blockWithQuitInTable).sqlBlock?.map
      (fun found => (found.rest.rest, found.items.map MatchItem.node)) =
        some (" x".toList, [.procedure ⟨"sql", [], [⟨none, .ofLiteral "a", none⟩]⟩,
          .sqlStatement ⟨"data c;"⟩, .sqlStatement ⟨"set d;"⟩, .sqlStatement ⟨"run;"⟩]) := by
    decide +kernel
  have hfirst : ((ofText blockWithQuitInTable).blockBody?.bind (find? · Pattern.quit)).map
      (fun quit => quit.stop.rest) = some " data c; set d; run; quit; x".toList := by
    decide +kernel
  obtain ⟨found, hfound⟩ := Option.isSome_iff_exists.mp hsome
  obtain ⟨body, quit, hbody, hends, hiff⟩ := sqlBlock?_endsAtQuit hfound
  rw [hfound] at hread
  obtain ⟨hrest, hitems⟩ := Prod.mk.inj (Option.some.inj hread)
  refine ⟨found, body, quit, hfound, hrest, hitems, hends, ?_⟩
  rw [← hiff]
  intro hquit
  rw [hbody, Option.bind_some, hquit, Option.map_some, ← hends.rest, hrest] at hfirst
  exact absurd (congrArg (Option.map List.length) hfirst) (by decide)

end SasOutline
