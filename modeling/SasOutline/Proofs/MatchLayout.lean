import SasOutline.Proofs.ReaderProgress

/-!
# The layout of a match

A match consists of items with text around them.  The items stand in order, none
of them is empty and no two overlap, and the match ends at or behind the last of
them.  This holds of every construct at every cursor, and so of whatever a
grammar finds.
-/

namespace SasOutline

/-- The items follow each other between `cursor` and `rest`, each with at least
one character. -/
def LaidOut (cursor : Cursor) : List MatchItem → Cursor → Prop
  | [], rest => cursor.Reaches rest
  | item :: items, rest =>
      cursor.Reaches item.start ∧ item.start.Passes item.stop ∧
        LaidOut item.stop items rest

namespace LaidOut

theorem reaches {cursor rest : Cursor} {items : List MatchItem}
    (h : LaidOut cursor items rest) : cursor.Reaches rest := by
  induction items generalizing cursor with
  | nil => exact h
  | cons item items ih =>
      obtain ⟨toStart, toStop, hitems⟩ := h
      exact (toStart.trans toStop.reaches).trans (ih hitems)

theorem of_reaches {earlier cursor rest : Cursor} {items : List MatchItem}
    (reaches : earlier.Reaches cursor) (h : LaidOut cursor items rest) :
    LaidOut earlier items rest := by
  cases items with
  | nil => exact reaches.trans h
  | cons item items => exact ⟨reaches.trans h.1, h.2⟩

theorem trans_reaches {cursor rest later : Cursor} {items : List MatchItem}
    (h : LaidOut cursor items rest) (reaches : rest.Reaches later) :
    LaidOut cursor items later := by
  induction items generalizing cursor with
  | nil => exact Cursor.Reaches.trans h reaches
  | cons item items ih => exact ⟨h.1, h.2.1, ih h.2.2⟩

theorem append {cursor middle rest : Cursor} {items more : List MatchItem}
    (h : LaidOut cursor items middle) (hmore : LaidOut middle more rest) :
    LaidOut cursor (items ++ more) rest := by
  induction items generalizing cursor with
  | nil => exact hmore.of_reaches h
  | cons item items ih => exact ⟨h.1, h.2.1, ih h.2.2⟩

theorem item_inside {cursor rest : Cursor} {items : List MatchItem}
    (h : LaidOut cursor items rest) {item : MatchItem} (hitem : item ∈ items) :
    cursor.Reaches item.start ∧ item.start.Passes item.stop ∧ item.stop.Reaches rest := by
  induction items generalizing cursor with
  | nil => contradiction
  | cons first items ih =>
      obtain ⟨toStart, toStop, hitems⟩ := h
      rcases List.mem_cons.1 hitem with rfl | hlater
      · exact ⟨toStart, toStop, hitems.reaches⟩
      · obtain ⟨toItem, hpasses, toRest⟩ := ih hitems hlater
        exact ⟨(toStart.trans toStop.reaches).trans toItem, hpasses, toRest⟩

end LaidOut

namespace ConstructMatch

/-- The items of a match that begins at `cursor` lie between it and the rest. -/
def StartsAt (found : ConstructMatch) (cursor : Cursor) : Prop :=
  LaidOut cursor found.items found.rest

theorem single_startsAt {cursor stop : Cursor} (node : Node)
    (passes : cursor.Passes stop) : (single cursor node stop).StartsAt cursor :=
  ⟨Cursor.Reaches.refl cursor, passes, Cursor.Reaches.refl stop⟩

end ConstructMatch

/-! ## Blocks of the `sql` procedure -/

namespace Cursor

/-- What a statement of a block is read as. -/
theorem sqlItem?_eq_some {cursor later : Cursor} {item : MatchItem}
    (h : cursor.sqlItem? = some (item, later)) :
    (∃ procedure, cursor.createTable? = some (procedure, later) ∧
      item = ⟨.procedure procedure, cursor, later⟩) ∨
    (∃ statement, cursor.createTable? = none ∧ cursor.sqlStatement? = some (statement, later) ∧
      item = ⟨.sqlStatement statement, cursor, later⟩) := by
  rcases orElse_some h with hcreated | ⟨hnone, hother⟩
  · obtain ⟨⟨procedure, stop⟩, hread, heq⟩ := Option.map_eq_some_iff.1 hcreated
    obtain ⟨rfl, rfl⟩ := Prod.mk.inj heq
    exact .inl ⟨procedure, hread, rfl⟩
  · obtain ⟨⟨statement, stop⟩, hread, heq⟩ := Option.map_eq_some_iff.1 hother
    obtain ⟨rfl, rfl⟩ := Prod.mk.inj heq
    exact .inr ⟨statement, Option.map_eq_none_iff.1 hnone, hread, rfl⟩

theorem sqlItem?_span {cursor later : Cursor} {item : MatchItem}
    (h : cursor.sqlItem? = some (item, later)) :
    item.start = cursor ∧ item.stop = later ∧ cursor.Passes later := by
  rcases sqlItem?_eq_some h with ⟨procedure, hread, rfl⟩ | ⟨statement, -, hread, rfl⟩
  · exact ⟨rfl, rfl, createTable?_passes hread⟩
  · exact ⟨rfl, rfl, sqlStatement?_passes hread⟩

/-- An item that is read right behind `cursor`, in front of items laid out. -/
theorem laidOut_cons_sqlItem {cursor start later rest : Cursor} {item : MatchItem}
    {items : List MatchItem} (reaches : cursor.Reaches start)
    (hitem : start.sqlItem? = some (item, later)) (hitems : LaidOut later items rest) :
    LaidOut cursor (item :: items) rest := by
  obtain ⟨hstart, hstop, passes⟩ := sqlItem?_span hitem
  refine ⟨?_, ?_, ?_⟩
  · rwa [hstart]
  · rwa [hstart, hstop]
  · rwa [hstop]

theorem separatedTail_sqlItem_laidOut (cursor : Cursor) :
    LaidOut cursor (separatedTail sqlItem? (fun cursor => some cursor.skipSpace) cursor).1
      (separatedTail sqlItem? (fun cursor => some cursor.skipSpace) cursor).2 := by
  fun_induction separatedTail sqlItem? (fun cursor => some cursor.skipSpace) cursor with
  | case1 cursor hnone => exact Reaches.refl cursor
  | case2 cursor next after hpair hless more stop htail ih =>
      rw [htail] at ih
      have hnext : cursor.skipSpace.sqlItem? = some (next, after) := by simpa using hpair
      exact laidOut_cons_sqlItem cursor.skipSpace_reaches hnext ih
  | case3 cursor next after hpair hless => exact Reaches.refl cursor

theorem separated_sqlItem_laidOut (cursor : Cursor) :
    LaidOut cursor (separated sqlItem? (fun cursor => some cursor.skipSpace) cursor).1
      (separated sqlItem? (fun cursor => some cursor.skipSpace) cursor).2 := by
  unfold separated
  split
  · exact Reaches.refl cursor
  · next first after hfirst =>
      exact laidOut_cons_sqlItem (Reaches.refl cursor) hfirst
        (separatedTail_sqlItem_laidOut after)

/-- The place behind the statement that opens a block. -/
def blockBody? (cursor : Cursor) : Option Cursor := do
  let keyword ← cursor.word? "proc"
  let start ← keyword.space?
  let kind ← start.word? "sql"
  let (_, body) ← kind.through? ';'
  return body

theorem blockBody?_eq_some {cursor body : Cursor} (h : cursor.blockBody? = some body) :
    ∃ kind text, cursor.Passes kind ∧ kind.through? ';' = some (text, body) := by
  obtain ⟨keyword, hkeyword, h⟩ := Option.bind_eq_some_iff.1 h
  obtain ⟨start, hstart, h⟩ := Option.bind_eq_some_iff.1 h
  obtain ⟨kind, hkind, h⟩ := Option.bind_eq_some_iff.1 h
  obtain ⟨⟨text, stop⟩, hthrough, h⟩ := Option.bind_eq_some_iff.1 h
  obtain rfl := Option.some.inj h
  exact ⟨kind, text, ((word?_reaches hkeyword).trans_passes (space?_passes hstart)).trans_reaches
    (word?_reaches hkind), hthrough⟩

/-- Behind its opening statement a block is read as a list and a search. -/
theorem sqlBlock?_eq_some {cursor : Cursor} {found : ConstructMatch}
    (h : cursor.sqlBlock? = some found) :
    ∃ (body : Cursor) (quit : Found),
      let items := separated sqlItem? (fun cursor => some cursor.skipSpace) body.skipSpace
      cursor.blockBody? = some body ∧ items.2.find? Pattern.quit = some quit ∧
        found = ⟨items.1, quit.stop⟩ := by
  obtain ⟨keyword, hkeyword, h⟩ := Option.bind_eq_some_iff.1 h
  obtain ⟨start, hstart, h⟩ := Option.bind_eq_some_iff.1 h
  obtain ⟨kind, hkind, h⟩ := Option.bind_eq_some_iff.1 h
  obtain ⟨⟨text, body⟩, hbody, h⟩ := Option.bind_eq_some_iff.1 h
  obtain ⟨quit, hquit, h⟩ := Option.bind_eq_some_iff.1 h
  have hopened : cursor.blockBody? = some body := by
    simp [blockBody?, hkeyword, hstart, hkind, hbody]
  exact ⟨body, quit, hopened, hquit, (Option.some.inj h).symm⟩

theorem sqlBlock?_startsAt {cursor : Cursor} {found : ConstructMatch}
    (h : cursor.sqlBlock? = some found) :
    found.StartsAt cursor ∧ cursor.Passes found.rest := by
  obtain ⟨body, quit, hbody, hquit, rfl⟩ := sqlBlock?_eq_some h
  obtain ⟨kind, text, toKind, hthrough⟩ := blockBody?_eq_some hbody
  have toBody : cursor.Passes body.skipSpace :=
    (toKind.trans (through?_passes hthrough)).trans_reaches body.skipSpace_reaches
  have hitems := separated_sqlItem_laidOut body.skipSpace
  have toQuit := ((Pattern.terminated_advances "quit").find? hquit).reaches
  exact ⟨(hitems.trans_reaches toQuit).of_reaches toBody.reaches,
    toBody.trans_reaches (hitems.reaches.trans toQuit)⟩

end Cursor

/-! ## Constructs and grammars -/

namespace Construct

private theorem covering_startsAt {α : Type} {cursor : Cursor} {found : ConstructMatch}
    {wrap : α → Node} {parsed : Option (α × Cursor)}
    (hparsed : ∀ value stop, parsed = some (value, stop) → cursor.Passes stop)
    (h : (parsed.map fun (value, stop) =>
      ConstructMatch.single cursor (wrap value) stop) = some found) :
    found.StartsAt cursor := by
  obtain ⟨⟨value, stop⟩, hvalue, rfl⟩ := Option.map_eq_some_iff.1 h
  exact ConstructMatch.single_startsAt _ (hparsed value stop hvalue)

theorem read?_startsAt {construct : Construct} {cursor : Cursor} {found : ConstructMatch}
    (h : construct.read? cursor = some found) : found.StartsAt cursor := by
  cases construct with
  | newline =>
      obtain ⟨stop, hstop, rfl⟩ := Option.map_eq_some_iff.1 h
      exact ConstructMatch.single_startsAt _ (Cursor.newline?_passes hstop)
  | macroVariable =>
      exact covering_startsAt (fun _ _ => Cursor.macroVariableDefinition?_passes) h
  | comment => exact covering_startsAt (fun _ _ => Cursor.comment?_passes) h
  | dataStep => exact covering_startsAt (fun _ _ => Cursor.dataStep?_passes) h
  | procedure => exact covering_startsAt (fun _ _ => Cursor.procedure?_passes) h
  | sqlBlock => exact (Cursor.sqlBlock?_startsAt h).1
  | sqlStatement => exact covering_startsAt (fun _ _ => Cursor.sqlStatement?_passes) h
  | createTable => exact covering_startsAt (fun _ _ => Cursor.createTable?_passes) h
  | libraryBinding => exact covering_startsAt (fun _ _ => Cursor.libraryBinding?_passes) h
  | inclusion => exact covering_startsAt (fun _ _ => Cursor.inclusion?_passes) h
  | macroStart => exact covering_startsAt (fun _ _ => Cursor.macroStart?_passes) h
  | macroEnd =>
      obtain ⟨stop, hstop, rfl⟩ := Option.map_eq_some_iff.1 h
      exact ConstructMatch.single_startsAt _ (Cursor.macroEnd?_passes hstop)
  | macroCall => exact covering_startsAt (fun _ _ => Cursor.macroCall?_passes) h
  | nothing =>
      obtain rfl := Option.some.inj h
      exact Cursor.Reaches.refl cursor

end Construct

namespace Grammar

theorem firstMatch?_startsAt {grammar : Grammar} {cursor : Cursor} {found : ConstructMatch}
    (h : grammar.firstMatch? cursor = some found) : found.StartsAt cursor := by
  obtain ⟨rule, -, hrule⟩ := List.exists_of_findSome?_eq_some h
  exact Construct.read?_startsAt (Option.filter_eq_some_iff.1 hrule).1

theorem firstMatch?_passes {grammar : Grammar} {cursor : Cursor} {found : ConstructMatch}
    (h : grammar.firstMatch? cursor = some found) : cursor.Passes found.rest :=
  ⟨(firstMatch?_startsAt h).reaches, firstMatch?_remaining_lt h⟩

end Grammar

end SasOutline
