import SasOutline.Proofs.CheckedPrimitives
import SasOutline.Proofs.MatchLayout

/-!
# Lists are read to their end

The reader of a list goes on from one item to the next as long as it finds a separator with an
item behind it and the pair does not end where it began.  Readers that never go back can do so
only finitely often, since every pair takes some of the text.

What such a list yields is settled by the items and separators alone: there is one sequence of
items that begins at the cursor, goes on without a gap from one to the next by a separator, and
cannot be continued.  The items of the grammar all take some text, so each of them is read once.
-/

namespace SasOutline

/-- Where an item of a list was read, and as what. -/
structure ListEntry (α : Type) where
  value : α
  start : Cursor
  stop : Cursor

/-- Both readers stay in their text and do not go back. -/
structure MovesForward {α : Type} (item : Reader α) (separator : Cursor → Option Cursor) :
    Prop where
  item_reaches : ∀ cursor value after, item cursor = some (value, after) → cursor.Reaches after
  separator_reaches : ∀ cursor after, separator cursor = some after → cursor.Reaches after

section Lists

variable {α : Type} (item : Reader α) (separator : Cursor → Option Cursor)

/-- A separator stands at the cursor and the item behind it, and the pair ends elsewhere than
it began. -/
structure ReadsPair (cursor : Cursor) (entry : ListEntry α) : Prop where
  separated : separator cursor = some entry.start
  read : item entry.start = some (entry.value, entry.stop)
  moved : entry.stop.offset ≠ cursor.offset

/-- The reader of the list may go on from one place to the other. -/
def GoesOn (after cursor : Cursor) : Prop :=
  ∃ entry, ReadsPair item separator cursor entry ∧ entry.stop = after

/-- Pair by pair, until no further pair stands at the cursor. -/
inductive ReadsPairs : Cursor → List (ListEntry α) → Cursor → Prop
  | done {cursor : Cursor} (hdone : ∀ entry, ¬ReadsPair item separator cursor entry) :
      ReadsPairs cursor [] cursor
  | next {cursor stop : Cursor} {entry : ListEntry α} {entries : List (ListEntry α)}
      (hpair : ReadsPair item separator cursor entry)
      (hlater : ReadsPairs entry.stop entries stop) : ReadsPairs cursor (entry :: entries) stop

/-- No item at all, or an item and then all pairs behind it. -/
inductive ReadsList : Cursor → List (ListEntry α) → Cursor → Prop
  | empty {cursor : Cursor} (hnone : item cursor = none) : ReadsList cursor [] cursor
  | items {cursor after stop : Cursor} {value : α} {entries : List (ListEntry α)}
      (hfirst : item cursor = some (value, after))
      (hlater : ReadsPairs item separator after entries stop) :
      ReadsList cursor (⟨value, cursor, after⟩ :: entries) stop

end Lists

variable {α : Type} {item : Reader α} {separator : Cursor → Option Cursor}

/-! ## One way to go on -/

theorem Cursor.Reaches.passes_of_offset_ne {cursor later : Cursor}
    (reaches : cursor.Reaches later) (hne : later.offset ≠ cursor.offset) :
    cursor.Passes later := by
  refine ⟨reaches, ?_⟩
  obtain ⟨read, hrest, hbefore⟩ := reaches
  cases read with
  | nil => exact absurd (congrArg (fun before => Cursor.offset ⟨before, []⟩) hbefore) hne
  | cons ch read => simp [Cursor.remaining, hrest]

theorem ReadsPair.unique {cursor : Cursor} {entry other : ListEntry α}
    (h : ReadsPair item separator cursor entry) (hother : ReadsPair item separator cursor other) :
    entry = other := by
  obtain ⟨value, start, stop⟩ := entry
  obtain ⟨value', start', stop'⟩ := other
  obtain rfl : start = start' := Option.some.inj (h.separated.symm.trans hother.separated)
  obtain ⟨rfl, rfl⟩ := Prod.mk.inj (Option.some.inj (h.read.symm.trans hother.read))
  rfl

theorem ReadsPairs.unique {cursor stop stop' : Cursor} {entries entries' : List (ListEntry α)}
    (h : ReadsPairs item separator cursor entries stop)
    (h' : ReadsPairs item separator cursor entries' stop') : entries = entries' ∧ stop = stop' := by
  induction h generalizing entries' with
  | done hdone =>
      cases h' with
      | done _ => exact ⟨rfl, rfl⟩
      | next hpair _ => exact absurd hpair (hdone _)
  | next hpair _ ih =>
      cases h' with
      | done hdone => exact absurd hpair (hdone _)
      | next hpair' hlater =>
          obtain rfl := hpair.unique hpair'
          obtain ⟨rfl, rfl⟩ := ih hlater
          exact ⟨rfl, rfl⟩

theorem ReadsList.unique {cursor stop stop' : Cursor} {entries entries' : List (ListEntry α)}
    (h : ReadsList item separator cursor entries stop)
    (h' : ReadsList item separator cursor entries' stop') : entries = entries' ∧ stop = stop' := by
  cases h with
  | empty hnone =>
      cases h' with
      | empty _ => exact ⟨rfl, rfl⟩
      | items hfirst _ => simp [hnone] at hfirst
  | items hfirst hlater =>
      cases h' with
      | empty hnone => simp [hnone] at hfirst
      | items hfirst' hlater' =>
          obtain ⟨rfl, rfl⟩ := Prod.mk.inj (Option.some.inj (hfirst.symm.trans hfirst'))
          obtain ⟨rfl, rfl⟩ := hlater.unique hlater'
          exact ⟨rfl, rfl⟩

/-! ## The reader of a list -/

namespace MovesForward

variable (h : MovesForward item separator)
include h

theorem passes {cursor : Cursor} {entry : ListEntry α}
    (hpair : ReadsPair item separator cursor entry) : cursor.Passes entry.stop :=
  ((h.separator_reaches _ _ hpair.separated).trans
    (h.item_reaches _ _ _ hpair.read)).passes_of_offset_ne hpair.moved

theorem wellFounded_goesOn : WellFounded (GoesOn item separator) := by
  refine Subrelation.wf ?_ (measure Cursor.remaining).wf
  rintro after cursor ⟨entry, hpair, rfl⟩
  exact (h.passes hpair).remaining_lt

theorem readsPairs_separatedTail (cursor : Cursor) :
    ∃ entries, entries.map ListEntry.value = (separatedTail item separator cursor).1 ∧
      ReadsPairs item separator cursor entries (separatedTail item separator cursor).2 := by
  fun_induction separatedTail item separator cursor with
  | case1 cursor hnone =>
      refine ⟨[], rfl, ReadsPairs.done fun entry hpair => ?_⟩
      rw [hpair.separated, Option.bind_some, hpair.read] at hnone
      contradiction
  | case2 cursor value after hpair hless more stop htail ih =>
      rw [htail] at ih
      obtain ⟨start, hstart, hread⟩ := Option.bind_eq_some_iff.1 hpair
      obtain ⟨entries, hvalues, hlater⟩ := ih
      have hpasses : cursor.Passes after :=
        ⟨(h.separator_reaches _ _ hstart).trans (h.item_reaches _ _ _ hread), hless⟩
      exact ⟨⟨value, start, after⟩ :: entries, congrArg (value :: ·) hvalues,
        ReadsPairs.next ⟨hstart, hread, hpasses.offset_lt.ne'⟩ hlater⟩
  | case3 cursor value after hpair hless =>
      -- The pair took no text, which makes it none to go on with.
      refine ⟨[], rfl, ReadsPairs.done fun entry hentry => hless ?_⟩
      rw [hentry.separated, Option.bind_some, hentry.read] at hpair
      obtain ⟨rfl, rfl⟩ := Prod.mk.inj (Option.some.inj hpair)
      exact (h.passes hentry).remaining_lt

theorem readsList_separated (cursor : Cursor) :
    ∃ entries, entries.map ListEntry.value = (separated item separator cursor).1 ∧
      ReadsList item separator cursor entries (separated item separator cursor).2 := by
  unfold separated
  split
  · next hnone => exact ⟨[], rfl, ReadsList.empty hnone⟩
  · next value after hfirst =>
      obtain ⟨entries, hvalues, hlater⟩ := h.readsPairs_separatedTail after
      exact ⟨⟨value, cursor, after⟩ :: entries, congrArg (value :: ·) hvalues,
        ReadsList.items hfirst hlater⟩

theorem separated_eq_iff {cursor stop : Cursor} {values : List α} :
    separated item separator cursor = (values, stop) ↔
      ∃ entries, entries.map ListEntry.value = values ∧
        ReadsList item separator cursor entries stop := by
  obtain ⟨entries, hvalues, hlist⟩ := h.readsList_separated cursor
  constructor
  · intro heq
    rw [heq] at hvalues hlist
    exact ⟨entries, hvalues, hlist⟩
  · rintro ⟨entries', rfl, hlist'⟩
    obtain ⟨rfl, rfl⟩ := hlist.unique hlist'
    exact Prod.ext hvalues.symm rfl

/-- Every item of the list lies behind the place where the list began. -/
theorem reaches_start {cursor stop : Cursor} {entries : List (ListEntry α)}
    (hpairs : ReadsPairs item separator cursor entries stop) :
    ∀ entry ∈ entries, cursor.Reaches entry.start := by
  induction hpairs with
  | done _ => exact List.forall_mem_nil _
  | @next cursor stop first entries hpair _ ih =>
      refine List.forall_mem_cons.mpr ⟨h.separator_reaches _ _ hpair.separated, ?_⟩
      intro entry hentry
      exact (h.passes hpair).reaches.trans (ih entry hentry)

/-- No text belongs to two items. -/
theorem pairwise_reaches {cursor stop : Cursor} {entries : List (ListEntry α)}
    (hpairs : ReadsPairs item separator cursor entries stop) :
    entries.Pairwise fun first second => first.stop.Reaches second.start := by
  induction hpairs with
  | done _ => exact List.Pairwise.nil
  | next _ hlater ih => exact List.pairwise_cons.mpr ⟨h.reaches_start hlater, ih⟩

end MovesForward

/-! ## The lists of the grammar -/

/-- The items and separators that make up the lists of statements and steps. -/
inductive GrammarList : {α : Type} → Reader α → (Cursor → Option Cursor) → Prop
  | datasets : GrammarList Cursor.datasetReference? Cursor.space?
  | tables : GrammarList Cursor.datasetReference? comma?
  | options : GrammarList Cursor.datasetOption? Cursor.space?
  | macroOptions : GrammarList Cursor.macroOption? Cursor.space?
  | arguments : GrammarList Cursor.macroArgument? comma?
  | statements : GrammarList Cursor.sqlItem? fun cursor => some cursor.skipSpace

namespace GrammarList

theorem item_passes (h : GrammarList item separator) {cursor after : Cursor} {value : α}
    (hread : item cursor = some (value, after)) : cursor.Passes after := by
  cases h with
  | datasets => exact Cursor.datasetReference?_passes hread
  | tables => exact Cursor.datasetReference?_passes hread
  | options => exact Cursor.datasetOption?_passes hread
  | macroOptions => exact Cursor.macroOption?_passes hread
  | arguments => exact Cursor.macroArgument?_passes hread
  | statements => exact (Cursor.sqlItem?_span hread).2.2

theorem separator_reaches (h : GrammarList item separator) {cursor after : Cursor}
    (hread : separator cursor = some after) : cursor.Reaches after := by
  cases h with
  | datasets => exact (Cursor.space?_passes hread).reaches
  | tables => exact (comma?_passes hread).reaches
  | options => exact (Cursor.space?_passes hread).reaches
  | macroOptions => exact (Cursor.space?_passes hread).reaches
  | arguments => exact (comma?_passes hread).reaches
  | statements =>
      obtain rfl := Option.some.inj hread
      exact cursor.skipSpace_reaches

theorem movesForward (h : GrammarList item separator) : MovesForward item separator where
  item_reaches := fun _ _ _ hread => (h.item_passes hread).reaches
  separator_reaches := fun _ _ hread => h.separator_reaches hread

/-- Since every item takes some text, any pair at all is one to go on with. -/
theorem bind_eq_none (h : GrammarList item separator) {cursor : Cursor}
    (hdone : ∀ entry, ¬ReadsPair item separator cursor entry) :
    (separator cursor).bind item = none := by
  rw [Option.eq_none_iff_forall_ne_some]
  rintro ⟨value, after⟩ hpair
  obtain ⟨start, hstart, hread⟩ := Option.bind_eq_some_iff.1 hpair
  have hpasses : cursor.Passes after :=
    (h.separator_reaches hstart).trans_passes (h.item_passes hread)
  exact hdone ⟨value, start, after⟩ ⟨hstart, hread, hpasses.offset_lt.ne'⟩

end GrammarList

theorem ReadsPairs.exhausted {cursor stop : Cursor} {entries : List (ListEntry α)}
    (h : ReadsPairs item separator cursor entries stop) (entry : ListEntry α) :
    ¬ReadsPair item separator stop entry := by
  induction h with
  | done hdone => exact hdone entry
  | next _ _ ih => exact ih

theorem ReadsPairs.read {cursor stop : Cursor} {entries : List (ListEntry α)}
    (h : ReadsPairs item separator cursor entries stop) :
    ∀ entry ∈ entries, item entry.start = some (entry.value, entry.stop) := by
  induction h with
  | done _ => exact List.forall_mem_nil _
  | next hpair _ ih => exact List.forall_mem_cons.mpr ⟨hpair.read, ih⟩

/-- Each item was read at its place and takes some text of its own, and none is left behind
the list. -/
structure ReadsOnce (item : Reader α) (separator : Cursor → Option Cursor)
    (entries : List (ListEntry α)) (stop : Cursor) : Prop where
  read : ∀ entry ∈ entries, item entry.start = some (entry.value, entry.stop)
  filled : ∀ entry ∈ entries, entry.start.Passes entry.stop
  disjoint : entries.Pairwise fun first second => first.stop.Reaches second.start
  finished : entries ≠ [] → (separator stop).bind item = none

theorem GrammarList.readsOnce (h : GrammarList item separator) {cursor stop : Cursor}
    {entries : List (ListEntry α)} (hlist : ReadsList item separator cursor entries stop) :
    ReadsOnce item separator entries stop := by
  cases hlist with
  | empty _ => exact ⟨by simp, by simp, by simp, by simp⟩
  | @items after _ value entries hfirst hlater =>
      have hread : ∀ entry ∈ (⟨value, cursor, after⟩ : ListEntry α) :: entries,
          item entry.start = some (entry.value, entry.stop) :=
        List.forall_mem_cons.mpr ⟨hfirst, hlater.read⟩
      exact
        { read := hread
          filled := fun entry hentry => h.item_passes (hread entry hentry)
          disjoint := List.pairwise_cons.mpr
            ⟨h.movesForward.reaches_start hlater, h.movesForward.pairwise_reaches hlater⟩
          finished := fun _ => h.bind_eq_none hlater.exhausted }

/-- A list cannot go on for ever, it is the one sequence of items that begins at the cursor and
cannot be continued, and in the lists of the grammar each item is read once. -/
theorem separated_isMaximal (h : MovesForward item separator) :
    WellFounded (GoesOn item separator) ∧
    (∀ cursor stop values, separated item separator cursor = (values, stop) ↔
      ∃ entries, entries.map ListEntry.value = values ∧
        ReadsList item separator cursor entries stop) ∧
    (GrammarList item separator → ∀ cursor stop entries,
      ReadsList item separator cursor entries stop →
        ReadsOnce item separator entries stop) :=
  ⟨h.wellFounded_goesOn, fun _ _ _ => h.separated_eq_iff,
    fun hgrammar _ _ _ hlist => hgrammar.readsOnce hlist⟩

/-- A comma with no table behind it is left where it stands. -/
theorem separated_isMaximal_of_comma :
    let cursor : Cursor := .ofText "a , b.c ,;"
    MovesForward Cursor.datasetReference? comma? ∧
      ∃ entries,
        entries.map ListEntry.value =
          [⟨none, .ofLiteral "a", none⟩, ⟨some (.ofLiteral "b"), .ofLiteral "c", none⟩] ∧
        ReadsList Cursor.datasetReference? comma? cursor entries (cursor.skip 7) ∧
        ReadsOnce Cursor.datasetReference? comma? entries (cursor.skip 7) := by
  intro cursor
  have hforward := GrammarList.tables.movesForward
  have hread : separated Cursor.datasetReference? comma? cursor =
      ([⟨none, .ofLiteral "a", none⟩, ⟨some (.ofLiteral "b"), .ofLiteral "c", none⟩],
        cursor.skip 7) := by
    decide +kernel
  obtain ⟨-, hiff, honce⟩ := separated_isMaximal hforward
  obtain ⟨entries, hvalues, hlist⟩ := (hiff _ _ _).mp hread
  exact ⟨hforward, entries, hvalues, hlist, honce GrammarList.tables _ _ _ hlist⟩

end SasOutline
