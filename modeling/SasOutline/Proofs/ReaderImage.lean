import SasOutline.PatternSearch
import SasOutline.SeparatedList

/-!
# Readers under a change of the text

When a text is changed in a way that a reader does not notice, the reader yields
the changed form of what it yielded before.  Such a reader is put together from
steps with the same property.

The change at hand is more text in front of a cursor.  Readers that never look
back do not notice it, and so they read the same at a cursor as at the start of a
text that holds no more than what is left.
-/

namespace SasOutline

/-- A step of a reader carries over to another form of the text when both of its
halves do. -/
theorem bind_image {α α' β β' : Type} {f : α → α'} {g : β → β'}
    {read : Option α} {next : α → Option β} {read' : Option α'} {next' : α' → Option β'}
    (hread : read' = read.map f) (hnext : ∀ value, next' (f value) = (next value).map g) :
    read'.bind next' = (read.bind next).map g := by
  subst hread
  cases read with
  | none => rfl
  | some value => exact hnext value

theorem orElse_image {α α' : Type} {f : α → α'} {first second : Option α}
    {first' second' : Option α'} (hfirst : first' = first.map f)
    (hsecond : second' = second.map f) :
    (first' <|> second') = (first <|> second).map f := by
  subst hfirst
  cases first with
  | none => simpa using hsecond
  | some value => rfl

theorem filter_image {α : Type} {change : α → α} {keep : α → Bool}
    (hkeep : ∀ value, keep (change value) = keep value) (value? : Option α) :
    (value?.map change).filter keep = (value?.filter keep).map change := by
  cases value? with
  | none => rfl
  | some value =>
      simp only [Option.map_some, Option.filter_some, hkeep]
      split <;> rfl

theorem snd_image {α : Type} {value : α → α} {change : Cursor → Cursor}
    {read read' : Option (α × Cursor)} (hread : read' = read.map (Prod.map value change)) :
    read'.map Prod.snd = (read.map Prod.snd).map change := by
  rw [hread, Option.map_map, Option.map_map]
  rfl

/-! ## Lists and optional parts -/

section Lists

variable {α : Type} {change : Cursor → Cursor} {value : α → α} {item : Reader α}
  {separator : Cursor → Option Cursor}

theorem optional_image {cursor : Cursor} {parsed parsed' : Option (α × Cursor)}
    (hparsed : parsed' = parsed.map (Prod.map value change)) :
    optional (change cursor) parsed' =
      Prod.map (Option.map value) change (optional cursor parsed) := by
  subst hparsed
  cases parsed with
  | none => rfl
  | some pair => rfl

variable (hremaining : ∀ cursor, (change cursor).remaining = cursor.remaining)
  (hitem : ∀ cursor, item (change cursor) = (item cursor).map (Prod.map value change))
  (hseparator : ∀ cursor, separator (change cursor) = (separator cursor).map change)

include hremaining hitem hseparator

theorem separatedTail_image (cursor : Cursor) :
    separatedTail item separator (change cursor) =
      Prod.map (List.map value) change (separatedTail item separator cursor) := by
  have hpair (cursor : Cursor) : (separator (change cursor)).bind item =
      ((separator cursor).bind item).map (Prod.map value change) :=
    bind_image (hseparator cursor) hitem
  fun_induction separatedTail item separator cursor with
  | case1 cursor hnone =>
      rw [separatedTail, hpair, hnone]
      rfl
  | case2 cursor next after hsome hless more stop htail ih =>
      rw [separatedTail, hpair, hsome]
      simp only [Option.map_some, Prod.map_apply, hremaining, if_pos hless, ih, htail]
      rfl
  | case3 cursor next after hsome hless =>
      rw [separatedTail, hpair, hsome]
      simp only [Option.map_some, Prod.map_apply, hremaining, if_neg hless]
      rfl

theorem separated_image (cursor : Cursor) :
    separated item separator (change cursor) =
      Prod.map (List.map value) change (separated item separator cursor) := by
  unfold separated
  rw [hitem cursor]
  cases item cursor with
  | none => rfl
  | some pair =>
      obtain ⟨first, after⟩ := pair
      simp only [Option.map_some, Prod.map_apply,
        separatedTail_image hremaining hitem hseparator]
      rfl

end Lists

/-! ## Text in front -/

namespace Cursor

/-- The cursor with more text in front of what was read. -/
def behind (before : List Char) (cursor : Cursor) : Cursor :=
  ⟨cursor.before ++ before, cursor.rest⟩

end Cursor

/-- The step leads to the same place with the text in front as without it. -/
def StepsBehind (before : List Char) (step : Cursor → Option Cursor) : Prop :=
  ∀ cursor, step (Cursor.behind before cursor) = (step cursor).map (Cursor.behind before)

/-- The pattern does not look at the text before the cursor. -/
def Pattern.IgnoresBefore (pattern : Pattern) : Prop :=
  ∀ before cursor, pattern (Cursor.behind before cursor) =
    (pattern cursor).map (Cursor.behind before)

namespace Cursor

variable (before : List Char) (cursor : Cursor)

theorem skip_behind (count : Nat) :
    (cursor.behind before).skip count = (cursor.skip count).behind before := by
  simp [behind, skip]

theorem skipWhile_behind (inClass : Char → Bool) :
    (cursor.behind before).skipWhile inClass = (cursor.skipWhile inClass).behind before :=
  skip_behind before cursor _

theorem char?_behind (mark : Char) :
    (cursor.behind before).char? mark = (cursor.char? mark).map (behind before) := by
  have hpeek : (cursor.behind before).peek = cursor.peek := rfl
  unfold char?
  rw [skip_behind, hpeek, apply_ite (Option.map (behind before))]
  rfl

theorem run?_behind (inClass : Char → Bool) :
    (cursor.behind before).run? inClass = (cursor.run? inClass).map (behind before) := by
  have hpeek : (cursor.behind before).peek = cursor.peek := rfl
  unfold run?
  rw [skipWhile_behind, hpeek, apply_ite (Option.map (behind before))]
  rfl

theorem bump?_behind :
    (cursor.behind before).bump? = cursor.bump?.map (Prod.map id (behind before)) := by
  obtain ⟨read, rest⟩ := cursor
  cases rest with
  | nil => rfl
  | cons ch rest => simp [bump?, behind, skip]

theorem letters?_behind (fold : Char → Char) (word : String) :
    letters? fold (cursor.behind before) word =
      (letters? fold cursor word).map (behind before) := by
  have hrest : (cursor.behind before).rest = cursor.rest := rfl
  unfold letters?
  rw [skip_behind, hrest, apply_ite (Option.map (behind before))]
  rfl

theorem findFrom_behind {pattern : Pattern} (hpattern : StepsBehind before pattern)
    (read rest : List Char) :
    findFrom pattern (read ++ before) rest =
      (findFrom pattern read rest).map fun found =>
        ⟨found.start.behind before, found.stop.behind before⟩ := by
  induction rest generalizing read with
  | nil =>
      have hend : pattern ⟨read ++ before, []⟩ = (pattern ⟨read, []⟩).map (behind before) :=
        hpattern ⟨read, []⟩
      simp only [findFrom, hend, Option.map_map]
      rfl
  | cons ch rest ih =>
      have hhere : pattern ⟨read ++ before, ch :: rest⟩ =
          (pattern ⟨read, ch :: rest⟩).map (behind before) :=
        hpattern ⟨read, ch :: rest⟩
      have hlater := ih (ch :: read)
      simp only [findFrom, hhere]
      cases pattern ⟨read, ch :: rest⟩ with
      | none => exact hlater
      | some stop => rfl

theorem find?_behind {pattern : Pattern} (hpattern : StepsBehind before pattern) :
    (cursor.behind before).find? pattern =
      (cursor.find? pattern).map fun found =>
        ⟨found.start.behind before, found.stop.behind before⟩ :=
  findFrom_behind before hpattern cursor.before cursor.rest

end Cursor

theorem Pattern.nextOption_ignoresBefore : nextOption.IgnoresBefore := by
  intro before cursor
  refine bind_image (cursor.run?_behind before isWhiteSpace) fun blank => ?_
  refine bind_image (blank.run?_behind before isWordCharacter) fun word => ?_
  have hspace : (word.behind before).skipSpace = word.skipSpace.behind before :=
    word.skipWhile_behind before isWhiteSpace
  rw [hspace]
  exact word.skipSpace.char?_behind before '='

end SasOutline
