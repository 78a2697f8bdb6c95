import SasOutline.DynamicName
import SasOutline.QuotedText
import SasOutline.PatternSearch
import SasOutline.SeparatedList

/-!
# Dataset options

An option is written in one of four forms, tried in this order: a setting in
parentheses, a quoted setting, a bare setting and a flag without a setting.  A
bare setting runs up to the next option or to the end of its list, whichever
comes first.  The next option has a blank in front of it.  The blanks behind an
equals sign are passed over before the search, so a name that stands directly
behind them is a part of the setting.
-/

namespace SasOutline

structure DatasetOption where
  name : DynamicName
  setting : Option String
  deriving DecidableEq, Repr

namespace Cursor

/-- A name and an equals sign, with the blanks around the sign. -/
def optionName? (cursor : Cursor) : Option (DynamicName × Cursor) := do
  let (name, stop) ← cursor.dynamicName?
  let stop ← stop.skipSpace.char? '='
  return (name, stop.skipSpace)

/-- `where=(a = 1)`; the parentheses belong to the setting. -/
def parenthesisedOption? (cursor : Cursor) : Option (DatasetOption × Cursor) := do
  let (name, setting) ← cursor.optionName?
  let opened ← setting.char? '('
  let closing := opened.skipWhile fun ch => ch != ')' && ch != ';'
  let stop ← closing.char? ')'
  return (⟨name, some (setting.stringUntil stop)⟩, stop)

/-- `file="out.csv"`; the quotation marks are left off. -/
def quotedOption? (cursor : Cursor) : Option (DatasetOption × Cursor) := do
  let (name, setting) ← cursor.optionName?
  let (path, stop) ← setting.quotedPath?
  return (⟨name, some path⟩, stop)

/-- Where a bare setting ends: in front of the option that follows it, or at the
closing parenthesis or semicolon.  Without either there is no bare setting. -/
def bareSettingEnd? (cursor : Cursor) : Option Cursor :=
  let bound := cursor.skipWhile fun ch => ch != ')' && ch != ';'
  let segment : Cursor := ⟨cursor.before, cursor.textUntil bound⟩
  match segment.find? Pattern.nextOption with
  | some next => some (cursor.skip (segment.remaining - next.start.remaining))
  | none => if bound.atEnd then none else some bound

/-- `keep=a b c` -/
def bareOption? (cursor : Cursor) : Option (DatasetOption × Cursor) := do
  let (name, setting) ← cursor.optionName?
  let stop ← setting.bareSettingEnd?
  return (⟨name, some (setting.stringUntil stop)⟩, stop)

/-- `nway` -/
def flagOption? (cursor : Cursor) : Option (DatasetOption × Cursor) := do
  let (name, stop) ← cursor.dynamicName?
  return (⟨name, none⟩, stop)

def datasetOption? (cursor : Cursor) : Option (DatasetOption × Cursor) :=
  cursor.parenthesisedOption? <|> cursor.quotedOption? <|> cursor.bareOption? <|>
    cursor.flagOption?

/-- An option of a macro definition, where bare settings are not allowed. -/
def macroOption? (cursor : Cursor) : Option (DatasetOption × Cursor) :=
  cursor.parenthesisedOption? <|> cursor.quotedOption? <|> cursor.flagOption?

/-- Options in parentheses, separated by blanks. -/
def datasetOptions? (cursor : Cursor) : Option (List DatasetOption × Cursor) := do
  let opened ← cursor.char? '('
  let (options, closing) := separated datasetOption? space? opened.skipSpace
  let stop ← closing.skipSpace.char? ')'
  return (options, stop)

theorem optionName?_passes {cursor later : Cursor} {name : DynamicName}
    (h : cursor.optionName? = some (name, later)) : cursor.Passes later := by
  obtain ⟨⟨_, first⟩, hname, h⟩ := Option.bind_eq_some_iff.1 h
  obtain ⟨equals, hequals, h⟩ := Option.bind_eq_some_iff.1 h
  obtain ⟨-, rfl⟩ := Prod.mk.inj (Option.some.inj h)
  exact ((dynamicName?_passes hname).trans (first.skipSpace_reaches.trans_passes
    (char?_passes hequals))).trans_reaches equals.skipSpace_reaches

theorem parenthesisedOption?_passes {cursor later : Cursor} {option : DatasetOption}
    (h : cursor.parenthesisedOption? = some (option, later)) : cursor.Passes later := by
  obtain ⟨⟨_, setting⟩, hname, h⟩ := Option.bind_eq_some_iff.1 h
  obtain ⟨opened, hopened, h⟩ := Option.bind_eq_some_iff.1 h
  obtain ⟨stop, hstop, h⟩ := Option.bind_eq_some_iff.1 h
  obtain ⟨-, rfl⟩ := Prod.mk.inj (Option.some.inj h)
  exact ((optionName?_passes hname).trans (char?_passes hopened)).trans
    ((opened.skipWhile_reaches _).trans_passes (char?_passes hstop))

theorem quotedOption?_passes {cursor later : Cursor} {option : DatasetOption}
    (h : cursor.quotedOption? = some (option, later)) : cursor.Passes later := by
  obtain ⟨⟨_, setting⟩, hname, h⟩ := Option.bind_eq_some_iff.1 h
  obtain ⟨⟨_, stop⟩, hpath, h⟩ := Option.bind_eq_some_iff.1 h
  obtain ⟨-, rfl⟩ := Prod.mk.inj (Option.some.inj h)
  exact (optionName?_passes hname).trans (quotedPath?_passes hpath)

theorem bareSettingEnd?_reaches {cursor later : Cursor}
    (h : cursor.bareSettingEnd? = some later) : cursor.Reaches later := by
  simp only [bareSettingEnd?] at h
  split at h
  · obtain rfl := Option.some.inj h
    exact cursor.skip_reaches _
  · split at h
    · contradiction
    · obtain rfl := Option.some.inj h
      exact cursor.skipWhile_reaches _

theorem bareOption?_passes {cursor later : Cursor} {option : DatasetOption}
    (h : cursor.bareOption? = some (option, later)) : cursor.Passes later := by
  obtain ⟨⟨_, setting⟩, hname, h⟩ := Option.bind_eq_some_iff.1 h
  obtain ⟨stop, hstop, h⟩ := Option.bind_eq_some_iff.1 h
  obtain ⟨-, rfl⟩ := Prod.mk.inj (Option.some.inj h)
  exact (optionName?_passes hname).trans_reaches (bareSettingEnd?_reaches hstop)

theorem flagOption?_passes {cursor later : Cursor} {option : DatasetOption}
    (h : cursor.flagOption? = some (option, later)) : cursor.Passes later := by
  obtain ⟨⟨_, stop⟩, hname, h⟩ := Option.bind_eq_some_iff.1 h
  obtain ⟨-, rfl⟩ := Prod.mk.inj (Option.some.inj h)
  exact dynamicName?_passes hname

theorem datasetOption?_passes {cursor later : Cursor} {option : DatasetOption}
    (h : cursor.datasetOption? = some (option, later)) : cursor.Passes later := by
  rcases orElse_some h with h | ⟨-, h⟩
  · exact parenthesisedOption?_passes h
  rcases orElse_some h with h | ⟨-, h⟩
  · exact quotedOption?_passes h
  rcases orElse_some h with h | ⟨-, h⟩
  · exact bareOption?_passes h
  · exact flagOption?_passes h

theorem datasetOptions?_passes {cursor later : Cursor} {options : List DatasetOption}
    (h : cursor.datasetOptions? = some (options, later)) : cursor.Passes later := by
  obtain ⟨opened, hopened, h⟩ := Option.bind_eq_some_iff.1 h
  have reaches := separated_reaches (fun _ _ _ h => (datasetOption?_passes h).1)
    (fun _ _ h => (space?_passes h).1) opened.skipSpace
  generalize separated datasetOption? space? opened.skipSpace = pair at h reaches
  obtain ⟨stop, hstop, h⟩ := Option.bind_eq_some_iff.1 h
  obtain ⟨-, rfl⟩ := Prod.mk.inj (Option.some.inj h)
  exact (((char?_passes hopened).trans_reaches opened.skipSpace_reaches).trans_reaches
    reaches).trans (pair.2.skipSpace_reaches.trans_passes (char?_passes hstop))

end Cursor

end SasOutline
