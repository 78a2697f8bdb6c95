import SasOutline.DatasetReference
import SasOutline.Proofs.CheckedNames

/-!
# Dataset references at byte offsets

A bare setting is the one place where an offset is counted inside a slice of a
slice: the end of the setting is looked for in the text up to the closing
parenthesis, and the offset found there is used for the text behind the equals
sign and for the whole text.  The other options and the references are put
together from readers that count no bytes of their own.
-/

namespace SasOutline

namespace Pattern

def parenthesised : Pattern := fun cursor => do
  let opened ← cursor.char? '('
  (opened.skipWhile fun ch => ch != ')' && ch != ';').char? ')'

theorem parenthesised_ignoresBefore : parenthesised.IgnoresBefore := by
  intro before cursor
  refine bind_image (cursor.char?_behind before '(') fun opened => ?_
  rw [opened.skipWhile_behind]
  exact Cursor.char?_behind before _ ')'

theorem parenthesised_reaches (cursor stop : Cursor) (h : parenthesised cursor = some stop) :
    cursor.Reaches stop := by
  obtain ⟨opened, hopened, hstop⟩ := Option.bind_eq_some_iff.1 h
  exact (Cursor.char?_passes hopened).reaches.trans
    ((opened.skipWhile_reaches _).trans (Cursor.char?_passes hstop).reaches)

end Pattern

namespace ByteCursor

open Checked

def optionName? (cursor : ByteCursor) : Checked (DynamicName × ByteCursor) := do
  let (name, stop) ← cursor.dynamicName?
  let stop ← stop.skipSpace
  let stop ← stop.char? '='
  let stop ← stop.skipSpace
  return (name, stop)

def parenthesisedOption? (cursor : ByteCursor) : Checked (DatasetOption × ByteCursor) := do
  let (name, setting) ← cursor.optionName?
  let (value, stop) ← setting.matching? Pattern.parenthesised
  return (⟨name, some value⟩, stop)

def quotedOption? (cursor : ByteCursor) : Checked (DatasetOption × ByteCursor) := do
  let (name, setting) ← cursor.optionName?
  let (path, stop) ← setting.quotedPath?
  return (⟨name, some path⟩, stop)

/-- The bytes of a bare setting that starts at a text. -/
def bareLength (rest : String) : Checked Nat := do
  let bound := indexOf? rest fun ch => ch == ')' || ch == ';'
  let segment ← slice rest 0 (bound.getD rest.utf8ByteSize)
  match (Cursor.ofText segment).find? Pattern.nextOption with
  | some next => return next.start.offset
  | none => ofOption bound

def bareOption? (cursor : ByteCursor) : Checked (DatasetOption × ByteCursor) := do
  let (name, setting) ← cursor.optionName?
  let rest ← setting.rest
  let length ← bareLength rest
  let value ← slice rest 0 length
  let stop ← setting.jump (setting.offset + length)
  return (⟨name, some value⟩, stop)

def flagOption? (cursor : ByteCursor) : Checked (DatasetOption × ByteCursor) := do
  let (name, stop) ← cursor.dynamicName?
  return (⟨name, none⟩, stop)

def datasetOption? (cursor : ByteCursor) : Checked (DatasetOption × ByteCursor) :=
  cursor.parenthesisedOption? <|> cursor.quotedOption? <|> cursor.bareOption? <|>
    cursor.flagOption?

def macroOption? (cursor : ByteCursor) : Checked (DatasetOption × ByteCursor) :=
  cursor.parenthesisedOption? <|> cursor.quotedOption? <|> cursor.flagOption?

def bracketed {α : Type} (item : CheckedReader α) (separator : ByteCursor → Checked ByteCursor)
    (cursor : ByteCursor) : Checked (List α × ByteCursor) := do
  let opened ← cursor.char? '('
  let start ← opened.skipSpace
  let (items, closing) ← start.separated item separator
  let closing ← closing.skipSpace
  let stop ← closing.char? ')'
  return (items, stop)

def slashed {α : Type} (item : CheckedReader α) (cursor : ByteCursor) :
    Checked (List α × ByteCursor) := do
  let start ← cursor.skipSpace
  let slash ← start.char? '/'
  let start ← slash.skipSpace
  start.separated item space?

def datasetOptions? (cursor : ByteCursor) : Checked (List DatasetOption × ByteCursor) :=
  cursor.bracketed datasetOption? space?

def qualifier? (cursor : ByteCursor) : Checked (DynamicName × ByteCursor) := do
  let (library, stop) ← cursor.dynamicName?
  let stop ← stop.char? '.'
  return (library, stop)

def datasetName? (cursor : ByteCursor) : Checked (DynamicName × ByteCursor) :=
  (do let start ← cursor.char? '.'
      start.dynamicName?) <|> cursor.dynamicName?

def datasetReference? (cursor : ByteCursor) : Checked (DatasetReference × ByteCursor) := do
  let (library, start) ← cursor.optional cursor.qualifier?
  let (dataset, stop) ← start.datasetName?
  let (options, stop) ← stop.optional (do
    let start ← stop.skipSpace
    start.datasetOptions?)
  return (⟨library, dataset, options⟩, stop)

def datasetList (cursor : ByteCursor) : Checked (List DatasetReference × ByteCursor) :=
  cursor.separated datasetReference? space?

def datasetEnumeration (cursor : ByteCursor) : Checked (List DatasetReference × ByteCursor) :=
  cursor.separated datasetReference? comma?

end ByteCursor

/-! ## Options -/

namespace Cursor

theorem parenthesisedOption?_eq (cursor : Cursor) :
    cursor.parenthesisedOption? = cursor.optionName? >>= fun (name, setting) =>
      (Pattern.parenthesised setting).map fun stop =>
        (⟨name, some (setting.stringUntil stop)⟩, stop) := by
  unfold parenthesisedOption?
  congr 1
  funext (name, setting)
  unfold Pattern.parenthesised
  simp only
  cases setting.char? '(' with
  | none => rfl
  | some opened => exact Option.map_eq_bind.symm

/-- The length that is counted in bytes is that of the text up to `stop`. -/
structure MeasuredTo (cursor stop : Cursor) (length : Nat) : Prop where
  reaches : cursor.Reaches stop
  length_eq : length = String.utf8Len (cursor.textUntil stop)

/-- An offset inside of the text up to `bound` is an offset behind the cursor. -/
theorem measuredTo_skip {cursor bound next : Cursor} (toBound : cursor.Reaches bound)
    (toNext : (ofText (cursor.stringUntil bound)).Reaches next) :
    cursor.MeasuredTo (cursor.skip ((cursor.textUntil bound).length - next.remaining))
      next.offset := by
  obtain ⟨read, hrest, hbefore⟩ := toNext
  have hsegment : cursor.textUntil bound = read ++ next.rest := by
    simpa [ofText, stringUntil] using hrest
  have hread : next.before = read.reverse := by simpa [ofText] using hbefore
  have hcount : (cursor.textUntil bound).length - next.remaining = read.length := by
    rw [hsegment, List.length_append, remaining]
    omega
  have hcursor : cursor.rest = read ++ (next.rest ++ bound.rest) := by
    rw [← toBound.textUntil_append.1, hsegment, List.append_assoc]
  have hskip := skip_append cursor.before read (next.rest ++ bound.rest)
  have htext := textUntil_append cursor.before (read.reverse ++ cursor.before) read
    (next.rest ++ bound.rest)
  rw [← hcursor] at hskip htext
  rw [hcount, hskip]
  refine ⟨⟨read, hcursor, rfl⟩, ?_⟩
  rw [htext, offset_eq_utf8Len, hread, String.utf8Len_reverse]

theorem bareLength_agrees (cursor : Cursor) :
    Agrees cursor.MeasuredTo cursor.bareSettingEnd?
      (ByteCursor.bareLength (String.ofList cursor.rest)) := by
  let bound := cursor.skipWhile fun ch => ch != ')' && ch != ';'
  let bound? := if bound.atEnd then none else some (String.utf8Len (cursor.textUntil bound))
  have toBound : cursor.Reaches bound := cursor.skipWhile_reaches _
  have hindex : Checked.indexOf? (String.ofList cursor.rest) (fun ch => ch == ')' || ch == ';') =
      bound? := by
    have hrest := cursor.indexOf?_rest fun ch => ch == ')' || ch == ';'
    simp only [Bool.not_or] at hrest
    exact hrest
  have hlimit : bound?.getD (String.ofList cursor.rest).utf8ByteSize =
      String.utf8Len (cursor.textUntil bound) := by
    have hrest := cursor.getD_indexOf?_rest fun ch => ch == ')' || ch == ';'
    simp only [Bool.not_or] at hrest
    rw [← hindex]
    exact hrest
  -- the pattern does not notice the text in front of the segment
  let segment := ofText (cursor.stringUntil bound)
  have hsegment : (⟨cursor.before, cursor.textUntil bound⟩ : Cursor) =
      segment.behind cursor.before := by
    simp [segment, behind, ofText, stringUntil]
  have hfind := segment.find?_behind cursor.before
    (Pattern.nextOption_ignoresBefore cursor.before)
  rw [← hsegment] at hfind
  unfold ByteCursor.bareLength bareSettingEnd?
  simp only [hindex, hlimit, slice_rest_of_reaches toBound, pure_bind]
  change Agrees _ (match find? ⟨cursor.before, cursor.textUntil bound⟩ Pattern.nextOption with
    | some next => some (cursor.skip ((cursor.textUntil bound).length - next.start.remaining))
    | none => if bound.atEnd then none else some bound) (match segment.find? Pattern.nextOption with
    | some next => pure next.start.offset
    | none => Checked.ofOption bound?)
  rw [hfind]
  cases hfound : segment.find? Pattern.nextOption with
  | none =>
      by_cases hend : bound.atEnd = true
      · simp only [Option.map_none, bound?, if_pos hend]
        exact rfl
      · simp only [Option.map_none, bound?, if_neg hend]
        exact Agrees.ofValue ⟨toBound, rfl⟩
  | some next => exact Agrees.ofValue (measuredTo_skip toBound (find?_some hfound).1)

end Cursor

namespace Stands

variable {text : String} {cursor : Cursor} {bytes : ByteCursor}

theorem optionName?_agrees (h : Stands text cursor bytes) :
    Agrees (Reads text) cursor.optionName? bytes.optionName? := by
  apply h.dynamicName?_agrees.bindRead
  intro name stop stop' hstop
  apply hstop.skipSpace_agrees.bindValue
  intro start hstart
  apply (hstart.char?_agrees '=').bind
  intro equals equals' hequals
  apply hequals.skipSpace_agrees.bindValue
  intro setting hsetting
  exact Agrees.read hsetting

theorem parenthesisedOption?_agrees (h : Stands text cursor bytes) :
    Agrees (Reads text) cursor.parenthesisedOption? bytes.parenthesisedOption? := by
  rw [cursor.parenthesisedOption?_eq]
  apply h.optionName?_agrees.bindRead
  intro name setting setting' hsetting
  have hmatch := hsetting.matching?_agrees Pattern.parenthesised
    Pattern.parenthesised_ignoresBefore Pattern.parenthesised_reaches
  have hread := hmatch.mapRead fun value => (⟨name, some value⟩ : DatasetOption)
  rwa [Option.map_map] at hread

theorem quotedOption?_agrees (h : Stands text cursor bytes) :
    Agrees (Reads text) cursor.quotedOption? bytes.quotedOption? := by
  apply h.optionName?_agrees.bindRead
  intro name setting setting' hsetting
  apply hsetting.quotedPath?_agrees.bindRead
  intro path stop stop' hstop
  exact Agrees.read hstop

theorem bareOption?_agrees (h : Stands text cursor bytes) :
    Agrees (Reads text) cursor.bareOption? bytes.bareOption? := by
  apply h.optionName?_agrees.bindRead
  intro name setting setting' hsetting
  simp only [hsetting.rest_eq, pure_bind]
  apply setting.bareLength_agrees.bind
  intro stop length ⟨reaches, hlength⟩
  simp only [hlength, Cursor.slice_rest_of_reaches reaches, pure_bind]
  apply (hsetting.jump_by_agrees reaches).bindValue
  intro stop' hstop
  exact Agrees.read hstop

theorem flagOption?_agrees (h : Stands text cursor bytes) :
    Agrees (Reads text) cursor.flagOption? bytes.flagOption? := by
  apply h.dynamicName?_agrees.bindRead
  intro name stop stop' hstop
  exact Agrees.read hstop

theorem datasetOption?_agrees (h : Stands text cursor bytes) :
    Agrees (Reads text) cursor.datasetOption? bytes.datasetOption? :=
  h.parenthesisedOption?_agrees.orElse
    (h.quotedOption?_agrees.orElse (h.bareOption?_agrees.orElse h.flagOption?_agrees))

theorem macroOption?_agrees (h : Stands text cursor bytes) :
    Agrees (Reads text) cursor.macroOption? bytes.macroOption? :=
  h.parenthesisedOption?_agrees.orElse (h.quotedOption?_agrees.orElse h.flagOption?_agrees)

end Stands

section Lists

variable {α : Type} {text : String} {item : Reader α} {separator : Cursor → Option Cursor}
  {checkedItem : CheckedReader α} {checkedSeparator : ByteCursor → Checked ByteCursor}
  {cursor : Cursor} {bytes : ByteCursor}

theorem bracketed_agrees
    (hitem : ∀ cursor bytes, Stands text cursor bytes →
      Agrees (Reads text) (item cursor) (checkedItem bytes))
    (hseparator : ∀ cursor bytes, Stands text cursor bytes →
      Agrees (Stands text) (separator cursor) (checkedSeparator bytes))
    (hitemPasses : ∀ cursor value after, item cursor = some (value, after) →
      cursor.Passes after)
    (hseparatorPasses : ∀ cursor after, separator cursor = some after → cursor.Passes after)
    (h : Stands text cursor bytes) :
    Agrees (Reads text) (do
      let opened ← cursor.char? '('
      let (items, closing) := separated item separator opened.skipSpace
      let stop ← closing.skipSpace.char? ')'
      return (items, stop)) (bytes.bracketed checkedItem checkedSeparator) := by
  apply (h.char?_agrees '(').bind
  intro opened opened' hopened
  apply hopened.skipSpace_agrees.bindValue
  intro start hstart
  have hlist := separated_agrees hitem hseparator (fun _ _ _ h => (hitemPasses _ _ _ h).reaches)
    (fun _ _ h => (hseparatorPasses _ _ h).reaches) hstart
  apply hlist.bindReadValue
  intro closing hclosing
  apply hclosing.skipSpace_agrees.bindValue
  intro mark hmark
  apply (hmark.char?_agrees ')').bind
  intro stop stop' hstop
  exact Agrees.read hstop

theorem slashed_agrees
    (hitem : ∀ cursor bytes, Stands text cursor bytes →
      Agrees (Reads text) (item cursor) (checkedItem bytes))
    (hitemPasses : ∀ cursor value after, item cursor = some (value, after) →
      cursor.Passes after)
    (h : Stands text cursor bytes) :
    Agrees (Reads text) (do
      let slash ← cursor.skipSpace.char? '/'
      return separated item Cursor.space? slash.skipSpace) (bytes.slashed checkedItem) := by
  apply h.skipSpace_agrees.bindValue
  intro start hstart
  apply (hstart.char?_agrees '/').bind
  intro slash slash' hslash
  apply hslash.skipSpace_agrees.bindValue
  intro first hfirst
  exact separated_agrees hitem (fun _ _ h => h.space?_agrees)
    (fun _ _ _ h => (hitemPasses _ _ _ h).reaches)
    (fun _ _ h => (Cursor.space?_passes h).reaches) hfirst

end Lists

namespace Stands

variable {text : String} {cursor : Cursor} {bytes : ByteCursor}

theorem datasetOptions?_agrees (h : Stands text cursor bytes) :
    Agrees (Reads text) cursor.datasetOptions? bytes.datasetOptions? :=
  bracketed_agrees (fun _ _ h => h.datasetOption?_agrees) (fun _ _ h => h.space?_agrees)
    (fun _ _ _ => Cursor.datasetOption?_passes) (fun _ _ => Cursor.space?_passes) h

/-! ## References -/

theorem qualifier?_agrees (h : Stands text cursor bytes) :
    Agrees (Reads text) cursor.qualifier? bytes.qualifier? := by
  apply h.dynamicName?_agrees.bindRead
  intro library stop stop' hstop
  apply (hstop.char?_agrees '.').bind
  intro dot dot' hdot
  exact Agrees.read hdot

theorem datasetName?_agrees (h : Stands text cursor bytes) :
    Agrees (Reads text) cursor.datasetName? bytes.datasetName? := by
  apply Agrees.orElse
  · apply (h.char?_agrees '.').bind
    intro dot dot' hdot
    exact hdot.dynamicName?_agrees
  · exact h.dynamicName?_agrees

theorem datasetReference?_agrees (h : Stands text cursor bytes) :
    Agrees (Reads text) cursor.datasetReference? bytes.datasetReference? := by
  apply (h.optional_agrees h.qualifier?_agrees).bindReadValue
  intro start hstart
  apply hstart.datasetName?_agrees.bindRead
  intro dataset stop stop' hstop
  have hoptions : Agrees (Reads text) stop.skipSpace.datasetOptions? (do
      let start ← stop'.skipSpace
      start.datasetOptions?) :=
    hstop.skipSpace_agrees.bindValue fun _ hblank => hblank.datasetOptions?_agrees
  apply (hstop.optional_agrees hoptions).bindReadValue
  intro last hlast
  exact Agrees.read hlast

theorem datasetList_agrees (h : Stands text cursor bytes) :
    Agrees (Reads text) (some cursor.datasetList) bytes.datasetList :=
  separated_agrees (fun _ _ h => h.datasetReference?_agrees) (fun _ _ h => h.space?_agrees)
    (fun _ _ _ h => (Cursor.datasetReference?_passes h).reaches)
    (fun _ _ h => (Cursor.space?_passes h).reaches) h

theorem datasetEnumeration_agrees (h : Stands text cursor bytes) :
    Agrees (Reads text) (some cursor.datasetEnumeration) bytes.datasetEnumeration :=
  separated_agrees (fun _ _ h => h.datasetReference?_agrees) (fun _ _ h => h.comma?_agrees)
    (fun _ _ _ h => (Cursor.datasetReference?_passes h).reaches)
    (fun _ _ h => (comma?_passes h).reaches) h

end Stands

end SasOutline
