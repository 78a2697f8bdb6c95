import SasOutline.CommentText
import SasOutline.DynamicName
import SasOutline.Proofs.CheckedPrimitives
import SasOutline.Proofs.TextInFront
import SasOutline.QuotedText

/-!
# Names, quotations and comments at byte offsets

Names, quotations and comments are matched at the start of a slice and never
look at the text before it.  The delimiters of a quotation or a comment are then
cut off by counting bytes, one for each quotation mark, star or semicolon, which
is why it matters that every delimiter is ASCII.
-/

namespace SasOutline

/-! ## Readers that do not look back -/

namespace Pattern

def name : Pattern := fun cursor => cursor.run? isNameCharacter

def reference : Pattern := Cursor.referenceEnd?

def quotedPath : Pattern := fun cursor => do
  let opened ← cursor.quotationMark?
  let closing ← opened.run? (! isQuotationMark ·)
  closing.quotationMark?

def quotedString : Pattern := fun cursor => do
  let opened ← cursor.quotationMark?
  (opened.skipWhile (! isQuotationMark ·)).quotationMark?

def starComment : Pattern := fun cursor => do
  let opened ← cursor.char? '*'
  let closing ← opened.run? (· != ';')
  closing.char? ';'

def blockComment : Pattern := fun cursor => do
  let slash ← cursor.char? '/'
  let opened ← slash.char? '*'
  let (_, body) ← opened.bump?
  let closer ← body.find? blockCloser
  return closer.stop

theorem name_ignoresBefore : name.IgnoresBefore := fun before cursor =>
  cursor.run?_behind before isNameCharacter

theorem name_reaches (cursor stop : Cursor) (h : name cursor = some stop) :
    cursor.Reaches stop :=
  (Cursor.run?_passes h).reaches

theorem reference_ignoresBefore : reference.IgnoresBefore :=
  fun _ => Cursor.referenceEnd?_behind

theorem reference_reaches (cursor stop : Cursor) (h : reference cursor = some stop) :
    cursor.Reaches stop :=
  (Cursor.referenceEnd?_passes h).reaches

theorem quotedPath_ignoresBefore : quotedPath.IgnoresBefore := by
  intro before cursor
  refine bind_image (Cursor.quotationMark?_behind cursor) fun opened => ?_
  refine bind_image (opened.run?_behind before _) fun closing => ?_
  exact Cursor.quotationMark?_behind closing

theorem quotedPath_reaches (cursor stop : Cursor) (h : quotedPath cursor = some stop) :
    cursor.Reaches stop := by
  obtain ⟨opened, hopened, h⟩ := Option.bind_eq_some_iff.1 h
  obtain ⟨closing, hclosing, hstop⟩ := Option.bind_eq_some_iff.1 h
  exact (((Cursor.quotationMark?_passes hopened).trans (Cursor.run?_passes hclosing)).trans
    (Cursor.quotationMark?_passes hstop)).reaches

theorem quotedString_ignoresBefore : quotedString.IgnoresBefore := by
  intro before cursor
  refine bind_image (Cursor.quotationMark?_behind cursor) fun opened => ?_
  rw [opened.skipWhile_behind]
  exact Cursor.quotationMark?_behind _

theorem quotedString_reaches (cursor stop : Cursor) (h : quotedString cursor = some stop) :
    cursor.Reaches stop := by
  obtain ⟨opened, hopened, hstop⟩ := Option.bind_eq_some_iff.1 h
  exact (Cursor.quotationMark?_passes hopened).reaches.trans
    ((opened.skipWhile_reaches _).trans (Cursor.quotationMark?_passes hstop).reaches)

theorem starComment_ignoresBefore : starComment.IgnoresBefore := by
  intro before cursor
  refine bind_image (cursor.char?_behind before '*') fun opened => ?_
  refine bind_image (opened.run?_behind before _) fun closing => ?_
  exact closing.char?_behind before ';'

theorem starComment_reaches (cursor stop : Cursor) (h : starComment cursor = some stop) :
    cursor.Reaches stop := by
  obtain ⟨opened, hopened, h⟩ := Option.bind_eq_some_iff.1 h
  obtain ⟨closing, hclosing, hstop⟩ := Option.bind_eq_some_iff.1 h
  exact (((Cursor.char?_passes hopened).trans (Cursor.run?_passes hclosing)).trans
    (Cursor.char?_passes hstop)).reaches

theorem blockComment_ignoresBefore : blockComment.IgnoresBefore := by
  intro before cursor
  refine bind_image (cursor.char?_behind before '/') fun slash => ?_
  refine bind_image (slash.char?_behind before '*') fun opened => ?_
  refine bind_image (opened.bump?_behind before) fun (_, body) => ?_
  refine bind_image (body.find?_behind before Cursor.blockCloser_behind) fun closer => ?_
  rfl

theorem blockComment_reaches (cursor stop : Cursor) (h : blockComment cursor = some stop) :
    cursor.Reaches stop := by
  obtain ⟨slash, hslash, h⟩ := Option.bind_eq_some_iff.1 h
  obtain ⟨opened, hopened, h⟩ := Option.bind_eq_some_iff.1 h
  obtain ⟨⟨_, body⟩, hbody, h⟩ := Option.bind_eq_some_iff.1 h
  obtain ⟨closer, hcloser, h⟩ := Option.bind_eq_some_iff.1 h
  obtain rfl := Option.some.inj h
  have toBody : cursor.Passes body :=
    ((Cursor.char?_passes hslash).trans (Cursor.char?_passes hopened)).trans
      (Cursor.bump?_passes hbody)
  have ⟨toCloser, hstop⟩ := Cursor.find?_some hcloser
  exact toBody.reaches.trans (toCloser.trans (Cursor.blockCloser_reaches hstop))

end Pattern

/-! ## Names -/

namespace ByteCursor

open Checked

def plainName? (cursor : ByteCursor) : Checked (String × ByteCursor) :=
  cursor.matching? Pattern.name

def macroVariable? (cursor : ByteCursor) : Checked (MacroVariable × ByteCursor) := do
  let (raw, next) ← cursor.matching? Pattern.reference
  return (⟨raw⟩, next)

def nameSegment? (cursor : ByteCursor) : Checked (NameSegment × ByteCursor) :=
  (do let (text, next) ← cursor.plainName?
      return (.literal text, next)) <|>
  (do let (written, next) ← cursor.macroVariable?
      return (.reference written, next))

def dynamicName? (cursor : ByteCursor) : Checked (DynamicName × ByteCursor) := do
  let (segments, stop) ← cursor.repeated nameSegment? List.cons []
  if segments.isEmpty then failure else return (⟨segments⟩, stop)

/-- The quotation is matched with its marks, which are cut off afterwards. -/
def quotedPath? (cursor : ByteCursor) : Checked (String × ByteCursor) := do
  let (quoted, next) ← cursor.matching? Pattern.quotedPath
  let path ← inner quoted 1 1
  return (path, next)

def quotedString? (cursor : ByteCursor) : Checked (String × ByteCursor) :=
  cursor.matching? Pattern.quotedString

def starComment? (cursor : ByteCursor) : Checked (Comment × ByteCursor) := do
  let (raw, next) ← cursor.matching? Pattern.starComment
  let comment ← Comment.mk <$> inner raw 1 1
  return (comment, next)

def blockComment? (cursor : ByteCursor) : Checked (Comment × ByteCursor) := do
  let (raw, next) ← cursor.matching? Pattern.blockComment
  let comment ← Comment.mk <$> inner raw 2 2
  return (comment, next)

def comment? (cursor : ByteCursor) : Checked (Comment × ByteCursor) :=
  cursor.starComment? <|> cursor.blockComment?

end ByteCursor

namespace Stands

variable {text : String} {cursor : Cursor} {bytes : ByteCursor}

theorem plainName?_agrees (h : Stands text cursor bytes) :
    Agrees (Reads text) cursor.plainName? bytes.plainName? :=
  h.matching?_agrees Pattern.name Pattern.name_ignoresBefore Pattern.name_reaches

theorem macroVariable?_agrees (h : Stands text cursor bytes) :
    Agrees (Reads text) cursor.macroVariable? bytes.macroVariable? := by
  have hmatch := h.matching?_agrees Pattern.reference Pattern.reference_ignoresBefore
    Pattern.reference_reaches
  have hread := hmatch.mapRead MacroVariable.mk
  rwa [Option.map_map] at hread

theorem nameSegment?_agrees (h : Stands text cursor bytes) :
    Agrees (Reads text) cursor.nameSegment? bytes.nameSegment? := by
  have hsegment : cursor.nameSegment? =
      (cursor.plainName?.map (Prod.map NameSegment.literal id) <|>
        cursor.macroVariable?.map (Prod.map NameSegment.reference id)) := by
    unfold Cursor.nameSegment?
    cases cursor.plainName? <;> rfl
  rw [hsegment]
  exact (h.plainName?_agrees.mapRead NameSegment.literal).orElse
    (h.macroVariable?_agrees.mapRead NameSegment.reference)

theorem nameSegments_agrees (h : Stands text cursor bytes) :
    Agrees (Reads text) (some cursor.nameSegments)
      (bytes.repeated ByteCursor.nameSegment? List.cons []) :=
  repeated_agrees Cursor.nameSegments (fun _ _ => nameSegment?_agrees)
    (fun _ _ _ => Cursor.nameSegment?_passes)
    (fun _ => Cursor.nameSegments_of_none) (fun _ _ _ => Cursor.nameSegments_of_some) h

theorem dynamicName?_agrees (h : Stands text cursor bytes) :
    Agrees (Reads text) cursor.dynamicName? bytes.dynamicName? := by
  unfold Cursor.dynamicName? ByteCursor.dynamicName?
  have hread := h.nameSegments_agrees
  generalize cursor.nameSegments = read at hread
  obtain ⟨segments, stop⟩ := read
  refine hread.bindReadValue fun next hnext => ?_
  cases segments with
  | nil => exact rfl
  | cons segment segments => exact Agrees.read hnext

end Stands

/-! ## Quotations and comments -/

namespace Cursor

/-- Both quotation marks are ASCII. -/
theorem quotationMark?_utf8Len {cursor later : Cursor} (h : cursor.quotationMark? = some later) :
    String.utf8Len (cursor.textUntil later) = 1 := by
  unfold quotationMark? at h
  split at h
  · next hpeek =>
      obtain rfl := Option.some.inj h
      obtain ⟨before, rest⟩ := cursor
      cases rest with
      | nil => simp [peek] at hpeek
      | cons ch rest =>
          have hch : ch = '"' ∨ ch = '\'' := by simpa [peek, isQuotationMark] using hpeek
          have htext : textUntil ⟨before, ch :: rest⟩ (skip ⟨before, ch :: rest⟩ 1) = [ch] := by
            simp [textUntil, remaining, skip]
          rw [htext]
          rcases hch with rfl | rfl <;> rfl
  · contradiction

theorem char?_utf8Len {cursor later : Cursor} {mark : Char} (hmark : mark.utf8Size = 1)
    (h : cursor.char? mark = some later) : String.utf8Len (cursor.textUntil later) = 1 := by
  rw [char?_textUntil h]
  simpa using hmark

end Cursor

namespace Stands

variable {text : String} {cursor : Cursor} {bytes : ByteCursor}

theorem quotedPath?_agrees (h : Stands text cursor bytes) :
    Agrees (Reads text) cursor.quotedPath? bytes.quotedPath? := by
  refine h.matchingValue_agrees Pattern.quotedPath Pattern.quotedPath_ignoresBefore
    Pattern.quotedPath_reaches (Checked.inner · 1 1) ?_ ?_
  · simp [Cursor.quotedPath?, Pattern.quotedPath, Option.map_bind]
  · intro path stop hpath
    obtain ⟨opened, hopened, hpath⟩ := Option.bind_eq_some_iff.1 hpath
    obtain ⟨closing, hclosing, hpath⟩ := Option.bind_eq_some_iff.1 hpath
    obtain ⟨stop, hstop, hpath⟩ := Option.bind_eq_some_iff.1 hpath
    obtain ⟨rfl, rfl⟩ := Prod.mk.inj (Option.some.inj hpath)
    have hinner := Cursor.inner_of_reaches (Cursor.quotationMark?_passes hopened).reaches
      (Cursor.run?_passes hclosing).reaches (Cursor.quotationMark?_passes hstop).reaches
    rwa [Cursor.quotationMark?_utf8Len hopened, Cursor.quotationMark?_utf8Len hstop] at hinner

theorem quotedString?_agrees (h : Stands text cursor bytes) :
    Agrees (Reads text) cursor.quotedString? bytes.quotedString? := by
  have hmatch := h.matching?_agrees Pattern.quotedString Pattern.quotedString_ignoresBefore
    Pattern.quotedString_reaches
  have hquoted : cursor.quotedString? =
      (Pattern.quotedString cursor).map fun stop => (cursor.stringUntil stop, stop) := by
    unfold Cursor.quotedString? Pattern.quotedString
    cases cursor.quotationMark? with
    | none => rfl
    | some opened => exact Option.map_eq_bind.symm
  rwa [← hquoted] at hmatch

theorem starComment?_agrees (h : Stands text cursor bytes) :
    Agrees (Reads text) cursor.starComment? bytes.starComment? := by
  refine h.matchingValue_agrees Pattern.starComment Pattern.starComment_ignoresBefore
    Pattern.starComment_reaches (Comment.mk <$> Checked.inner · 1 1) ?_ ?_
  · simp [Cursor.starComment?, Pattern.starComment, Option.map_bind]
  · intro comment stop hcomment
    obtain ⟨opened, hopened, hcomment⟩ := Option.bind_eq_some_iff.1 hcomment
    obtain ⟨closing, hclosing, hcomment⟩ := Option.bind_eq_some_iff.1 hcomment
    obtain ⟨stop, hstop, hcomment⟩ := Option.bind_eq_some_iff.1 hcomment
    obtain ⟨rfl, rfl⟩ := Prod.mk.inj (Option.some.inj hcomment)
    have hinner := Cursor.inner_of_reaches (Cursor.char?_passes hopened).reaches
      (Cursor.run?_passes hclosing).reaches (Cursor.char?_passes hstop).reaches
    rw [Cursor.char?_utf8Len rfl hopened, Cursor.char?_utf8Len rfl hstop] at hinner
    rw [hinner, map_pure]

/-- A closing mark is found behind the first character of the comment, so it does
not share the star of the opening mark. -/
theorem blockComment?_agrees (h : Stands text cursor bytes) :
    Agrees (Reads text) cursor.blockComment? bytes.blockComment? := by
  refine h.matchingValue_agrees Pattern.blockComment Pattern.blockComment_ignoresBefore
    Pattern.blockComment_reaches (Comment.mk <$> Checked.inner · 2 2) ?_ ?_
  · simp [Cursor.blockComment?, Pattern.blockComment, Option.map_bind]
  · intro comment stop hcomment
    obtain ⟨slash, hslash, hcomment⟩ := Option.bind_eq_some_iff.1 hcomment
    obtain ⟨opened, hopened, hcomment⟩ := Option.bind_eq_some_iff.1 hcomment
    obtain ⟨⟨first, body⟩, hbody, hcomment⟩ := Option.bind_eq_some_iff.1 hcomment
    obtain ⟨closer, hcloser, hcomment⟩ := Option.bind_eq_some_iff.1 hcomment
    obtain ⟨rfl, rfl⟩ := Prod.mk.inj (Option.some.inj hcomment)
    have ⟨toCloser, hstop⟩ := Cursor.find?_some hcloser
    obtain ⟨star, hstar, hend⟩ := Option.bind_eq_some_iff.1 hstop
    have toSlash := (Cursor.char?_passes hslash).reaches
    have toOpened := (Cursor.char?_passes hopened).reaches
    have toStar := (Cursor.char?_passes hstar).reaches
    have toEnd := (Cursor.char?_passes hend).reaches
    have hopening : String.utf8Len (cursor.textUntil opened) = 2 := by
      rw [Cursor.textUntil_trans toSlash toOpened, String.utf8Len_append,
        Cursor.char?_utf8Len rfl hslash, Cursor.char?_utf8Len rfl hopened]
    have hclosing : String.utf8Len (closer.start.textUntil closer.stop) = 2 := by
      rw [Cursor.textUntil_trans toStar toEnd, String.utf8Len_append,
        Cursor.char?_utf8Len rfl hstar, Cursor.char?_utf8Len rfl hend]
    have hinner := Cursor.inner_of_reaches (toSlash.trans toOpened)
      ((Cursor.bump?_passes hbody).reaches.trans toCloser) (toStar.trans toEnd)
    rw [hopening, hclosing] at hinner
    rw [hinner, map_pure]

theorem comment?_agrees (h : Stands text cursor bytes) :
    Agrees (Reads text) cursor.comment? bytes.comment? :=
  h.starComment?_agrees.orElse h.blockComment?_agrees

end Stands

end SasOutline
