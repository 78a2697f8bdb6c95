import Mathlib.Data.String.Basic
import SasOutline.Proofs.KnownText

/-!
# Cursors as byte offsets

A cursor of a text stands at a byte offset of that text, and the offset is a
character boundary.  The cursor is determined by its offset, the text between
two cursors is the slice between their offsets, and reading a character raises
the offset.
-/

namespace SasOutline

namespace Cursor

/-- The cursor stands between two characters of `text`. -/
def InText (text : String) (cursor : Cursor) : Prop :=
  (ofText text).Reaches cursor

theorem ofText_inText (text : String) : (ofText text).InText text :=
  Reaches.refl _

theorem InText.of_reaches {text : String} {cursor later : Cursor}
    (hcursor : cursor.InText text) (reaches : cursor.Reaches later) :
    later.InText text :=
  Reaches.trans hcursor reaches

theorem InText.toList_eq {text : String} {cursor : Cursor} (h : cursor.InText text) :
    text.toList = cursor.before.reverse ++ cursor.rest := by
  obtain ⟨read, hrest, hbefore⟩ := h
  have hread : cursor.before.reverse = read := by simp [hbefore, ofText]
  rw [hread]
  exact hrest

theorem offset_eq_utf8Len (cursor : Cursor) :
    cursor.offset = String.utf8Len cursor.before := by
  unfold offset
  induction cursor.before with
  | nil => rfl
  | cons ch before ih =>
      simp only [List.foldr_cons, String.utf8Len_cons, ih]
      omega

theorem Reaches.offset_eq {cursor later : Cursor} (reaches : cursor.Reaches later) :
    later.offset = cursor.offset + String.utf8Len (cursor.textUntil later) := by
  have hbefore := reaches.textUntil_append.2
  rw [offset_eq_utf8Len, offset_eq_utf8Len, hbefore]
  simp only [String.utf8Len_append, String.utf8Len_reverse]
  omega

theorem Passes.textUntil_ne_nil {cursor later : Cursor} (passes : cursor.Passes later) :
    cursor.textUntil later ≠ [] := by
  intro hread
  have hrest := passes.reaches.textUntil_append.1
  rw [hread, List.nil_append] at hrest
  have hless := passes.remaining_lt
  simp only [remaining, hrest] at hless
  omega

theorem Passes.offset_lt {cursor later : Cursor} (passes : cursor.Passes later) :
    cursor.offset < later.offset := by
  have hread := passes.textUntil_ne_nil
  have hpos : String.utf8Len (cursor.textUntil later) ≠ 0 := by
    simpa using hread
  have := passes.reaches.offset_eq
  omega

theorem InText.utf8ByteSize_eq {text : String} {cursor : Cursor} (h : cursor.InText text) :
    text.utf8ByteSize = cursor.offset + String.utf8Len cursor.rest := by
  rw [← String.utf8Len_toList, h.toList_eq, offset_eq_utf8Len]
  simp only [String.utf8Len_append, String.utf8Len_reverse]

theorem InText.isValid_offset {text : String} {cursor : Cursor} (h : cursor.InText text) :
    (⟨cursor.offset⟩ : String.Pos.Raw).IsValid text := by
  rw [String.Pos.Raw.isValid_iff_exists_append]
  refine ⟨String.ofList cursor.before.reverse, String.ofList cursor.rest, ?_, ?_⟩
  · rw [← String.ofList_append, ← h.toList_eq, String.ofList_toList]
  · rw [String.rawEndPos_ofList, String.utf8Len_reverse, offset_eq_utf8Len]

/-- The text between two cursors is a slice of the text they stand in. -/
theorem InText.extract_eq_stringUntil {text : String} {cursor later : Cursor}
    (h : cursor.InText text) (reaches : cursor.Reaches later) :
    String.Pos.Raw.extract text ⟨cursor.offset⟩ ⟨later.offset⟩ =
      cursor.stringUntil later := by
  have hsplit : text =
      String.ofList (cursor.before.reverse ++ cursor.textUntil later ++ later.rest) := by
    rw [List.append_assoc, reaches.textUntil_append.1, ← h.toList_eq, String.ofList_toList]
  have hstart : cursor.offset = String.utf8Len cursor.before.reverse := by
    rw [String.utf8Len_reverse, offset_eq_utf8Len]
  rw [reaches.offset_eq, hstart]
  conv_lhs => rw [hsplit]
  exact String.extract_of_valid _ _ _

theorem InText.extract_zero_eq {text : String} {cursor : Cursor} (h : cursor.InText text) :
    (String.Pos.Raw.extract text 0 ⟨cursor.offset⟩).toList = cursor.before.reverse := by
  have hslice := (ofText_inText text).extract_eq_stringUntil h
  have hbefore := (Reaches.textUntil_append h).2
  have hzero : (ofText text).offset = 0 := rfl
  rw [hzero] at hslice
  change String.Pos.Raw.extract text 0 ⟨cursor.offset⟩ = _ at hslice
  rw [hslice, hbefore]
  simp [stringUntil, ofText]

/-! ## The cursor at an offset -/

/-- Read `count` bytes, unless they end inside of a character or beyond the text. -/
def seekFrom (before : List Char) : List Char → Nat → Option Cursor
  | rest, 0 => some ⟨before, rest⟩
  | [], _ + 1 => none
  | ch :: rest, count + 1 =>
      if ch.utf8Size ≤ count + 1 then
        seekFrom (ch :: before) rest (count + 1 - ch.utf8Size)
      else none

/-- The cursor of `text` at a byte offset, if that is a character boundary. -/
def seek? (text : String) (offset : Nat) : Option Cursor :=
  seekFrom [] text.toList offset

theorem seekFrom_utf8Len (before read rest : List Char) :
    seekFrom before (read ++ rest) (String.utf8Len read) =
      some ⟨read.reverse ++ before, rest⟩ := by
  induction read generalizing before with
  | nil => simp [seekFrom]
  | cons ch read ih =>
      have hsize := ch.utf8Size_pos
      obtain ⟨count, hcount⟩ : ∃ count, String.utf8Len read + ch.utf8Size = count + 1 :=
        ⟨String.utf8Len read + ch.utf8Size - 1, by omega⟩
      rw [List.cons_append, String.utf8Len_cons, hcount, seekFrom, if_pos (by omega)]
      have hless : count + 1 - ch.utf8Size = String.utf8Len read := by omega
      rw [hless, ih]
      simp

theorem InText.seek?_offset {text : String} {cursor : Cursor} (h : cursor.InText text) :
    seek? text cursor.offset = some cursor := by
  have hseek := seekFrom_utf8Len [] cursor.before.reverse cursor.rest
  rw [← h.toList_eq, String.utf8Len_reverse, ← offset_eq_utf8Len] at hseek
  simpa [seek?] using hseek

theorem seekFrom_reaches {before rest : List Char} {count : Nat} {cursor : Cursor}
    (h : seekFrom before rest count = some cursor) :
    Reaches ⟨before, rest⟩ cursor ∧ cursor.offset = Cursor.offset ⟨before, rest⟩ + count := by
  induction rest generalizing before count with
  | nil =>
      cases count with
      | zero =>
          obtain rfl := Option.some.inj h
          exact ⟨Reaches.refl _, rfl⟩
      | succ count => simp [seekFrom] at h
  | cons ch rest ih =>
      cases count with
      | zero =>
          obtain rfl := Option.some.inj h
          exact ⟨Reaches.refl _, rfl⟩
      | succ count =>
          simp only [seekFrom] at h
          split at h
          · next hfits =>
              obtain ⟨reaches, hoffset⟩ := ih h
              refine ⟨Reaches.trans ⟨[ch], rfl, rfl⟩ reaches, ?_⟩
              rw [hoffset]
              simp only [offset, List.foldr_cons]
              omega
          · contradiction

theorem seek?_inText {text : String} {offset : Nat} {cursor : Cursor}
    (h : seek? text offset = some cursor) :
    cursor.InText text ∧ cursor.offset = offset := by
  obtain ⟨reaches, hoffset⟩ := seekFrom_reaches h
  have hzero : Cursor.offset ⟨[], text.toList⟩ = 0 := rfl
  rw [hzero, Nat.zero_add] at hoffset
  exact ⟨reaches, hoffset⟩

/-! ## Reading one character -/

theorem bump?_offset {cursor after : Cursor} {ch : Char}
    (h : cursor.bump? = some (ch, after)) :
    after.offset = cursor.offset + ch.utf8Size := by
  unfold offset
  rw [(bump?_eq_some h).2]
  simp only [List.foldr_cons]
  omega

theorem bump?_stringUntil {cursor after : Cursor} {ch : Char}
    (h : cursor.bump? = some (ch, after)) :
    cursor.stringUntil after = String.ofList [ch] := by
  simp [stringUntil, textUntil, remaining, (bump?_eq_some h).1]

theorem bump?_eq_none {cursor : Cursor} (h : cursor.bump? = none) : cursor.rest = [] := by
  unfold bump? at h
  split at h
  · assumption
  · contradiction

end Cursor

end SasOutline
