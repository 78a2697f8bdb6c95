import SasOutline.Proofs.CheckedReading
import SasOutline.Proofs.KnownText
import SasOutline.Proofs.ReaderImage
import SasOutline.Proofs.ReaderProgress

/-!
# The primitives agree

At a character boundary every primitive of the checked reader agrees with the
primitive of cursors it stands for: the slices it takes lie between two cursors
of the text, and it jumps to a cursor that is reached from where it stands.
-/

namespace SasOutline

/-! ## Slices -/

theorem Cursor.Reaches.offset_le {cursor later : Cursor} (reaches : cursor.Reaches later) :
    cursor.offset ≤ later.offset := by
  have hoffset := reaches.offset_eq
  omega

theorem slice_of_reaches {text : String} {cursor later : Cursor} (h : cursor.InText text)
    (reaches : cursor.Reaches later) :
    Checked.slice text cursor.offset later.offset = pure (cursor.stringUntil later) := by
  have hlater : later.InText text := h.of_reaches reaches
  unfold Checked.slice
  rw [if_pos ⟨reaches.offset_le, h.isValid_offset, hlater.isValid_offset⟩,
    h.extract_eq_stringUntil reaches]

/-- The end of the text a cursor stands in. -/
def Cursor.finish (cursor : Cursor) : Cursor :=
  ⟨cursor.rest.reverse ++ cursor.before, []⟩

theorem Cursor.reaches_finish (cursor : Cursor) : cursor.Reaches cursor.finish :=
  ⟨cursor.rest, (List.append_nil _).symm, rfl⟩

theorem Cursor.InText.finish_offset {text : String} {cursor : Cursor} (h : cursor.InText text) :
    cursor.finish.offset = text.utf8ByteSize := by
  have hsize := (h.of_reaches cursor.reaches_finish).utf8ByteSize_eq
  have hnothing : String.utf8Len cursor.finish.rest = 0 := rfl
  omega

theorem Cursor.stringUntil_finish (cursor : Cursor) :
    cursor.stringUntil cursor.finish = String.ofList cursor.rest := by
  have hall := stringUntil_append cursor.before cursor.finish.before cursor.rest []
  rwa [List.append_nil] at hall

theorem isValid_utf8Len (first second : List Char) :
    (⟨String.utf8Len first⟩ : String.Pos.Raw).IsValid (String.ofList (first ++ second)) := by
  rw [String.Pos.Raw.isValid_iff_exists_append]
  refine ⟨String.ofList first, String.ofList second, String.ofList_append, ?_⟩
  rw [String.rawEndPos_ofList]

theorem exists_split_of_isValid {text : List Char} {count : Nat}
    (h : (⟨count⟩ : String.Pos.Raw).IsValid (String.ofList text)) :
    ∃ first second, text = first ++ second ∧ count = String.utf8Len first := by
  obtain ⟨first, second, hsplit, hcount⟩ := String.Pos.Raw.isValid_iff_exists_append.1 h
  refine ⟨first.toList, second.toList, ?_, ?_⟩
  · rw [← String.toList_append, ← hsplit, String.toList_ofList]
  · rw [String.utf8Len_toList]
    exact congrArg String.Pos.Raw.byteIdx hcount

theorem slice_middle (first middle last : List Char) :
    Checked.slice (String.ofList (first ++ middle ++ last)) (String.utf8Len first)
      (String.utf8Len first + String.utf8Len middle) = pure (String.ofList middle) := by
  let start : Cursor := ⟨first.reverse, middle ++ last⟩
  let stop : Cursor := ⟨middle.reverse ++ first.reverse, last⟩
  have hstart : start.InText (String.ofList (first ++ middle ++ last)) :=
    ⟨first, by simp [start, Cursor.ofText], by simp [start, Cursor.ofText]⟩
  have reaches : start.Reaches stop := ⟨middle, rfl, rfl⟩
  have hfirst : start.offset = String.utf8Len first := by
    rw [Cursor.offset_eq_utf8Len, String.utf8Len_reverse]
  have hread : start.textUntil stop = middle :=
    Cursor.textUntil_append first.reverse stop.before middle last
  have hslice := slice_of_reaches hstart reaches
  rwa [reaches.offset_eq, hread, hfirst, Cursor.stringUntil, hread] at hslice

theorem slice_leading (read rest : List Char) :
    Checked.slice (String.ofList (read ++ rest)) 0 (String.utf8Len read) =
      pure (String.ofList read) := by
  have hslice := slice_middle [] read rest
  simpa using hslice

theorem inner_eq (first middle last : List Char) :
    Checked.inner (String.ofList (first ++ middle ++ last)) (String.utf8Len first)
      (String.utf8Len last) = pure (String.ofList middle) := by
  have hsize : (String.ofList (first ++ middle ++ last)).utf8ByteSize =
      String.utf8Len first + String.utf8Len middle + String.utf8Len last := by
    rw [← String.utf8Len_toList, String.toList_ofList]
    simp only [String.utf8Len_append]
  have hless : String.utf8Len last ≤
      (String.ofList (first ++ middle ++ last)).utf8ByteSize := by omega
  have hstop : (String.ofList (first ++ middle ++ last)).utf8ByteSize - String.utf8Len last =
      String.utf8Len first + String.utf8Len middle := by omega
  unfold Checked.inner Checked.subtract
  rw [if_pos hless, pure_bind, hstop]
  exact slice_middle first middle last

namespace Cursor

theorem textUntil_trans {first second third : Cursor} (left : first.Reaches second)
    (right : second.Reaches third) :
    first.textUntil third = first.textUntil second ++ second.textUntil third := by
  have hleft := left.textUntil_append.1
  have hright := right.textUntil_append.1
  have hboth := (left.trans right).textUntil_append.1
  rw [← hleft, ← hright, ← List.append_assoc] at hboth
  exact List.append_cancel_right hboth

theorem slice_rest_of_reaches {cursor later : Cursor} (reaches : cursor.Reaches later) :
    Checked.slice (String.ofList cursor.rest) 0 (String.utf8Len (cursor.textUntil later)) =
      pure (cursor.stringUntil later) := by
  have hslice := slice_leading (cursor.textUntil later) later.rest
  rwa [reaches.textUntil_append.1] at hslice

theorem char?_textUntil {cursor later : Cursor} {mark : Char}
    (h : cursor.char? mark = some later) : cursor.textUntil later = [mark] := by
  have hrest := (char?_passes h).reaches.textUntil_append.1
  rw [(char?_eq_some h).1] at hrest
  exact List.append_cancel_right hrest

/-- What stands between an opening and a closing part of a text that was read. -/
theorem inner_of_reaches {cursor opened closing stop : Cursor} (toOpened : cursor.Reaches opened)
    (toClosing : opened.Reaches closing) (toStop : closing.Reaches stop) :
    Checked.inner (cursor.stringUntil stop) (String.utf8Len (cursor.textUntil opened))
      (String.utf8Len (closing.textUntil stop)) = pure (opened.stringUntil closing) := by
  have hsplit := textUntil_trans (toOpened.trans toClosing) toStop
  rw [textUntil_trans toOpened toClosing] at hsplit
  unfold stringUntil
  rw [hsplit]
  exact inner_eq _ _ _

end Cursor

/-! ## Places -/

namespace Stands

variable {text : String} {cursor later : Cursor} {bytes : ByteCursor}

theorem ofInText (h : cursor.InText text) : Stands text cursor ⟨text, cursor.offset⟩ :=
  ⟨h, rfl⟩

theorem later_inText (h : Stands text cursor bytes) (reaches : cursor.Reaches later) :
    later.InText text :=
  h.inText.of_reaches reaches

theorem text_eq (h : Stands text cursor bytes) : bytes.text = text := by
  rw [h.bytes_eq]

theorem offset_eq (h : Stands text cursor bytes) : bytes.offset = cursor.offset := by
  rw [h.bytes_eq]

theorem rest_eq (h : Stands text cursor bytes) :
    bytes.rest = pure (String.ofList cursor.rest) := by
  obtain ⟨hcursor, rfl⟩ := h
  have hslice := slice_of_reaches hcursor cursor.reaches_finish
  rwa [hcursor.finish_offset, cursor.stringUntil_finish] at hslice

theorem jump_agrees (h : Stands text cursor bytes) (reaches : cursor.Reaches later) :
    Agrees (Stands text) (some later) (bytes.jump later.offset) := by
  have hlater : later.InText text := h.later_inText reaches
  obtain ⟨-, rfl⟩ := h
  refine ⟨⟨text, later.offset⟩, ?_, ofInText hlater⟩
  unfold ByteCursor.jump
  rw [if_pos ⟨reaches.offset_le, hlater.isValid_offset⟩]

theorem jump_by_agrees (h : Stands text cursor bytes) (reaches : cursor.Reaches later) :
    Agrees (Stands text) (some later)
      (bytes.jump (bytes.offset + String.utf8Len (cursor.textUntil later))) := by
  have hjump := h.jump_agrees reaches
  rwa [reaches.offset_eq, ← h.offset_eq] at hjump

theorem jump_over_agrees (h : Stands text cursor bytes) (read : List Char) {rest : List Char}
    (hrest : cursor.rest = read ++ rest) :
    Agrees (Stands text) (some ⟨read.reverse ++ cursor.before, rest⟩)
      (bytes.jump (bytes.offset + String.utf8Len read)) := by
  have reaches : cursor.Reaches ⟨read.reverse ++ cursor.before, rest⟩ := ⟨read, hrest, rfl⟩
  have hread : cursor.textUntil ⟨read.reverse ++ cursor.before, rest⟩ = read := by
    simp [Cursor.textUntil, Cursor.remaining, hrest]
  have hjump := h.jump_by_agrees reaches
  rwa [hread] at hjump

theorem since_eq (h : Stands text cursor bytes) {after : ByteCursor}
    (hafter : Stands text later after) (reaches : cursor.Reaches later) :
    after.since bytes = pure (cursor.stringUntil later) := by
  have hslice := slice_of_reaches h.inText reaches
  unfold ByteCursor.since
  rwa [h.bytes_eq, hafter.bytes_eq]

theorem peek_eq (h : Stands text cursor bytes) : bytes.peek = pure cursor.peek := by
  unfold ByteCursor.peek
  rw [h.rest_eq]
  simp [Cursor.peek]

end Stands

namespace Agrees

variable {α β : Type} {related : α → β → Prop}

theorem ite {p : Prop} [Decidable p] {first second : Option α}
    {checkedFirst checkedSecond : Checked β} (hfirst : p → Agrees related first checkedFirst)
    (hsecond : ¬ p → Agrees related second checkedSecond) :
    Agrees related (if p then first else second)
      (if p then checkedFirst else checkedSecond) := by
  by_cases h : p
  · rw [if_pos h, if_pos h]
    exact hfirst h
  · rw [if_neg h, if_neg h]
    exact hsecond h

end Agrees

/-! ## Characters and keywords -/

namespace Checked

theorem leading?_append (read rest : List Char) :
    leading? (String.ofList (read ++ rest)) (String.utf8Len read) = some (String.ofList read) := by
  have hextract := String.extract_of_valid [] read rest
  simp only [String.utf8Len_nil, Nat.zero_add, List.nil_append] at hextract
  unfold leading?
  rw [if_pos (isValid_utf8Len read rest)]
  exact congrArg some hextract

theorem leading?_eq_some {rest : List Char} {count : Nat} {head : String}
    (h : leading? (String.ofList rest) count = some head) :
    ∃ tail, rest = head.toList ++ tail := by
  by_cases hvalid : (⟨count⟩ : String.Pos.Raw).IsValid (String.ofList rest)
  · obtain ⟨first, second, hsplit, hcount⟩ := exists_split_of_isValid hvalid
    rw [hsplit, hcount, leading?_append] at h
    obtain rfl := Option.some.inj h
    rw [String.toList_ofList]
    exact ⟨second, hsplit⟩
  · unfold leading? at h
    rw [if_neg hvalid] at h
    contradiction

theorem leading?_equalIgnoringCase {rest : List Char} {count : Nat} {head word : String}
    (h : leading? (String.ofList rest) count = some head)
    (hequal : equalIgnoringCase head word = true) :
    (rest.take word.toList.length).map Char.toLower = word.toList.map Char.toLower := by
  obtain ⟨tail, htail⟩ := leading?_eq_some h
  have hsame : head.toList.map Char.toLower = word.toList.map Char.toLower := by
    simpa [equalIgnoringCase] using hequal
  have hlength : head.toList.length = word.toList.length := by
    simpa using congrArg List.length hsame
  rw [htail, List.take_left' hlength]
  exact hsame

end Checked

namespace Stands

variable {text : String} {cursor later : Cursor} {bytes : ByteCursor}

theorem bump?_agrees (h : Stands text cursor bytes) :
    Agrees (Reads text) cursor.bump? bytes.bump? := by
  unfold ByteCursor.bump?
  rw [h.peek_eq, pure_bind]
  unfold Cursor.bump? Cursor.peek
  cases hrest : cursor.rest with
  | nil => exact rfl
  | cons ch rest =>
      have hjump := h.jump_over_agrees [ch] hrest
      have hskip : cursor.skip 1 = ⟨[ch].reverse ++ cursor.before, rest⟩ := by
        simp [Cursor.skip, hrest]
      have hsize : String.utf8Len [ch] = ch.utf8Size := by simp
      rw [hsize, ← hskip] at hjump
      exact hjump.bindValue fun next hnext => Agrees.ofValue ⟨rfl, hnext⟩

theorem char?_eq_bind (cursor : Cursor) (mark : Char) :
    cursor.char? mark = cursor.bump? >>= fun read =>
      if read.1 = mark then some read.2 else none := by
  unfold Cursor.char? Cursor.peek Cursor.bump?
  cases cursor.rest with
  | nil => simp
  | cons ch rest => simp

theorem char?_agrees (h : Stands text cursor bytes) (mark : Char) :
    Agrees (Stands text) (cursor.char? mark) (bytes.char? mark) := by
  rw [char?_eq_bind]
  unfold ByteCursor.char?
  refine h.bump?_agrees.bind fun (ch, next) (ch', next') hread => ?_
  obtain ⟨hch, hnext⟩ := hread
  simp only at hch hnext ⊢
  rw [hch]
  exact Agrees.ite (fun _ => Agrees.ofValue hnext) fun _ => rfl

/-- A keyword takes as many bytes as it has characters, because both the keyword
and the letters it is compared with are ASCII. -/
theorem keyword?_agrees (h : Stands text cursor bytes) {word : String}
    (hword : IsAscii word.toList) :
    Agrees (Stands text) (cursor.keyword? word) (bytes.keyword? word) := by
  have hsize : word.utf8ByteSize = word.toList.length := by
    rw [← String.utf8Len_toList, utf8Len_of_ascii hword]
  let head := cursor.rest.take word.toList.length
  have hsplit : cursor.rest = head ++ cursor.rest.drop word.toList.length :=
    (List.take_append_drop _ _).symm
  unfold ByteCursor.keyword? Cursor.keyword? Cursor.letters?
  rw [h.rest_eq, pure_bind]
  by_cases hmatch : head.map Char.toLower = word.toList.map Char.toLower
  · have hlength : head.length = word.toList.length := by
      simpa using congrArg List.length hmatch
    have hhead : String.utf8Len head = word.utf8ByteSize := by
      rw [utf8Len_of_ascii (hword.of_map_toLower hmatch), hlength, hsize]
    have hleading : Checked.leading? (String.ofList cursor.rest) word.utf8ByteSize =
        some (String.ofList head) := by
      rw [hsplit, ← hhead]
      exact Checked.leading?_append head _
    have hequal : equalIgnoringCase (String.ofList head) word = true := by
      simpa [equalIgnoringCase] using hmatch
    have hjump := h.jump_over_agrees head hsplit
    rw [if_pos hmatch, hleading, Checked.ofOption_some, pure_bind, if_pos hequal, ← hhead]
    exact hjump
  · rw [if_neg hmatch]
    cases hleading : Checked.leading? (String.ofList cursor.rest) word.utf8ByteSize with
    | none => exact rfl
    | some other =>
        have hother : ¬ equalIgnoringCase other word = true := fun hequal =>
          hmatch (Checked.leading?_equalIgnoringCase hleading hequal)
        rw [Checked.ofOption_some, pure_bind, if_neg hother]
        exact rfl

theorem followsGlue_eq (h : Stands text cursor bytes) :
    bytes.followsGlue = pure cursor.followsGlue := by
  have hslice := slice_of_reaches (Cursor.ofText_inText text) h.inText
  have hbefore : (Cursor.ofText text).textUntil cursor = cursor.before.reverse := by
    have happend := (Cursor.Reaches.textUntil_append h.inText).2
    simp [Cursor.ofText] at happend ⊢
    rw [happend, List.reverse_reverse]
  change Checked.slice text 0 cursor.offset = _ at hslice
  unfold ByteCursor.followsGlue Cursor.followsGlue Cursor.previous
  rw [h.bytes_eq, hslice, pure_bind, Cursor.stringUntil, hbefore]
  simp

theorem precedesGlue_eq (h : Stands text cursor bytes) :
    bytes.precedesGlue = pure cursor.precedesGlue := by
  unfold ByteCursor.precedesGlue Cursor.precedesGlue
  rw [h.peek_eq, pure_bind]

theorem word?_agrees (h : Stands text cursor bytes) {word : String}
    (hword : IsAscii word.toList) :
    Agrees (Stands text) (cursor.word? word) (bytes.word? word) := by
  unfold ByteCursor.word? Cursor.word?
  rw [h.followsGlue_eq, pure_bind]
  refine Agrees.ite (fun _ => rfl) fun _ => ?_
  have hkeyword := h.keyword?_agrees hword
  cases hnext : cursor.keyword? word with
  | none =>
      rw [hnext] at hkeyword
      have hfailed : bytes.keyword? word = failure := hkeyword
      rw [hfailed]
      exact rfl
  | some next =>
      rw [hnext] at hkeyword
      refine hkeyword.bindValue fun next' hstands => ?_
      rw [hstands.precedesGlue_eq, pure_bind]
      by_cases hglue : next.precedesGlue = true
      · simp [Option.filter, hglue]
        exact rfl
      · simp [Option.filter, hglue]
        exact Agrees.ofValue hstands

end Stands

/-! ## Patterns -/

namespace Stands

variable {text : String} {cursor later : Cursor} {bytes : ByteCursor}

/-- The match is found in a text of its own, so its end is an offset behind the
cursor. -/
theorem matching?_agrees (h : Stands text cursor bytes) (pattern : Pattern)
    (hbefore : pattern.IgnoresBefore)
    (hreaches : ∀ start stop, pattern start = some stop → start.Reaches stop) :
    Agrees (Reads text) ((pattern cursor).map fun stop => (cursor.stringUntil stop, stop))
      (bytes.matching? pattern) := by
  let start := Cursor.ofText (String.ofList cursor.rest)
  have hcursor : start.behind cursor.before = cursor := by
    simp [start, Cursor.behind, Cursor.ofText]
  have hpattern := hbefore cursor.before start
  rw [hcursor] at hpattern
  unfold ByteCursor.matching?
  rw [h.rest_eq, pure_bind, hpattern]
  cases hfound : pattern start with
  | none => exact rfl
  | some found =>
      have reaches : start.Reaches found := hreaches start found hfound
      obtain ⟨read, hrest, hread⟩ := reaches
      have hrest' : cursor.rest = read ++ found.rest := by simpa [start, Cursor.ofText] using hrest
      have hread' : found.before = read.reverse := by simpa [start, Cursor.ofText] using hread
      have hoffset : found.offset = String.utf8Len read := by
        rw [Cursor.offset_eq_utf8Len, hread', String.utf8Len_reverse]
      have hslice : Checked.slice (String.ofList cursor.rest) 0 found.offset =
          pure (String.ofList read) := by
        rw [hoffset, hrest']
        exact slice_leading read found.rest
      have hbehind : found.behind cursor.before = ⟨read.reverse ++ cursor.before, found.rest⟩ := by
        simp [Cursor.behind, hread']
      have hstring : cursor.stringUntil (found.behind cursor.before) = String.ofList read := by
        have happend := Cursor.stringUntil_append cursor.before
          (found.behind cursor.before).before read found.rest
        rwa [← hrest'] at happend
      have hjump := h.jump_over_agrees read hrest'
      rw [Checked.ofOption_some, pure_bind, hslice, pure_bind, hoffset]
      refine hjump.bindValue fun next hnext => Agrees.ofValue ⟨hstring.symm, ?_⟩
      rw [hbehind]
      exact hnext

/-- The value of a match is taken from the text that was matched. -/
theorem matchingValue_agrees {α : Type} (h : Stands text cursor bytes) (pattern : Pattern)
    (hbefore : pattern.IgnoresBefore)
    (hreaches : ∀ start stop, pattern start = some stop → start.Reaches stop)
    {expected : Option (α × Cursor)} (value : String → Checked α)
    (hstop : pattern cursor = expected.map Prod.snd)
    (hvalue : ∀ read stop, expected = some (read, stop) →
      value (cursor.stringUntil stop) = pure read) :
    Agrees (Reads text) expected (do
      let (raw, next) ← bytes.matching? pattern
      let read ← value raw
      return (read, next)) := by
  have hmatch := h.matching?_agrees pattern hbefore hreaches
  rw [hstop] at hmatch
  cases hexpected : expected with
  | none =>
      rw [hexpected] at hmatch
      have hfailed : bytes.matching? pattern = failure := hmatch
      rw [hfailed]
      exact rfl
  | some result =>
      obtain ⟨read, stop⟩ := result
      rw [hexpected] at hmatch
      refine hmatch.bindReadValue fun next hnext => ?_
      simp only [hvalue read stop hexpected, pure_bind]
      exact Agrees.read hnext

theorem matchingStop_agrees (h : Stands text cursor bytes) (pattern : Pattern)
    (hbefore : pattern.IgnoresBefore)
    (hreaches : ∀ start stop, pattern start = some stop → start.Reaches stop) :
    Agrees (Stands text) (pattern cursor) (do
      let (_, next) ← bytes.matching? pattern
      return next) := by
  have hmatch := (h.matching?_agrees pattern hbefore hreaches).map (f := Prod.snd) (g := Prod.snd)
    fun _ _ hread => hread.stands
  simpa [Function.comp_def] using hmatch

theorem space?_agrees (h : Stands text cursor bytes) :
    Agrees (Stands text) cursor.space? bytes.space? :=
  h.matchingStop_agrees (fun start => start.run? isWhiteSpace)
    (fun before start => start.run?_behind before isWhiteSpace)
    fun _ _ hstop => (Cursor.run?_passes hstop).1

theorem space?_orElse (cursor : Cursor) :
    (cursor.space? <|> some cursor) = some cursor.skipSpace := by
  unfold Cursor.space? Cursor.run? Cursor.skipSpace
  by_cases hpeek : cursor.peek.any isWhiteSpace = true
  · rw [if_pos hpeek]
    rfl
  · have hhalts : Halts isWhiteSpace cursor.rest := by
      simpa [Halts, Cursor.peek] using hpeek
    rw [if_neg hpeek, Cursor.skipWhile_of_halts hhalts cursor.before]
    rfl

theorem skipSpace_agrees (h : Stands text cursor bytes) :
    Agrees (Stands text) (some cursor.skipSpace) bytes.skipSpace := by
  rw [← space?_orElse]
  exact h.space?_agrees.orElse (Agrees.ofValue h)

theorem comma?_agrees (h : Stands text cursor bytes) :
    Agrees (Stands text) (comma? cursor) bytes.comma? := by
  have hcomma : comma? cursor =
      cursor.skipSpace.char? ',' >>= fun stop => some stop.skipSpace := by
    unfold comma?
    cases cursor.skipSpace.char? ',' <;> rfl
  rw [hcomma]
  refine h.skipSpace_agrees.bindValue fun _ hstart => ?_
  exact (hstart.char?_agrees ',').bind fun _ _ hstop => hstop.skipSpace_agrees

end Stands

/-! ## Searches -/

structure MatchAt (cursor : Cursor) (found : Found) (result : ByteMatch) : Prop where
  toStart : cursor.Reaches found.start
  toStop : found.start.Reaches found.stop
  result_eq : result = ⟨found.start.offset, found.stop.offset⟩

theorem MatchAt.reaches {cursor : Cursor} {found : Found} {result : ByteMatch}
    (h : MatchAt cursor found result) : cursor.Reaches found.stop :=
  h.toStart.trans h.toStop

namespace Cursor

theorem InText.reaches_or {text : String} {first second : Cursor} (hfirst : first.InText text)
    (hsecond : second.InText text) : first.Reaches second ∨ second.Reaches first := by
  have hsplit : first.before.reverse ++ first.rest = second.before.reverse ++ second.rest := by
    rw [← hfirst.toList_eq, hsecond.toList_eq]
  rcases List.append_eq_append_iff.1 hsplit with ⟨read, hbefore, hrest⟩ | ⟨read, hbefore, hrest⟩
  · left
    refine ⟨read, hrest, ?_⟩
    have hreversed := congrArg List.reverse hbefore
    simpa using hreversed
  · right
    refine ⟨read, hrest, ?_⟩
    have hreversed := congrArg List.reverse hbefore
    simpa using hreversed

theorem InText.offset_lt_iff {text : String} {first second : Cursor} (hfirst : first.InText text)
    (hsecond : second.InText text) :
    first.offset < second.offset ↔ second.remaining < first.remaining := by
  constructor
  · intro hless
    rcases hfirst.reaches_or hsecond with reaches | reaches
    · by_contra hremaining
      have hsame := reaches.remaining_le
      have hread : first.textUntil second = [] := by
        unfold textUntil
        rw [show first.remaining - second.remaining = 0 by omega, List.take_zero]
      have hoffset := reaches.offset_eq
      rw [hread, String.utf8Len_nil] at hoffset
      omega
    · have hle := reaches.offset_le
      omega
  · intro hless
    rcases hfirst.reaches_or hsecond with reaches | reaches
    · exact Passes.offset_lt ⟨reaches, hless⟩
    · have hle := reaches.remaining_le
      omega

end Cursor

namespace Cursor

/-- An offset is found exactly where a run of other characters ends in front of the
end of the text. -/
theorem indexOf?_rest (cursor : Cursor) (inClass : Char → Bool) :
    Checked.indexOf? (String.ofList cursor.rest) inClass =
      if (cursor.skipWhile (! inClass ·)).atEnd then none
      else some (String.utf8Len (cursor.textUntil (cursor.skipWhile (! inClass ·)))) := by
  have hend : (cursor.rest.takeWhile (! inClass ·)).length = cursor.rest.length ↔
      (cursor.skipWhile (! inClass ·)).atEnd = true := by
    have hlength := congrArg List.length
      (List.takeWhile_append_dropWhile (p := (! inClass ·)) (l := cursor.rest))
    rw [List.length_append] at hlength
    rw [skipWhile_eq, atEnd, List.isEmpty_iff, ← List.length_eq_zero_iff]
    simp only
    omega
  unfold Checked.indexOf?
  rw [textUntil_skipWhile]
  simp only [String.toList_ofList, hend]

theorem getD_indexOf?_rest (cursor : Cursor) (inClass : Char → Bool) :
    (Checked.indexOf? (String.ofList cursor.rest) inClass).getD
        (String.ofList cursor.rest).utf8ByteSize =
      String.utf8Len (cursor.textUntil (cursor.skipWhile (! inClass ·))) := by
  rw [indexOf?_rest]
  by_cases hend : (cursor.skipWhile (! inClass ·)).atEnd = true
  · have hsplit := (cursor.skipWhile_reaches (! inClass ·)).textUntil_append.1
    have hnothing : (cursor.skipWhile (! inClass ·)).rest = [] := by simpa [atEnd] using hend
    rw [hnothing, List.append_nil] at hsplit
    rw [if_pos hend, hsplit, Option.getD_none, ← String.utf8Len_toList, String.toList_ofList]
  · rw [if_neg hend, Option.getD_some]

end Cursor

namespace Stands

variable {text : String} {cursor limit : Cursor} {bytes : ByteCursor}

theorem find?_agrees (h : Stands text cursor bytes) {pattern : Pattern}
    (hreaches : ∀ start stop, pattern start = some stop → start.Reaches stop) :
    Agrees (MatchAt cursor) (cursor.find? pattern) (bytes.find? pattern) := by
  unfold ByteCursor.find?
  rw [h.bytes_eq]
  simp only [h.inText.seek?_offset]
  cases hfound : cursor.find? pattern with
  | none => exact rfl
  | some found =>
      obtain ⟨toStart, hstop⟩ := Cursor.find?_some hfound
      exact Agrees.ofValue ⟨toStart, hreaches _ _ hstop, rfl⟩

theorem findBefore?_agrees (h : Stands text cursor bytes) {pattern : Pattern}
    (hreaches : ∀ start stop, pattern start = some stop → start.Reaches stop)
    (hlimit : limit.InText text) :
    Agrees (MatchAt cursor) (cursor.findBefore? pattern limit)
      (bytes.findBefore? pattern limit.offset) := by
  apply (h.find?_agrees hreaches).filter
  intro found result hfound
  have hstart : found.start.InText text := h.later_inText hfound.toStart
  rw [hfound.result_eq, decide_eq_true_iff]
  exact hstart.offset_lt_iff hlimit

end Stands

/-! ## Optional parts and lists -/

namespace Stands

variable {α : Type} {text : String} {cursor : Cursor} {bytes : ByteCursor}

theorem optional_agrees (h : Stands text cursor bytes) {parsed : Option (α × Cursor)}
    {checked : Checked (α × ByteCursor)} (hparsed : Agrees (Reads text) parsed checked) :
    Agrees (Reads text) (some (optional cursor parsed)) (bytes.optional checked) := by
  unfold ByteCursor.optional
  cases parsed with
  | none =>
      have hfailed : checked = failure := hparsed
      rw [hfailed]
      exact Agrees.ofValue ⟨rfl, h⟩
  | some parsed =>
      obtain ⟨value, next⟩ := parsed
      obtain ⟨⟨value', next'⟩, hresult, hvalue, hnext⟩ := hparsed
      rw [hresult]
      refine Agrees.ofValue ⟨?_, hnext⟩
      exact congrArg some hvalue

end Stands

theorem Stands.remaining_lt {text : String} {cursor later : Cursor} {bytes after : ByteCursor}
    (h : Stands text cursor bytes) (hafter : Stands text later after)
    (hless : later.remaining < cursor.remaining) : after.remaining < bytes.remaining := by
  have hoffset := (h.inText.offset_lt_iff hafter.inText).2 hless
  have hsize := hafter.inText.utf8ByteSize_eq
  rw [h.bytes_eq, hafter.bytes_eq]
  simp only [ByteCursor.remaining]
  omega

section Separated

variable {α : Type} {text : String} {item : Reader α} {separator : Cursor → Option Cursor}
  {checkedItem : CheckedReader α} {checkedSeparator : ByteCursor → Checked ByteCursor}

theorem separatedTail_agrees
    (hitem : ∀ cursor bytes, Stands text cursor bytes →
      Agrees (Reads text) (item cursor) (checkedItem bytes))
    (hseparator : ∀ cursor bytes, Stands text cursor bytes →
      Agrees (Stands text) (separator cursor) (checkedSeparator bytes))
    (hitemReaches : ∀ cursor value after, item cursor = some (value, after) →
      cursor.Reaches after)
    (hseparatorReaches : ∀ cursor after, separator cursor = some after → cursor.Reaches after)
    {cursor : Cursor} {bytes : ByteCursor} (h : Stands text cursor bytes) :
    Agrees (Reads text) (some (separatedTail item separator cursor))
      (ByteCursor.separatedTail checkedItem checkedSeparator bytes) := by
  have hread := h.optional_agrees ((hseparator _ _ h).bind fun _ _ hstart => hitem _ _ hstart)
  rw [ByteCursor.separatedTail]
  fun_induction separatedTail item separator cursor generalizing bytes with
  | case1 cursor hnone =>
      have hnone' : separator cursor >>= item = none := hnone
      rw [hnone'] at hread
      exact hread.bindReadValue fun _ _ => Agrees.read h
  | case2 cursor next after hpair hless more stop htail ih =>
      have hpair' : separator cursor >>= item = some (next, after) := hpair
      rw [hpair'] at hread
      refine hread.bindReadValue fun after' hafter => ?_
      have hafter : Stands text after after' := hafter
      have hoffset := (h.inText.offset_lt_iff hafter.inText).2 hless
      have hmoved : after'.offset ≠ bytes.offset := by
        rw [h.offset_eq, hafter.offset_eq]
        exact hoffset.ne'
      have hmore := ih hafter (hafter.optional_agrees
        ((hseparator _ _ hafter).bind fun _ _ hstart => hitem _ _ hstart))
      rw [← ByteCursor.separatedTail, htail] at hmore
      simp only [optional, if_neg hmoved, if_pos (h.remaining_lt hafter hless)]
      exact hmore.bindReadValue fun _ hstop => Agrees.read hstop
  | case3 cursor next after hpair hless =>
      have hpair' : separator cursor >>= item = some (next, after) := hpair
      rw [hpair'] at hread
      refine hread.bindReadValue fun after' hafter => ?_
      have hafter : Stands text after after' := hafter
      have hstill : after'.offset = bytes.offset := by
        obtain ⟨start, hstart, hnext⟩ := Option.bind_eq_some_iff.1 hpair
        have reaches := (hseparatorReaches _ _ hstart).trans (hitemReaches _ _ _ hnext)
        have hle := reaches.offset_le
        have hnot := mt (h.inText.offset_lt_iff hafter.inText).1 hless
        rw [h.offset_eq, hafter.offset_eq]
        omega
      simp only [optional, if_pos hstill]
      exact Agrees.read h

theorem repeated_agrees {β : Type} {add : α → β → β} {empty : β} (all : Cursor → β × Cursor)
    (hitem : ∀ cursor bytes, Stands text cursor bytes →
      Agrees (Reads text) (item cursor) (checkedItem bytes))
    (hpasses : ∀ cursor value after, item cursor = some (value, after) → cursor.Passes after)
    (hnone : ∀ cursor, item cursor = none → all cursor = (empty, cursor))
    (hsome : ∀ cursor value after, item cursor = some (value, after) →
      all cursor = (add value (all after).1, (all after).2))
    {cursor : Cursor} {bytes : ByteCursor} (h : Stands text cursor bytes) :
    Agrees (Reads text) (some (all cursor))
      (ByteCursor.repeated checkedItem add empty bytes) := by
  have hread := h.optional_agrees (hitem _ _ h)
  rw [ByteCursor.repeated]
  cases hfirst : item cursor with
  | none =>
      rw [hfirst] at hread
      rw [hnone cursor hfirst]
      exact hread.bindReadValue fun _ _ => Agrees.read h
  | some read =>
      obtain ⟨value, after⟩ := read
      have hless := (hpasses _ _ _ hfirst).remaining_lt
      rw [hfirst] at hread
      rw [hsome cursor value after hfirst]
      refine hread.bindReadValue fun after' hafter => ?_
      have hmore := repeated_agrees all hitem hpasses hnone hsome hafter
      simp only [optional, if_pos (h.remaining_lt hafter hless)]
      exact hmore.bindReadValue fun _ hstop => Agrees.read hstop
termination_by cursor.remaining

theorem separated_agrees
    (hitem : ∀ cursor bytes, Stands text cursor bytes →
      Agrees (Reads text) (item cursor) (checkedItem bytes))
    (hseparator : ∀ cursor bytes, Stands text cursor bytes →
      Agrees (Stands text) (separator cursor) (checkedSeparator bytes))
    (hitemReaches : ∀ cursor value after, item cursor = some (value, after) →
      cursor.Reaches after)
    (hseparatorReaches : ∀ cursor after, separator cursor = some after → cursor.Reaches after)
    {cursor : Cursor} {bytes : ByteCursor} (h : Stands text cursor bytes) :
    Agrees (Reads text) (some (separated item separator cursor))
      (ByteCursor.separated checkedItem checkedSeparator bytes) := by
  have hread := h.optional_agrees (hitem _ _ h)
  unfold ByteCursor.separated separated
  cases hfirst : item cursor with
  | none =>
      rw [hfirst] at hread
      exact hread.bindReadValue fun _ _ => Agrees.read h
  | some read =>
      obtain ⟨first, after⟩ := read
      rw [hfirst] at hread
      refine hread.bindReadValue fun after' hafter => ?_
      have htail := separatedTail_agrees hitem hseparator hitemReaches hseparatorReaches hafter
      exact htail.bindReadValue fun _ hstop => Agrees.read hstop

end Separated

end SasOutline
