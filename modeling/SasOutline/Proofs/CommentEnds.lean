import SasOutline.CommentText
import SasOutline.Proofs.LeftmostMatch

/-!
# Where comments end

A star comment ends at the first semicolon behind its star.  A block comment ends at the first
closing mark behind the first character of its text, and this character is read without a look
at it.  Both forms need a text, but they fail differently where there is none.  A star in front
of a semicolon is no comment.  The mark `/**/` does open a comment: its text begins with the
closing mark and goes on to the next one, through all the statements that stand in between.
-/

namespace SasOutline

/-! ## Comments as they are written -/

/-- The comment stands between the two cursors as the text from a star to the first semicolon. -/
structure Comment.IsStarAt (comment : Comment) (start stop : Cursor) : Prop where
  written : start.Reads ('*' :: (comment.text.toList ++ [';'])) stop
  filled : comment.text.toList ≠ []
  unended : ';' ∉ comment.text.toList

/-- The comment stands between the two cursors as a text between an opening mark and a closing
mark.  There is no closing mark inside the text, unless the text begins with it. -/
structure Comment.IsBlockAt (comment : Comment) (start stop : Cursor) : Prop where
  written : start.Reads ('/' :: '*' :: (comment.text.toList ++ ['*', '/'])) stop
  filled : comment.text.toList ≠ []
  unclosed : ¬['*', '/'] <:+: comment.text.toList.tail

/-! ## The closing mark -/

theorem blockCloser_eq_none {ch : Char} {text : List Char}
    (h : ch ≠ '*' ∨ text.head? ≠ some '/') (before : List Char) :
    Pattern.blockCloser ⟨before, ch :: text⟩ = none := by
  by_cases hstar : ch = '*'
  · subst hstar
    have hslash : text.head? ≠ some '/' := h.resolve_left (by simp)
    simp [Pattern.blockCloser, Cursor.char?_eq_none hslash]
  · have hhead : (ch :: text).head? ≠ some '*' := by simpa using hstar
    simp [Pattern.blockCloser, Cursor.char?_eq_none hhead]

theorem blockCloser_cons (before rest : List Char) :
    Pattern.blockCloser ⟨before, '*' :: '/' :: rest⟩ = some ⟨'/' :: '*' :: before, rest⟩ := by
  simp [Pattern.blockCloser]

theorem blockCloser_reads {cursor stop : Cursor} (h : Pattern.blockCloser cursor = some stop) :
    cursor.Reads ['*', '/'] stop := by
  obtain ⟨middle, hstar, hslash⟩ := Option.bind_eq_some_iff.1 h
  exact (Cursor.char?_reads hstar).trans (Cursor.char?_reads hslash)

/-- A search for the closing mark stops at the first one. -/
theorem findFrom_blockCloser {text : List Char} (htext : ¬['*', '/'] <:+: text)
    (before rest : List Char) :
    Cursor.findFrom Pattern.blockCloser before (text ++ '*' :: '/' :: rest) =
      some ⟨⟨text.reverse ++ before, '*' :: '/' :: rest⟩,
        ⟨'/' :: '*' :: (text.reverse ++ before), rest⟩⟩ := by
  induction text generalizing before with
  | nil => exact findFrom_eq_of_match (blockCloser_cons before rest)
  | cons ch text ih =>
      have hlater : ¬['*', '/'] <:+: text :=
        fun hinner => htext (hinner.trans (List.suffix_cons ch text).isInfix)
      have hopen : ch ≠ '*' ∨ (text ++ '*' :: '/' :: rest).head? ≠ some '/' := by
        by_contra hcloses
        push Not at hcloses
        obtain ⟨rfl, hslash⟩ := hcloses
        cases text with
        | nil => simp at hslash
        | cons next text =>
            obtain rfl : next = '/' := by simpa using hslash
            exact htext (List.prefix_append ['*', '/'] text).isInfix
      rw [List.cons_append, Cursor.findFrom, blockCloser_eq_none hopen]
      simpa using ih hlater (ch :: before)

/-- A search passes over no closing mark. -/
theorem unclosed_of_misses {start stop : Cursor} {text : List Char}
    (hmisses : Pattern.blockCloser.Misses start stop) (hread : start.Reads text stop) :
    ¬['*', '/'] <:+: text := by
  rintro ⟨front, behind, rfl⟩
  obtain ⟨before, rest⟩ := start
  obtain ⟨hrest, -⟩ := hread
  obtain rfl : rest = front ++ '*' :: '/' :: (behind ++ stop.rest) := by simpa using hrest
  have hreaches : Cursor.Reaches ⟨before, front ++ '*' :: '/' :: (behind ++ stop.rest)⟩
      ⟨front.reverse ++ before, '*' :: '/' :: (behind ++ stop.rest)⟩ := ⟨front, rfl, rfl⟩
  have hless : stop.remaining < ('*' :: '/' :: (behind ++ stop.rest)).length := by
    simp [Cursor.remaining]
    omega
  have hnone := hmisses _ hreaches hless
  rw [blockCloser_cons] at hnone
  contradiction

/-! ## Reading a comment -/

namespace Cursor

theorem starComment?_eq_some_iff {cursor stop : Cursor} {comment : Comment} :
    cursor.starComment? = some (comment, stop) ↔ comment.IsStarAt cursor stop := by
  constructor
  · intro h
    obtain ⟨opened, hopened, h⟩ := Option.bind_eq_some_iff.1 h
    obtain ⟨closing, hclosing, h⟩ := Option.bind_eq_some_iff.1 h
    obtain ⟨last, hlast, h⟩ := Option.bind_eq_some_iff.1 h
    obtain ⟨rfl, rfl⟩ := Prod.mk.inj (Option.some.inj h)
    obtain ⟨text, hne, hall, -, hinside⟩ := run?_eq_some hclosing
    have hread : opened.Reads text closing := hinside
    have htext : (opened.stringUntil closing).toList = text := by
      rw [stringUntil, hread.textUntil_eq, String.toList_ofList]
    refine ⟨?_, ?_, ?_⟩
    · rw [htext]
      exact ((char?_reads hopened).trans hread).trans (char?_reads hlast)
    · rwa [htext]
    · rw [htext]
      intro hmem
      simpa using hall ';' hmem
  · rintro ⟨hwritten, hne, hunended⟩
    obtain ⟨before, rest, rfl, rfl⟩ := hwritten.exists_eq
    have hhalts : Halts (· != ';') (';' :: rest) := by simp
    have hrun := run?_append hne (forall_ne_of_notMem hunended) hhalts ('*' :: before)
    simp [starComment?, hrun, stringUntil_append]

theorem blockComment?_eq_some_iff {cursor stop : Cursor} {comment : Comment} :
    cursor.blockComment? = some (comment, stop) ↔ comment.IsBlockAt cursor stop := by
  constructor
  · intro h
    obtain ⟨slash, hslash, h⟩ := Option.bind_eq_some_iff.1 h
    obtain ⟨opened, hopened, h⟩ := Option.bind_eq_some_iff.1 h
    obtain ⟨⟨ch, body⟩, hbody, h⟩ := Option.bind_eq_some_iff.1 h
    obtain ⟨closer, hcloser, h⟩ := Option.bind_eq_some_iff.1 h
    obtain ⟨rfl, rfl⟩ := Prod.mk.inj (Option.some.inj h)
    obtain ⟨hreaches, hmatch⟩ := find?_some hcloser
    have hfirst : opened.Reads [ch] body := bump?_eq_some hbody
    have hlater := hreaches.reads
    have htext : (opened.stringUntil closer.start).toList = ch :: body.textUntil closer.start := by
      rw [stringUntil, (hfirst.trans hlater).textUntil_eq, String.toList_ofList]
      rfl
    refine ⟨?_, ?_, ?_⟩
    · rw [htext]
      exact ((char?_reads hslash).trans (char?_reads hopened)).trans
        ((hfirst.trans hlater).trans (blockCloser_reads hmatch))
    · rw [htext]
      exact List.cons_ne_nil _ _
    · rw [htext]
      exact unclosed_of_misses (find?_misses hcloser) hlater
  · rintro ⟨hwritten, hne, hunclosed⟩
    obtain ⟨before, rest, rfl, rfl⟩ := hwritten.exists_eq
    -- The first character of the text is read without a look at it.
    obtain ⟨ch, text, htext⟩ := List.exists_cons_of_ne_nil hne
    rw [htext, List.tail_cons] at hunclosed
    have hcloser := findFrom_blockCloser hunclosed (ch :: '*' :: '/' :: before) rest
    have hbump : (⟨'*' :: '/' :: before, ch :: (text ++ '*' :: '/' :: rest)⟩ : Cursor).bump? =
        some (ch, ⟨ch :: '*' :: '/' :: before, text ++ '*' :: '/' :: rest⟩) := rfl
    have hread := stringUntil_append ('*' :: '/' :: before)
      (text.reverse ++ ch :: '*' :: '/' :: before) comment.text.toList ('*' :: '/' :: rest)
    rw [String.ofList_toList, htext, List.cons_append] at hread
    simp [blockComment?, htext, hbump, find?, hcloser, hread]

/-- A comment is read exactly where one is written in one of the two forms. -/
theorem comment?_eq_some_iff {cursor stop : Cursor} {comment : Comment} :
    cursor.comment? = some (comment, stop) ↔
      comment.IsStarAt cursor stop ∨ comment.IsBlockAt cursor stop := by
  constructor
  · intro h
    rcases orElse_some h with hstar | ⟨-, hblock⟩
    · exact .inl (starComment?_eq_some_iff.mp hstar)
    · exact .inr (blockComment?_eq_some_iff.mp hblock)
  · rintro (hstar | hblock)
    · rw [comment?, starComment?_eq_some_iff.mpr hstar]
      rfl
    · have hslash : cursor.char? '*' = none := by
        apply if_neg
        rw [peek, hblock.written.1]
        simp
      rw [comment?, starComment?, hslash, blockComment?_eq_some_iff.mpr hblock]
      rfl

end Cursor

/-! ## Comments that go on behind their end -/

namespace Comment.IsBlockAt

variable {comment : Comment} {cursor stop : Cursor} (h : comment.IsBlockAt cursor stop)
include h

/-- A closing mark inside of a comment can only stand at its beginning. -/
theorem holds_iff :
    ['*', '/'] <:+: comment.text.toList ↔ ['*', '/'] <+: comment.text.toList := by
  constructor
  · intro hinside
    obtain ⟨ch, text, htext⟩ := List.exists_cons_of_ne_nil h.filled
    have hunclosed := h.unclosed
    rw [htext] at hinside hunclosed ⊢
    exact (List.infix_cons_iff.mp hinside).resolve_right hunclosed
  · exact List.IsPrefix.isInfix

/-- The comment ends at the first closing mark behind its opening mark, unless its text begins
with a closing mark. -/
theorem ends_first_iff :
    ((cursor.skip 2).find? Pattern.blockCloser).map Found.stop = some stop ↔
      ¬['*', '/'] <+: comment.text.toList := by
  obtain ⟨before, rest, rfl, rfl⟩ := h.written.exists_eq
  have hopened : (⟨before, '/' :: '*' :: (comment.text.toList ++ ['*', '/']) ++ rest⟩ :
      Cursor).skip 2 = ⟨'*' :: '/' :: before, comment.text.toList ++ '*' :: '/' :: rest⟩ := by
    simp [Cursor.skip]
  rw [hopened, Cursor.find?]
  constructor
  · rintro hfirst ⟨more, htext⟩
    rw [← htext] at hfirst
    have hhere := findFrom_eq_of_match
      (blockCloser_cons ('*' :: '/' :: before) (more ++ '*' :: '/' :: rest))
    rw [List.append_assoc, List.cons_append, List.cons_append, List.nil_append, hhere,
      Option.map_some, Option.some_inj] at hfirst
    have hlength := congrArg Cursor.remaining hfirst
    simp [Cursor.remaining] at hlength
    omega
  · intro hopen
    have hclosed : ¬['*', '/'] <:+: comment.text.toList := h.holds_iff.not.mpr hopen
    rw [findFrom_blockCloser hclosed]
    simp

end Comment.IsBlockAt

/-- A comment is read exactly where it is written in one of the two forms, so the text with its
marks is what has been read.  A star comment ends at the first semicolon.  A block comment ends
at the first closing mark behind its opening mark, and its text is free of closing marks, unless
it was opened by `/**/`: the closing mark of this one is passed over as a part of the text. -/
theorem Cursor.comment?_ends (cursor stop : Cursor) (comment : Comment) :
    (cursor.comment? = some (comment, stop) ↔
      comment.IsStarAt cursor stop ∨ comment.IsBlockAt cursor stop) ∧
    (comment.IsBlockAt cursor stop →
      (((cursor.skip 2).find? Pattern.blockCloser).map Found.stop = some stop ↔
        ¬['*', '/'] <+: comment.text.toList) ∧
      (['*', '/'] <:+: comment.text.toList ↔ ['*', '/'] <+: comment.text.toList)) :=
  ⟨comment?_eq_some_iff, fun h => ⟨h.ends_first_iff, h.holds_iff⟩⟩

/-- A step between two comments, of which the first is empty. -/
def stepBetweenComments : Cursor := .ofText "/**/data a;set b;run;/*c*/x=1;"

/-- The step and both of its neighbours are read as one comment. -/
theorem Cursor.comment?_ends_behind_step :
    ∃ comment stop, stepBetweenComments.comment? = some (comment, stop) ∧
      comment.IsBlockAt stepBetweenComments stop ∧
      comment.text = "*/data a;set b;run;/*c" ∧ stop.rest = "x=1;".toList ∧
      ((stepBetweenComments.skip 2).find? Pattern.blockCloser).map Found.stop ≠ some stop := by
  let comment : Comment := ⟨"*/data a;set b;run;/*c"⟩
  let stop : Cursor := ⟨"/**/data a;set b;run;/*c*/".toList.reverse, "x=1;".toList⟩
  have hread : stepBetweenComments.comment? = some (comment, stop) := by decide +kernel
  obtain ⟨hforms, hends⟩ := comment?_ends stepBetweenComments stop comment
  have hblock : comment.IsBlockAt stepBetweenComments stop := by
    refine (hforms.mp hread).resolve_left fun hstar => ?_
    exact absurd (congrArg List.head? hstar.written.1) (by decide)
  have hprefix : ['*', '/'] <+: comment.text.toList := by decide
  exact ⟨comment, stop, hread, hblock, rfl, rfl, fun hfirst => (hends hblock).1.mp hfirst hprefix⟩

end SasOutline
