import SasOutline.DynamicName
import SasOutline.Proofs.AsciiCase
import SasOutline.Proofs.KnownText

/-!
# What a name is read from

A segment of a name is a run of name characters or a macro variable reference,
and whether it ends where it does depends on one character behind it.  A name is
a list of segments each of which ends in front of the next.

The reader of names returns exactly the lists of this form, and so it reads a
name alike wherever the name is written and whatever follows, as long as the
first character behind it does not extend it.
-/

namespace SasOutline

/-! ## Segments -/

def IsPlainText (text : List Char) : Prop :=
  text ≠ [] ∧ ∀ ch ∈ text, isNameCharacter ch = true

instance (text : List Char) : Decidable (IsPlainText text) :=
  decidable_of_iff (text ≠ [] ∧ text.all isNameCharacter = true) (by simp [IsPlainText])

def closingDot (dotted : Bool) : List Char :=
  if dotted then ['.'] else []

/-- The two forms of a reference, where `dotted` tells whether a dot closes it. -/
inductive IsReferenceText : List Char → Bool → Prop
  | single {name : List Char} (dotted : Bool) (hname : IsPlainText name) :
      IsReferenceText ('&' :: (name ++ closingDot dotted)) dotted
  | double {outer inner : List Char} (inside dotted : Bool) (houter : IsPlainText outer)
      (hinner : IsPlainText inner) :
      IsReferenceText
        ('&' :: '&' :: (outer ++ (closingDot inside ++ '&' :: (inner ++ closingDot dotted))))
        dotted

/-- The segment is well formed and ends in front of `following`. -/
def NameSegment.EndsAt (following : List Char) : NameSegment → Prop
  | .literal text => IsPlainText text.toList ∧ Halts isNameCharacter following
  | .reference written => ∃ dotted, IsReferenceText written.raw.toList dotted ∧
      (dotted = true ∨ Halts isNameCharacter following ∧ following.head? ≠ some '.')

def NameSegment.written (segment : NameSegment) : List Char := segment.text.toList

/-! ## Characters of names -/

theorem toNat_lt_of_isNameCharacter {ch : Char} (hch : isNameCharacter ch = true) :
    ch.toNat < 128 := by
  have hupto (last : Char) (hch : ch.val ≤ last.val) (hlast : last.toNat < 128) :
      ch.toNat < 128 :=
    (UInt32.le_iff_toNat_le.1 hch).trans_lt hlast
  simp only [isNameCharacter, Char.isAlphanum, Bool.or_eq_true, beq_iff_eq] at hch
  rcases hch with ((hletter | hdigit) | rfl) | rfl
  · rcases Bool.or_eq_true_iff.1 hletter with hupper | hlower
    · exact hupto 'Z' (of_decide_eq_true hupper).2 (by decide)
    · exact hupto 'z' (of_decide_eq_true (Bool.and_eq_true_iff.1 hlower).2) (by decide)
  · exact hupto '9' (of_decide_eq_true (Bool.and_eq_true_iff.1 hdigit).2) (by decide)
  · decide
  · decide

theorem isWhiteSpace_of_isNameCharacter {ch : Char} (hch : isNameCharacter ch = true) :
    isWhiteSpace ch = false :=
  forall_ascii (P := fun ch => isNameCharacter ch = true → isWhiteSpace ch = false)
    (by decide +kernel) (toNat_lt_of_isNameCharacter hch) hch

theorem Cursor.halts_space_of_plain {text : List Char} (htext : IsPlainText text)
    (rest : List Char) : Halts isWhiteSpace (text ++ rest) :=
  halts_append htext.1 (fun ch hch => isWhiteSpace_of_isNameCharacter (htext.2 ch hch)) rest

/-! ## The end of a run -/

theorem not_isNameCharacter_dot : isNameCharacter '.' = false := by decide

theorem not_isNameCharacter_ampersand : isNameCharacter '&' = false := by decide

namespace Cursor

theorem skipDot_dotted (before rest : List Char) :
    (⟨before, '.' :: rest⟩ : Cursor).skipDot = ⟨'.' :: before, rest⟩ := by
  simp [skipDot]

theorem skipDot_of_ne {before rest : List Char} (hrest : rest.head? ≠ some '.') :
    (⟨before, rest⟩ : Cursor).skipDot = ⟨before, rest⟩ := by
  simp [skipDot, char?_eq_none hrest before]

theorem skipDot_closingDot {rest : List Char} {dotted : Bool}
    (hrest : dotted = true ∨ rest.head? ≠ some '.') (before : List Char) :
    (⟨before, closingDot dotted ++ rest⟩ : Cursor).skipDot =
      ⟨(closingDot dotted).reverse ++ before, rest⟩ := by
  cases dotted with
  | true => exact skipDot_dotted before rest
  | false =>
      have hne : rest.head? ≠ some '.' := by simpa using hrest
      exact skipDot_of_ne hne

/-- Reading the dot of a reference tells whether there was one. -/
theorem skipDot_eq (cursor : Cursor) :
    ∃ dotted, cursor.rest = closingDot dotted ++ cursor.skipDot.rest ∧
      cursor.skipDot.before = (closingDot dotted).reverse ++ cursor.before ∧
      (dotted = true ∨ cursor.skipDot.rest.head? ≠ some '.') := by
  unfold skipDot
  cases hdot : cursor.char? '.' with
  | none =>
      refine ⟨false, rfl, rfl, Or.inr ?_⟩
      change cursor.rest.head? ≠ some '.'
      intro hhead
      simp [char?, peek, hhead] at hdot
  | some stop =>
      obtain ⟨hrest, hbefore⟩ := char?_eq_some hdot
      exact ⟨true, hrest, hbefore, Or.inl rfl⟩

theorem halts_closingDot {rest : List Char} {dotted : Bool}
    (hrest : dotted = true ∨ Halts isNameCharacter rest) :
    Halts isNameCharacter (closingDot dotted ++ rest) := by
  cases dotted with
  | true => exact not_isNameCharacter_dot
  | false => exact hrest.resolve_left Bool.false_ne_true

/-! ## Reading one segment -/

theorem referenceEnd?_of_isReferenceText {raw : List Char} {dotted : Bool}
    (hraw : IsReferenceText raw dotted) {following : List Char}
    (hends : dotted = true ∨ Halts isNameCharacter following ∧ following.head? ≠ some '.')
    (before : List Char) :
    (⟨before, raw ++ following⟩ : Cursor).referenceEnd? =
      some ⟨raw.reverse ++ before, following⟩ := by
  have hhalts : Halts isNameCharacter (closingDot dotted ++ following) :=
    halts_closingDot (hends.imp_right And.left)
  have hdot := skipDot_closingDot (hends.imp_right And.right)
  cases hraw with
  | @single name dotted hname =>
      have hrun := run?_append hname.1 hname.2 hhalts ('&' :: before)
      simp only [referenceEnd?, List.cons_append, List.append_assoc, char?_cons_self,
        Option.bind_eq_bind, Option.bind_some, hrun, hdot]
      simp
  | @double outer inner inside dotted houter hinner =>
      have hinside : Halts isNameCharacter
          (closingDot inside ++ '&' :: (inner ++ (closingDot dotted ++ following))) := by
        apply halts_closingDot
        exact Or.inr (by simp [not_isNameCharacter_ampersand])
      have hfirst : (⟨'&' :: before, '&' :: (outer ++ (closingDot inside ++
          '&' :: (inner ++ (closingDot dotted ++ following))))⟩ : Cursor).run?
            isNameCharacter = none :=
        run?_of_halts (by simp [not_isNameCharacter_ampersand]) _
      have houterRun := run?_append houter.1 houter.2 hinside ('&' :: '&' :: before)
      have hinsideDot (before : List Char) :
          skipDot ⟨before, closingDot inside ++
            '&' :: (inner ++ (closingDot dotted ++ following))⟩ = _ :=
        skipDot_closingDot (Or.inr (by simp)) before
      have hinnerRun := run?_append hinner.1 hinner.2 hhalts
      simp only [referenceEnd?, List.cons_append, List.append_assoc, char?_cons_self,
        Option.bind_eq_bind, Option.bind_some, hfirst, houterRun, hinsideDot, hinnerRun, hdot]
      simp

theorem referenceEnd?_eq_some {cursor stop : Cursor} (h : cursor.referenceEnd? = some stop) :
    ∃ raw dotted, IsReferenceText raw dotted ∧ cursor.rest = raw ++ stop.rest ∧
      stop.before = raw.reverse ++ cursor.before ∧
      (dotted = true ∨ Halts isNameCharacter stop.rest ∧ stop.rest.head? ≠ some '.') := by
  obtain ⟨first, hfirst, h⟩ := Option.bind_eq_some_iff.1 h
  obtain ⟨hrest, hbefore⟩ := char?_eq_some hfirst
  have hends (name : Cursor) {dotted : Bool} (hhalts : Halts isNameCharacter name.rest)
      (hname : name.rest = closingDot dotted ++ name.skipDot.rest)
      (hdot : dotted = true ∨ name.skipDot.rest.head? ≠ some '.') :
      dotted = true ∨ Halts isNameCharacter name.skipDot.rest ∧
        name.skipDot.rest.head? ≠ some '.' := by
    cases dotted with
    | true => exact Or.inl rfl
    | false =>
        have hsame : name.rest = name.skipDot.rest := by simpa [closingDot] using hname
        rw [hsame] at hhalts
        exact Or.inr ⟨hhalts, by simpa using hdot⟩
  split at h
  · next name hname =>
      obtain rfl := Option.some.inj h
      obtain ⟨read, hne, hall, hhalts, hread, hpast⟩ := run?_eq_some hname
      obtain ⟨dotted, hclosing, hclosed, hdot⟩ := name.skipDot_eq
      refine ⟨_, dotted, .single dotted ⟨hne, hall⟩, ?_, ?_, hends name hhalts hclosing hdot⟩
      · rw [hrest, hread, hclosing]
        simp
      · rw [hclosed, hpast, hbefore]
        simp
  · obtain ⟨second, hsecond, h⟩ := Option.bind_eq_some_iff.1 h
    obtain ⟨outer, houter, h⟩ := Option.bind_eq_some_iff.1 h
    obtain ⟨third, hthird, h⟩ := Option.bind_eq_some_iff.1 h
    obtain ⟨inner, hinner, h⟩ := Option.bind_eq_some_iff.1 h
    obtain rfl := Option.some.inj h
    obtain ⟨hrest', hbefore'⟩ := char?_eq_some hsecond
    obtain ⟨read, hne, hall, -, hread, hpast⟩ := run?_eq_some houter
    obtain ⟨inside, hinside, hinsideBefore, -⟩ := outer.skipDot_eq
    obtain ⟨hrest'', hbefore''⟩ := char?_eq_some hthird
    obtain ⟨more, hne', hall', hhalts, hmore, hpast'⟩ := run?_eq_some hinner
    obtain ⟨dotted, hclosing, hclosed, hdot⟩ := inner.skipDot_eq
    refine ⟨_, dotted, .double inside dotted ⟨hne, hall⟩ ⟨hne', hall'⟩, ?_, ?_,
      hends inner hhalts hclosing hdot⟩
    · rw [hrest, hrest', hread, hinside, hrest'', hmore, hclosing]
      simp
    · rw [hclosed, hpast', hbefore'', hinsideBefore, hpast, hbefore', hbefore]
      simp

theorem halts_of_isReferenceText {inClass : Char → Bool} (hclass : inClass '&' = false)
    {raw rest : List Char} {dotted : Bool} (hraw : IsReferenceText raw dotted) :
    Halts inClass (raw ++ rest) := by
  cases hraw <;> exact hclass

theorem nameSegment?_of_endsAt {segment : NameSegment} {following : List Char}
    (h : segment.EndsAt following) (before : List Char) :
    (⟨before, segment.written ++ following⟩ : Cursor).nameSegment? =
      some (segment, ⟨segment.written.reverse ++ before, following⟩) := by
  cases segment with
  | literal text =>
      obtain ⟨⟨hne, hall⟩, hhalts⟩ := h
      have hrun := run?_append hne hall hhalts before
      simp only [nameSegment?, plainName?, NameSegment.written, NameSegment.text, hrun,
        Option.map_some, stringUntil_append, String.ofList_toList]
  | reference written =>
      obtain ⟨dotted, hraw, hends⟩ := h
      have hend := referenceEnd?_of_isReferenceText hraw hends before
      have hplain : (⟨before, written.raw.toList ++ following⟩ : Cursor).run?
          isNameCharacter = none :=
        run?_of_halts (halts_of_isReferenceText not_isNameCharacter_ampersand hraw) before
      simp only [nameSegment?, plainName?, macroVariable?, NameSegment.written,
        NameSegment.text, hplain, hend, Option.map_some, Option.map_none, stringUntil_append,
        String.ofList_toList]

theorem nameSegment?_eq_some {cursor stop : Cursor} {segment : NameSegment}
    (h : cursor.nameSegment? = some (segment, stop)) :
    segment.EndsAt stop.rest ∧ cursor.rest = segment.written ++ stop.rest ∧
      stop.before = segment.written.reverse ++ cursor.before := by
  have hstring {read : List Char} (hrest : cursor.rest = read ++ stop.rest) :
      cursor.stringUntil stop = String.ofList read := by
    have happend := stringUntil_append cursor.before stop.before read stop.rest
    rwa [← hrest] at happend
  unfold nameSegment? at h
  split at h
  · next text name hplain =>
      obtain ⟨rfl, rfl⟩ := Prod.mk.inj (Option.some.inj h)
      obtain ⟨name', hrun, heq⟩ := Option.map_eq_some_iff.1 hplain
      obtain ⟨rfl, rfl⟩ := Prod.mk.inj heq
      obtain ⟨read, hne, hall, hhalts, hread, hpast⟩ := run?_eq_some hrun
      rw [hstring hread]
      simp only [NameSegment.EndsAt, NameSegment.written, NameSegment.text, IsPlainText,
        String.toList_ofList]
      exact ⟨⟨⟨hne, hall⟩, hhalts⟩, hread, hpast⟩
  · obtain ⟨⟨written, stop'⟩, hvariable, heq⟩ := Option.map_eq_some_iff.1 h
    obtain ⟨rfl, rfl⟩ := Prod.mk.inj heq
    obtain ⟨stop', hend, heq⟩ := Option.map_eq_some_iff.1 hvariable
    obtain ⟨rfl, rfl⟩ := Prod.mk.inj heq
    obtain ⟨raw, dotted, hraw, hread, hpast, hends⟩ := referenceEnd?_eq_some hend
    rw [hstring hread]
    simp only [NameSegment.EndsAt, NameSegment.written, NameSegment.text, String.toList_ofList]
    exact ⟨⟨dotted, hraw, hends⟩, hread, hpast⟩

end Cursor

/-! ## Reading a whole name -/

def writtenName (segments : List NameSegment) : List Char :=
  segments.flatMap NameSegment.written

/-- No segment can be read in front of the text. -/
def StartsNoSegment (text : List Char) : Prop :=
  ∀ before, (⟨before, text⟩ : Cursor).nameSegment? = none

/-- Each segment ends in front of the next, and no segment follows the last. -/
def IsNameReading : List NameSegment → List Char → Prop
  | [], following => StartsNoSegment following
  | segment :: segments, following =>
      segment.EndsAt (writtenName segments ++ following) ∧ IsNameReading segments following

theorem startsNoSegment_of_eq_none {cursor : Cursor} (h : cursor.nameSegment? = none) :
    StartsNoSegment cursor.rest := by
  intro before
  cases hsegment : (⟨before, cursor.rest⟩ : Cursor).nameSegment? with
  | none => rfl
  | some pair =>
      obtain ⟨segment, stop⟩ := pair
      obtain ⟨hends, hrest, -⟩ := Cursor.nameSegment?_eq_some hsegment
      have hread := Cursor.nameSegment?_of_endsAt hends cursor.before
      rw [← hrest] at hread
      exact absurd (h.symm.trans hread) (by simp)

theorem startsNoSegment_nil : StartsNoSegment [] := by
  intro before
  rfl

/-- A character that neither belongs to names nor opens a reference. -/
theorem startsNoSegment_cons {ch : Char} (hname : isNameCharacter ch = false) (hch : ch ≠ '&')
    (rest : List Char) : StartsNoSegment (ch :: rest) := by
  intro before
  have hhalts : Halts isNameCharacter (ch :: rest) := by simpa using hname
  have hhead : (ch :: rest).head? ≠ some '&' := by simpa using hch
  have hrun := Cursor.run?_of_halts hhalts before
  have hmark := Cursor.char?_eq_none hhead before
  simp only [Cursor.nameSegment?, Cursor.plainName?, Cursor.macroVariable?, Cursor.referenceEnd?,
    hrun, hmark, Option.map_none, Option.bind_eq_bind, Option.bind_none]

namespace NameSegment

theorem EndsAt.written_ne_nil {segment : NameSegment} {following : List Char}
    (h : segment.EndsAt following) : segment.written ≠ [] := by
  cases segment with
  | literal text => exact h.1.1
  | reference written =>
      obtain ⟨dotted, hraw, -⟩ := h
      intro hempty
      change written.raw.toList = [] at hempty
      rw [hempty] at hraw
      cases hraw

/-- Only the first character behind a segment matters. -/
theorem EndsAt.of_head {segment : NameSegment} {following other : List Char}
    (h : segment.EndsAt following) (hhead : other.head? = following.head?) :
    segment.EndsAt other := by
  cases segment <;> simpa only [EndsAt, Halts, hhead] using h

/-- A mark that no name goes on with ends every segment. -/
theorem EndsAt.before_mark {segment : NameSegment} {following : List Char}
    (h : segment.EndsAt following) {mark : Char}
    (hmark : isNameCharacter mark = false ∧ mark ≠ '&' ∧ mark ≠ '.') (rest : List Char) :
    segment.EndsAt (mark :: rest) := by
  have hhalts : Halts isNameCharacter (mark :: rest) := (halts_cons _ _ _).2 hmark.1
  cases segment with
  | literal text => exact ⟨h.1, hhalts⟩
  | reference written =>
      obtain ⟨dotted, hraw, -⟩ := h
      exact ⟨dotted, hraw, Or.inr ⟨hhalts, by simpa using hmark.2.2⟩⟩

theorem EndsAt.halts_space {segment : NameSegment} {following : List Char}
    (h : segment.EndsAt following) (rest : List Char) :
    Halts isWhiteSpace (segment.written ++ rest) := by
  cases segment with
  | literal text => exact Cursor.halts_space_of_plain h.1 rest
  | reference written =>
      obtain ⟨dotted, hraw, -⟩ := h
      exact Cursor.halts_of_isReferenceText (by decide) hraw

theorem EndsAt.nil {segment : NameSegment} {following : List Char}
    (h : segment.EndsAt following) : segment.EndsAt [] := by
  cases segment with
  | literal text => exact ⟨h.1, rfl⟩
  | reference written =>
      obtain ⟨dotted, hraw, -⟩ := h
      exact ⟨dotted, hraw, Or.inr ⟨rfl, by simp⟩⟩

end NameSegment

/-- A name is read alike in front of another text, if the last segment ends there
and no other segment begins. -/
theorem IsNameReading.replace {segments : List NameSegment} {following other : List Char}
    (h : IsNameReading segments following) (hnone : StartsNoSegment other)
    (hends : ∀ segment : NameSegment, segment.EndsAt following → segment.EndsAt other) :
    IsNameReading segments other := by
  induction segments with
  | nil => exact hnone
  | cons segment segments ih =>
      obtain ⟨hsegment, hsegments⟩ := h
      refine ⟨?_, ih hsegments⟩
      cases segments with
      | nil => exact hends segment hsegment
      | cons next segments =>
          have hnext : next.written ≠ [] := hsegments.1.written_ne_nil
          apply hsegment.of_head
          simp only [writtenName, List.flatMap_cons, List.append_assoc]
          rw [List.head?_append_of_ne_nil _ hnext, List.head?_append_of_ne_nil _ hnext]

namespace Cursor

theorem nameSegments_of_isNameReading {segments : List NameSegment} {following : List Char}
    (h : IsNameReading segments following) (before : List Char) :
    (⟨before, writtenName segments ++ following⟩ : Cursor).nameSegments =
      (segments, ⟨(writtenName segments).reverse ++ before, following⟩) := by
  induction segments generalizing before with
  | nil =>
      have hnone : (⟨before, following⟩ : Cursor).nameSegment? = none := h before
      change nameSegments ⟨before, following⟩ = _
      rw [nameSegments_of_none hnone]
      rfl
  | cons segment segments ih =>
      obtain ⟨hends, hsegments⟩ := h
      have hfirst := nameSegment?_of_endsAt hends before
      have hrest := ih hsegments (segment.written.reverse ++ before)
      have hwritten : writtenName (segment :: segments) =
          segment.written ++ writtenName segments := rfl
      rw [hwritten, List.append_assoc, nameSegments_of_some hfirst, hrest, List.reverse_append,
        List.append_assoc]

theorem nameSegments_isNameReading (cursor : Cursor) :
    IsNameReading cursor.nameSegments.1 cursor.nameSegments.2.rest ∧
      cursor.rest = writtenName cursor.nameSegments.1 ++ cursor.nameSegments.2.rest := by
  fun_induction nameSegments cursor with
  | case1 cursor hnone => exact ⟨startsNoSegment_of_eq_none hnone, rfl⟩
  | case2 cursor segment after hsome more stop hmore ih =>
      rw [hmore] at ih
      obtain ⟨hreading, hrest⟩ := ih
      obtain ⟨hends, hfirst, -⟩ := nameSegment?_eq_some hsome
      rw [hrest] at hends hfirst
      refine ⟨⟨hends, hreading⟩, ?_⟩
      rw [hfirst]
      simp [writtenName]

end Cursor

namespace DynamicName

/-- The name is what the reader of names reads in front of `following`. -/
def ReadsBefore (name : DynamicName) (following : List Char) : Prop :=
  name.segments ≠ [] ∧ IsNameReading name.segments following

theorem toList_text (name : DynamicName) : name.text.toList = writtenName name.segments := by
  unfold text writtenName
  induction name.segments with
  | nil => rfl
  | cons segment segments ih => simp [ih, NameSegment.written]

@[simp] theorem text_ofLiteral (text : String) : (ofLiteral text).text = text := by
  simp [DynamicName.text, ofLiteral, NameSegment.text]

/-- A mark that no name goes on with ends a plain name. -/
theorem ofLiteral_readsBefore {text : String} (htext : IsPlainText text.toList) {mark : Char}
    (hmark : isNameCharacter mark = false ∧ mark ≠ '&') (rest : List Char) :
    (ofLiteral text).ReadsBefore (mark :: rest) := by
  have hnone : StartsNoSegment (mark :: rest) := startsNoSegment_cons hmark.1 hmark.2 rest
  have hhalts : Halts isNameCharacter (mark :: rest) := (halts_cons _ _ _).2 hmark.1
  exact ⟨List.cons_ne_nil _ _, ⟨htext, hhalts⟩, hnone⟩

theorem ReadsBefore.replace {name : DynamicName} {following other : List Char}
    (h : name.ReadsBefore following) (hnone : StartsNoSegment other)
    (hends : ∀ segment : NameSegment, segment.EndsAt following → segment.EndsAt other) :
    name.ReadsBefore other :=
  ⟨h.1, h.2.replace hnone hends⟩

/-- What a name is read in front of does not matter once such a mark follows it. -/
theorem ReadsBefore.before_mark {name : DynamicName} {following : List Char}
    (h : name.ReadsBefore following) {mark : Char}
    (hmark : isNameCharacter mark = false ∧ mark ≠ '&' ∧ mark ≠ '.') (rest : List Char) :
    name.ReadsBefore (mark :: rest) :=
  h.replace (startsNoSegment_cons hmark.1 hmark.2.1 rest) fun _ hends =>
    hends.before_mark hmark rest

theorem ReadsBefore.halts_space {name : DynamicName} {following : List Char}
    (h : name.ReadsBefore following) (rest : List Char) :
    Halts isWhiteSpace (name.text.toList ++ rest) := by
  rw [toList_text]
  obtain ⟨segments⟩ := name
  cases segments with
  | nil => exact absurd rfl h.1
  | cons segment segments =>
      have hwritten : writtenName (segment :: segments) ++ rest =
          segment.written ++ (writtenName segments ++ rest) := by
        simp [writtenName]
      rw [hwritten]
      exact h.2.1.halts_space _

end DynamicName

namespace Cursor

theorem dynamicName?_of_readsBefore {name : DynamicName} {following : List Char}
    (h : name.ReadsBefore following) (before : List Char) :
    (⟨before, name.text.toList ++ following⟩ : Cursor).dynamicName? =
      some (name, ⟨name.text.toList.reverse ++ before, following⟩) := by
  obtain ⟨segments⟩ := name
  obtain ⟨hne, hreading⟩ := h
  unfold dynamicName?
  rw [DynamicName.toList_text, nameSegments_of_isNameReading hreading]
  cases segments with
  | nil => contradiction
  | cons segment segments => rfl

theorem dynamicName?_eq_some {cursor stop : Cursor} {name : DynamicName}
    (h : cursor.dynamicName? = some (name, stop)) :
    name.ReadsBefore stop.rest ∧ cursor.rest = name.text.toList ++ stop.rest := by
  have hreading := cursor.nameSegments_isNameReading
  unfold dynamicName? at h
  split at h
  · contradiction
  · next segments last hne hsegments =>
      obtain ⟨rfl, rfl⟩ := Prod.mk.inj (Option.some.inj h)
      rw [hsegments] at hreading
      rw [DynamicName.toList_text]
      refine ⟨⟨?_, hreading.1⟩, hreading.2⟩
      rintro rfl
      exact hne rfl

theorem dynamicName?_eq_none_of_startsNoSegment {rest : List Char} (h : StartsNoSegment rest)
    (before : List Char) : (⟨before, rest⟩ : Cursor).dynamicName? = none := by
  have hreading : IsNameReading [] rest := h
  have hsegments := nameSegments_of_isNameReading hreading before
  change nameSegments ⟨before, rest⟩ = _ at hsegments
  simp [dynamicName?, hsegments]

end Cursor

end SasOutline
