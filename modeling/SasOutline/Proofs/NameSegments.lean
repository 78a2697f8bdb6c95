import SasOutline.Proofs.NameReading

/-!
# The segments of a name

A name is read piece by piece: plain text where there is some, and a macro variable
reference where there is none.  A plain piece is as long as it can be, so no two of them
touch, and the reading ends where neither kind of piece follows.

The text behind a name decides where the name ends and nothing else.  The printed name is
the text that was read, and on its own it is divided into the same pieces.
-/

namespace SasOutline

/-- A letter or a digit of ASCII, an underscore or a hyphen. -/
def IsNameLetter (ch : Char) : Prop :=
  ('A' ≤ ch ∧ ch ≤ 'Z') ∨ ('a' ≤ ch ∧ ch ≤ 'z') ∨ ('0' ≤ ch ∧ ch ≤ '9') ∨ ch = '_' ∨ ch = '-'

theorem isNameLetter_of_isNameCharacter {ch : Char} (hch : isNameCharacter ch = true) :
    IsNameLetter ch := by
  simp only [isNameCharacter, Char.isAlphanum, Bool.or_eq_true, beq_iff_eq] at hch
  rcases hch with ((hletter | hdigit) | hscore) | hhyphen
  · rcases Bool.or_eq_true_iff.1 hletter with hupper | hlower
    · exact Or.inl (of_decide_eq_true hupper)
    · obtain ⟨hfirst, hlast⟩ := Bool.and_eq_true_iff.1 hlower
      exact Or.inr (Or.inl ⟨of_decide_eq_true hfirst, of_decide_eq_true hlast⟩)
  · obtain ⟨hfirst, hlast⟩ := Bool.and_eq_true_iff.1 hdigit
    exact Or.inr (Or.inr (Or.inl ⟨of_decide_eq_true hfirst, of_decide_eq_true hlast⟩))
  · exact Or.inr (Or.inr (Or.inr (Or.inl hscore)))
  · exact Or.inr (Or.inr (Or.inr (Or.inr hhyphen)))

/-- The name is what stands between the cursors, in pieces that are as long as they can be,
and on its own it is read in the same pieces. -/
structure Cursor.ReadsName (cursor : Cursor) (name : DynamicName) (stop : Cursor) : Prop where
  consumed : cursor.Reaches stop ∧ cursor.stringUntil stop = name.text
  words : ∀ text, .literal text ∈ name.segments →
    text ≠ "" ∧ ∀ ch ∈ text.toList, IsNameLetter ch
  apart : name.segments.IsChain fun first second =>
    first.isReference = true ∨ second.isReference = true
  marked : ∀ written, .reference written ∈ name.segments → written.raw.toList.head? = some '&'
  maximal : stop.plainName? = none ∧ stop.macroVariable? = none
  alone : (ofText name.text).dynamicName? = some (name, ⟨name.text.toList.reverse, []⟩)

/-! ## The pieces of a reading -/

/-- A plain piece ends where no character of names follows, and the next plain piece would
begin with one. -/
theorem NameSegment.EndsAt.touches {first second : NameSegment} {between rest : List Char}
    (hfirst : first.EndsAt (second.written ++ between)) (hsecond : second.EndsAt rest) :
    first.isReference = true ∨ second.isReference = true := by
  cases first with
  | reference written => exact Or.inl rfl
  | literal text =>
      cases second with
      | reference written => exact Or.inr rfl
      | literal next =>
          have hhalts : Halts isNameCharacter (next.toList ++ between) := hfirst.2
          obtain ⟨hnonempty, hletters⟩ : IsPlainText next.toList := hsecond.1
          cases hnext : next.toList with
          | nil => exact absurd hnext hnonempty
          | cons ch later =>
              have hletter : isNameCharacter ch = true := hletters ch (by simp [hnext])
              simp [hnext, hletter] at hhalts

namespace IsNameReading

variable {segments : List NameSegment} {following : List Char}

theorem endsAt_of_mem (h : IsNameReading segments following) {segment : NameSegment}
    (hmem : segment ∈ segments) : ∃ rest, segment.EndsAt rest := by
  induction segments with
  | nil => contradiction
  | cons first segments ih =>
      rcases List.mem_cons.mp hmem with hfirst | hlater
      · rw [hfirst]
        exact ⟨_, h.1⟩
      · exact ih h.2 hlater

theorem startsNoSegment (h : IsNameReading segments following) : StartsNoSegment following := by
  induction segments with
  | nil => exact h
  | cons first segments ih => exact ih h.2

theorem apart (h : IsNameReading segments following) :
    segments.IsChain fun first second =>
      first.isReference = true ∨ second.isReference = true := by
  induction segments with
  | nil => exact List.IsChain.nil
  | cons first segments ih =>
      cases segments with
      | nil => exact List.IsChain.singleton first
      | cons second segments =>
          have hfirst : first.EndsAt (second.written ++ (writtenName segments ++ following)) := by
            simpa [writtenName] using h.1
          have hsecond := h.2.1
          exact List.IsChain.cons_cons (hfirst.touches hsecond) (ih h.2)

end IsNameReading

theorem head?_of_isReferenceText {raw : List Char} {dotted : Bool}
    (hraw : IsReferenceText raw dotted) : raw.head? = some '&' := by
  cases hraw <;> rfl

theorem Cursor.nameSegment?_eq_none_iff {cursor : Cursor} :
    cursor.nameSegment? = none ↔ cursor.plainName? = none ∧ cursor.macroVariable? = none := by
  unfold nameSegment?
  cases hplain : cursor.plainName? with
  | none => simp
  | some pair => simp

/-! ## The printed name -/

/-- Nothing has to follow a name for it to end. -/
theorem DynamicName.ReadsBefore.alone {name : DynamicName} {following : List Char}
    (h : name.ReadsBefore following) : name.ReadsBefore [] :=
  h.replace startsNoSegment_nil fun _ hends => hends.nil

namespace Cursor

theorem readsName_of_dynamicName? {cursor stop : Cursor} {name : DynamicName}
    (h : cursor.dynamicName? = some (name, stop)) : cursor.ReadsName name stop := by
  obtain ⟨hbefore, hrest⟩ := dynamicName?_eq_some h
  have hreading : IsNameReading name.segments stop.rest := hbefore.2
  have hreaches : cursor.Reaches stop := (dynamicName?_passes h).reaches
  constructor
  · refine ⟨hreaches, ?_⟩
    have hsplit := hreaches.textUntil_append.1
    rw [hrest, List.append_cancel_right_eq] at hsplit
    rw [stringUntil, hsplit, String.ofList_toList]
  · intro text hmem
    obtain ⟨rest, hplain, -⟩ := hreading.endsAt_of_mem hmem
    constructor
    · rintro rfl
      exact hplain.1 rfl
    · intro ch hch
      exact isNameLetter_of_isNameCharacter (hplain.2 ch hch)
  · exact hreading.apart
  · intro written hmem
    obtain ⟨rest, dotted, hraw, -⟩ := hreading.endsAt_of_mem hmem
    exact head?_of_isReferenceText hraw
  · exact nameSegment?_eq_none_iff.mp (hreading.startsNoSegment stop.before)
  · have halone := dynamicName?_of_readsBefore hbefore.alone []
    simpa [ofText] using halone

theorem dynamicName?_eq_none_iff {cursor : Cursor} :
    cursor.dynamicName? = none ↔ cursor.nameSegment? = none := by
  constructor
  · intro hnone
    cases hsegment : cursor.nameSegment? with
    | none => rfl
    | some pair => simp [dynamicName?, nameSegments_of_some hsegment] at hnone
  · intro hnone
    simp [dynamicName?, nameSegments_of_none hnone]

/-- A name is read wherever a piece of one can be, and it is read whole, in pieces that
cannot be longer. -/
theorem dynamicName?_reads_pieces (cursor : Cursor) :
    (cursor.dynamicName? = none ↔ cursor.plainName? = none ∧ cursor.macroVariable? = none) ∧
      ∀ name stop, cursor.dynamicName? = some (name, stop) → cursor.ReadsName name stop := by
  constructor
  · rw [dynamicName?_eq_none_iff, nameSegment?_eq_none_iff]
  · intro name stop hread
    exact readsName_of_dynamicName? hread

/-- An indirect reference, whose dots both belong to it, between two plain pieces. -/
def mixedName : DynamicName := ⟨[.literal "ab", .reference ⟨"&&x.&y."⟩, .literal "c-1"]⟩

theorem dynamicName?_reads_pieces_mixed :
    (⟨"=".toList, "ab&&x.&y.c-1.d".toList⟩ : Cursor).dynamicName? =
        some (mixedName, ⟨"1-c.y&.x&&ba=".toList, ".d".toList⟩) ∧
      (⟨"=".toList, "ab&&x.&y.c-1.d".toList⟩ : Cursor).ReadsName mixedName
        ⟨"1-c.y&.x&&ba=".toList, ".d".toList⟩ := by
  have hread : (⟨"=".toList, "ab&&x.&y.c-1.d".toList⟩ : Cursor).dynamicName? =
      some (mixedName, ⟨"1-c.y&.x&&ba=".toList, ".d".toList⟩) := by
    decide +kernel
  exact ⟨hread, (dynamicName?_reads_pieces _).2 _ _ hread⟩

end Cursor

end SasOutline
