import SasOutline.Cursor

/-!
# Names with macro variables in them

A macro variable may stand in for any part of a name, so a name is a run of
plain pieces and variable references.  The references keep their ampersands and
their closing dot, and the printed name is the text the name was read from.
-/

namespace SasOutline

/-- A macro variable reference as written: `&year`, `&year.` or `&&a&i.`. -/
structure MacroVariable where
  raw : String
  deriving DecidableEq, Repr

/-- The name without the ampersands in front and the dots behind. -/
def MacroVariable.name (reference : MacroVariable) : String :=
  let trimmed := reference.raw.toList.dropWhile (· == '&')
  String.ofList (trimmed.reverse.dropWhile (· == '.')).reverse

inductive NameSegment where
  | literal (text : String)
  | reference (written : MacroVariable)
  deriving DecidableEq, Repr

namespace NameSegment

def text : NameSegment → String
  | literal text => text
  | reference written => written.raw

def isReference : NameSegment → Bool
  | literal _ => false
  | reference _ => true

end NameSegment

structure DynamicName where
  segments : List NameSegment
  deriving DecidableEq, Repr, Inhabited

namespace DynamicName

def text (name : DynamicName) : String :=
  String.join (name.segments.map NameSegment.text)

/-- No segment contributes a character. -/
def isEmpty (name : DynamicName) : Bool :=
  name.segments.all fun segment => segment.text.isEmpty

def isDynamic (name : DynamicName) : Bool :=
  name.segments.any NameSegment.isReference

def ofLiteral (text : String) : DynamicName := ⟨[.literal text]⟩

end DynamicName

def isNameCharacter (ch : Char) : Bool :=
  ch.isAlphanum || ch == '_' || ch == '-'

namespace Cursor

def skipDot (cursor : Cursor) : Cursor := (cursor.char? '.').getD cursor

theorem skipDot_reaches (cursor : Cursor) : cursor.Reaches cursor.skipDot := by
  unfold skipDot
  match h : cursor.char? '.' with
  | none => exact Reaches.refl cursor
  | some later => exact (char?_passes h).1

def plainName? (cursor : Cursor) : Option (String × Cursor) :=
  (cursor.run? isNameCharacter).map fun stop =>
    (cursor.stringUntil stop, stop)

/-- The end of a reference that starts at the cursor: an ampersand and a name,
or two ampersands, a name, an ampersand and a name, where a dot may close each
of the names. -/
def referenceEnd? (cursor : Cursor) : Option Cursor := do
  let first ← cursor.char? '&'
  match first.run? isNameCharacter with
  | some stop => return stop.skipDot
  | none =>
    let second ← first.char? '&'
    let outer ← second.run? isNameCharacter
    let third ← outer.skipDot.char? '&'
    let inner ← third.run? isNameCharacter
    return inner.skipDot

def macroVariable? (cursor : Cursor) : Option (MacroVariable × Cursor) :=
  cursor.referenceEnd?.map fun stop =>
    (⟨cursor.stringUntil stop⟩, stop)

def nameSegment? (cursor : Cursor) : Option (NameSegment × Cursor) :=
  match cursor.plainName? with
  | some (text, stop) => some (.literal text, stop)
  | none => cursor.macroVariable?.map fun (written, stop) => (.reference written, stop)

theorem plainName?_passes {cursor later : Cursor} {name : String}
    (h : cursor.plainName? = some (name, later)) : cursor.Passes later := by
  obtain ⟨stop, hrun, heq⟩ := Option.map_eq_some_iff.1 h
  obtain ⟨-, rfl⟩ := Prod.mk.inj heq
  exact run?_passes hrun

theorem referenceEnd?_passes {cursor later : Cursor}
    (h : cursor.referenceEnd? = some later) : cursor.Passes later := by
  obtain ⟨first, hfirst, h⟩ := Option.bind_eq_some_iff.1 h
  have passes := char?_passes hfirst
  split at h
  · next stop hstop =>
    obtain rfl := Option.some.inj h
    exact (passes.trans (run?_passes hstop)).trans_reaches stop.skipDot_reaches
  · obtain ⟨second, hsecond, h⟩ := Option.bind_eq_some_iff.1 h
    obtain ⟨outer, houter, h⟩ := Option.bind_eq_some_iff.1 h
    obtain ⟨third, hthird, h⟩ := Option.bind_eq_some_iff.1 h
    obtain ⟨inner, hinner, h⟩ := Option.bind_eq_some_iff.1 h
    obtain rfl := Option.some.inj h
    exact ((((passes.trans (char?_passes hsecond)).trans (run?_passes houter)).trans_reaches
      outer.skipDot_reaches).trans ((char?_passes hthird).trans
        (run?_passes hinner))).trans_reaches inner.skipDot_reaches

theorem macroVariable?_passes {cursor later : Cursor} {written : MacroVariable}
    (h : cursor.macroVariable? = some (written, later)) : cursor.Passes later := by
  obtain ⟨stop, hstop, heq⟩ := Option.map_eq_some_iff.1 h
  obtain ⟨-, rfl⟩ := Prod.mk.inj heq
  exact referenceEnd?_passes hstop

theorem nameSegment?_passes {cursor later : Cursor} {segment : NameSegment}
    (h : cursor.nameSegment? = some (segment, later)) : cursor.Passes later := by
  unfold nameSegment? at h
  split at h
  · next text stop hplain =>
    obtain ⟨-, rfl⟩ := Prod.mk.inj (Option.some.inj h)
    exact plainName?_passes hplain
  · obtain ⟨⟨written, stop⟩, hvariable, heq⟩ := Option.map_eq_some_iff.1 h
    obtain ⟨-, rfl⟩ := Prod.mk.inj heq
    exact macroVariable?_passes hvariable

def nameSegments (cursor : Cursor) : List NameSegment × Cursor :=
  match _ : cursor.nameSegment? with
  | none => ([], cursor)
  | some (segment, after) =>
      let (more, stop) := nameSegments after
      (segment :: more, stop)
termination_by cursor.remaining
decreasing_by exact (nameSegment?_passes ‹_›).remaining_lt

theorem nameSegments_of_none {cursor : Cursor} (h : cursor.nameSegment? = none) :
    cursor.nameSegments = ([], cursor) := by
  rw [nameSegments]
  split
  · rfl
  · next hsome =>
    rw [h] at hsome
    contradiction

theorem nameSegments_of_some {cursor after : Cursor} {segment : NameSegment}
    (h : cursor.nameSegment? = some (segment, after)) :
    cursor.nameSegments = (segment :: after.nameSegments.1, after.nameSegments.2) := by
  rw [nameSegments]
  split
  · next hnone =>
    rw [h] at hnone
    contradiction
  · next hsome =>
    rw [h] at hsome
    obtain ⟨rfl, rfl⟩ := Prod.mk.inj (Option.some.inj hsome)
    rfl

def dynamicName? (cursor : Cursor) : Option (DynamicName × Cursor) :=
  match cursor.nameSegments with
  | ([], _) => none
  | (segments, stop) => some (⟨segments⟩, stop)

theorem nameSegments_reaches (cursor : Cursor) :
    cursor.Reaches cursor.nameSegments.2 := by
  fun_induction nameSegments cursor with
  | case1 cursor h => exact Reaches.refl cursor
  | case2 cursor segment after h more stop hmore ih =>
    rw [hmore] at ih
    exact (nameSegment?_passes h).1.trans ih

theorem dynamicName?_passes {cursor later : Cursor} {name : DynamicName}
    (h : cursor.dynamicName? = some (name, later)) : cursor.Passes later := by
  unfold dynamicName? at h
  split at h
  · contradiction
  · next segments stop hne hsegments =>
    obtain ⟨-, rfl⟩ := Prod.mk.inj (Option.some.inj h)
    rw [nameSegments] at hsegments
    split at hsegments
    · obtain ⟨rfl, rfl⟩ := Prod.mk.inj hsegments
      exact (hne rfl).elim
    · next segment after hsegment =>
      have reaches := after.nameSegments_reaches
      generalize after.nameSegments = pair at hsegments reaches
      obtain ⟨more, last⟩ := pair
      obtain ⟨-, rfl⟩ := Prod.mk.inj hsegments
      exact (nameSegment?_passes hsegment).trans_reaches reaches

end Cursor

end SasOutline
