import SasOutline.PatternSearch
import SasOutline.SeparatedList
import SasOutline.Proofs.AsciiCase
import SasOutline.Proofs.ByteOffset

/-!
# Reading with checked byte offsets

A stored text is a string of bytes, and a reader of it holds a byte offset, cuts
slices out of the text and jumps to offsets it has computed.  Each of these can
go wrong: a slice may be reversed, leave the text or split a character, a jump
may lead backwards or between the bytes of a character, and a loop may stand
still.  Here every such step is checked, and a failed check is a fault that no
alternative recovers from.

A checked reader agrees with a reader of cursors when it faults nowhere and
yields the same, with offsets for cursors.  Agreement is carried through
sequences, alternatives and loops, so that it has to be shown only for the steps
that compute offsets.
-/

namespace SasOutline

inductive Fault where
  | slice (start stop : Nat)
  | jump (origin target : Nat)
  | search (start : Nat)
  | underflow (minuend subtrahend : Nat)
  | stalled (offset : Nat)
  deriving DecidableEq, Repr

/-- A value, no value, or a fault. -/
abbrev Checked (α : Type) := OptionT (Except Fault) α

namespace Checked

variable {α : Type}

def fault (cause : Fault) : Checked α := OptionT.mk (.error cause)

def ofOption (value? : Option α) : Checked α := OptionT.mk (.ok value?)

/-- Go on without a value; a fault stays a fault. -/
def attempt (checked : Checked α) : Checked (Option α) :=
  some <$> checked <|> pure none

def subtract (minuend subtrahend : Nat) : Checked Nat :=
  if subtrahend ≤ minuend then pure (minuend - subtrahend)
  else fault (.underflow minuend subtrahend)

/-- The bytes of a text from `start` up to `stop`. -/
def slice (text : String) (start stop : Nat) : Checked String :=
  if start ≤ stop ∧ (⟨start⟩ : String.Pos.Raw).IsValid text ∧
      (⟨stop⟩ : String.Pos.Raw).IsValid text then
    pure (String.Pos.Raw.extract text ⟨start⟩ ⟨stop⟩)
  else fault (.slice start stop)

/-- A text without its first `front` and its last `back` bytes. -/
def inner (text : String) (front back : Nat) : Checked String := do
  let stop ← subtract text.utf8ByteSize back
  slice text front stop

/-- The first `count` bytes of a text, if they end between two characters. -/
def leading? (text : String) (count : Nat) : Option String :=
  if (⟨count⟩ : String.Pos.Raw).IsValid text then
    some (String.Pos.Raw.extract text 0 ⟨count⟩)
  else none

def indexOf? (text : String) (inClass : Char → Bool) : Option Nat :=
  let skipped := text.toList.takeWhile (! inClass ·)
  if skipped.length = text.toList.length then none else some (String.utf8Len skipped)

@[simp] theorem ofOption_some (value : α) : ofOption (some value) = pure value := rfl

end Checked

structure ByteCursor where
  text : String
  offset : Nat
  deriving DecidableEq, Repr

structure ByteMatch where
  start : Nat
  stop : Nat
  deriving DecidableEq, Repr

abbrev CheckedReader (α : Type) := ByteCursor → Checked (α × ByteCursor)

/-! ## Primitives -/

namespace ByteCursor

open Checked

def remaining (cursor : ByteCursor) : Nat := cursor.text.utf8ByteSize - cursor.offset

def atEnd (cursor : ByteCursor) : Bool := cursor.text.utf8ByteSize ≤ cursor.offset

def rest (cursor : ByteCursor) : Checked String :=
  slice cursor.text cursor.offset cursor.text.utf8ByteSize

def since (cursor earlier : ByteCursor) : Checked String :=
  slice cursor.text earlier.offset cursor.offset

def jump (cursor : ByteCursor) (target : Nat) : Checked ByteCursor :=
  if cursor.offset ≤ target ∧ (⟨target⟩ : String.Pos.Raw).IsValid cursor.text then
    pure ⟨cursor.text, target⟩
  else fault (.jump cursor.offset target)

def peek (cursor : ByteCursor) : Checked (Option Char) := do
  let rest ← cursor.rest
  return rest.toList.head?

def bump? (cursor : ByteCursor) : Checked (Char × ByteCursor) := do
  let ch ← ofOption (← cursor.peek)
  let next ← cursor.jump (cursor.offset + ch.utf8Size)
  return (ch, next)

/-- The cursor moves before the character is compared. -/
def char? (cursor : ByteCursor) (expected : Char) : Checked ByteCursor := do
  let (ch, next) ← cursor.bump?
  if ch = expected then return next else failure

def keyword? (cursor : ByteCursor) (word : String) : Checked ByteCursor := do
  let rest ← cursor.rest
  let head ← ofOption (leading? rest word.utf8ByteSize)
  if equalIgnoringCase head word then cursor.jump (cursor.offset + word.utf8ByteSize)
  else failure

def followsGlue (cursor : ByteCursor) : Checked Bool := do
  let before ← slice cursor.text 0 cursor.offset
  return before.toList.getLast?.any isKeywordGlue

def precedesGlue (cursor : ByteCursor) : Checked Bool := do
  let next ← cursor.peek
  return next.any isKeywordGlue

def word? (cursor : ByteCursor) (word : String) : Checked ByteCursor := do
  if ← cursor.followsGlue then failure
  else
    let next ← cursor.keyword? word
    if ← next.precedesGlue then failure else return next

/-- Match a pattern at the start of what is left.  The match is found in a slice
that does not contain the text before the cursor. -/
def matching? (cursor : ByteCursor) (pattern : Pattern) : Checked (String × ByteCursor) := do
  let rest ← cursor.rest
  let found ← ofOption (pattern (.ofText rest))
  let read ← slice rest 0 found.offset
  let next ← cursor.jump (cursor.offset + found.offset)
  return (read, next)

def space? (cursor : ByteCursor) : Checked ByteCursor := do
  let (_, next) ← cursor.matching? fun start => start.run? isWhiteSpace
  return next

def skipSpace (cursor : ByteCursor) : Checked ByteCursor :=
  cursor.space? <|> pure cursor

/-- The leftmost match at or after the cursor; the pattern sees the text before
the cursor too. -/
def find? (cursor : ByteCursor) (pattern : Pattern) : Checked ByteMatch := do
  match Cursor.seek? cursor.text cursor.offset with
  | none => fault (.search cursor.offset)
  | some start =>
      let found ← ofOption (start.find? pattern)
      return ⟨found.start.offset, found.stop.offset⟩

def findBefore? (cursor : ByteCursor) (pattern : Pattern) (limit : Nat) :
    Checked ByteMatch := do
  let found ← cursor.find? pattern
  if found.start < limit then return found else failure

def comma? (cursor : ByteCursor) : Checked ByteCursor := do
  let start ← cursor.skipSpace
  let stop ← start.char? ','
  stop.skipSpace

def optional {α : Type} (cursor : ByteCursor) (parsed : Checked (α × ByteCursor)) :
    Checked (Option α × ByteCursor) :=
  (do let (value, next) ← parsed
      return (some value, next)) <|> pure (none, cursor)

/-- The pairs of a separator and an item behind a first item.  A pair that reads
nothing ends the list. -/
def separatedTail {α : Type} (item : CheckedReader α)
    (separator : ByteCursor → Checked ByteCursor) (cursor : ByteCursor) :
    Checked (List α × ByteCursor) := do
  match ← optional cursor (separator cursor >>= item) with
  | (none, _) => return ([], cursor)
  | (some next, after) =>
      if after.offset = cursor.offset then return ([], cursor)
      else if after.remaining < cursor.remaining then
        let (more, stop) ← separatedTail item separator after
        return (next :: more, stop)
      else fault (.stalled cursor.offset)
termination_by cursor.remaining

/-- As many items as there are, put together from the last one to the first. -/
def repeated {α β : Type} (item : CheckedReader α) (add : α → β → β) (empty : β)
    (cursor : ByteCursor) : Checked (β × ByteCursor) := do
  match ← optional cursor (item cursor) with
  | (none, _) => return (empty, cursor)
  | (some next, after) =>
      if after.remaining < cursor.remaining then
        let (more, stop) ← repeated item add empty after
        return (add next more, stop)
      else fault (.stalled cursor.offset)
termination_by cursor.remaining

def separated {α : Type} (item : CheckedReader α)
    (separator : ByteCursor → Checked ByteCursor) (cursor : ByteCursor) :
    Checked (List α × ByteCursor) := do
  match ← optional cursor (item cursor) with
  | (none, _) => return ([], cursor)
  | (some first, after) =>
      let (more, stop) ← separatedTail item separator after
      return (first :: more, stop)

end ByteCursor

/-! ## Agreement -/

/-- `checked` has no fault; it yields a value exactly when one is expected, and
then a related one. -/
def Agrees {α β : Type} (related : α → β → Prop) (expected : Option α)
    (checked : Checked β) : Prop :=
  match expected with
  | none => checked = failure
  | some value => ∃ result, checked = pure result ∧ related value result

/-- The cursor and the offset are the same place of `text`. -/
structure Stands (text : String) (cursor : Cursor) (bytes : ByteCursor) : Prop where
  inText : cursor.InText text
  bytes_eq : bytes = ⟨text, cursor.offset⟩

structure Reads {α : Type} (text : String) (expected : α × Cursor)
    (result : α × ByteCursor) : Prop where
  value_eq : result.1 = expected.1
  stands : Stands text expected.2 result.2

namespace Agrees

variable {α β γ δ : Type} {related : α → β → Prop} {relatedNext : γ → δ → Prop}

theorem ofValue {value : α} {result : β} (h : related value result) :
    Agrees related (some value) (pure result) :=
  ⟨result, rfl, h⟩

theorem bind {expected : Option α} {checked : Checked β} {next : α → Option γ}
    {checkedNext : β → Checked δ} (h : Agrees related expected checked)
    (hnext : ∀ value result, related value result →
      Agrees relatedNext (next value) (checkedNext result)) :
    Agrees relatedNext (expected >>= next) (checked >>= checkedNext) := by
  cases expected with
  | none =>
      have hfailed : checked = failure := h
      rw [hfailed]
      exact rfl
  | some value =>
      obtain ⟨result, hresult, hrelated⟩ := h
      rw [hresult]
      exact hnext value result hrelated

theorem bindValue {value : α} {checked : Checked β} {expected : Option γ}
    {checkedNext : β → Checked δ} (h : Agrees related (some value) checked)
    (hnext : ∀ result, related value result →
      Agrees relatedNext expected (checkedNext result)) :
    Agrees relatedNext expected (checked >>= checkedNext) := by
  obtain ⟨result, hresult, hrelated⟩ := h
  rw [hresult]
  exact hnext result hrelated

theorem orElse {first second : Option α} {checkedFirst checkedSecond : Checked β}
    (hfirst : Agrees related first checkedFirst)
    (hsecond : Agrees related second checkedSecond) :
    Agrees related (first <|> second) (checkedFirst <|> checkedSecond) := by
  cases first with
  | none =>
      have hfailed : checkedFirst = failure := hfirst
      rw [hfailed]
      exact hsecond
  | some value =>
      obtain ⟨result, hresult, hrelated⟩ := hfirst
      rw [hresult]
      exact ⟨result, rfl, hrelated⟩

theorem map {expected : Option α} {checked : Checked β} {f : α → γ} {g : β → δ}
    (h : Agrees related expected checked)
    (hmap : ∀ value result, related value result → relatedNext (f value) (g result)) :
    Agrees relatedNext (expected.map f) (do let result ← checked; return g result) := by
  cases expected with
  | none =>
      have hfailed : checked = failure := h
      rw [hfailed]
      exact rfl
  | some value =>
      obtain ⟨result, hresult, hrelated⟩ := h
      rw [hresult]
      exact ⟨g result, rfl, hmap value result hrelated⟩

theorem filter {expected : Option α} {checked : Checked β} {keep : α → Bool}
    {kept : β → Prop} [DecidablePred kept] (h : Agrees related expected checked)
    (hkeep : ∀ value result, related value result → (kept result ↔ keep value = true)) :
    Agrees related (expected.filter keep) (do
      let result ← checked
      if kept result then return result else failure) := by
  cases expected with
  | none =>
      have hfailed : checked = failure := h
      rw [hfailed]
      exact rfl
  | some value =>
      obtain ⟨result, hresult, hrelated⟩ := h
      rw [hresult, pure_bind, Option.filter_some]
      by_cases hkept : kept result
      · rw [if_pos hkept, if_pos ((hkeep value result hrelated).1 hkept)]
        exact ofValue hrelated
      · rw [if_neg hkept, if_neg (mt (hkeep value result hrelated).2 hkept)]
        exact rfl

theorem attempt {expected : Option α} {checked : Checked β} (h : Agrees related expected checked) :
    Agrees (Option.Rel related) (some expected) (Checked.attempt checked) := by
  cases expected with
  | none =>
      have hfailed : checked = failure := h
      rw [hfailed]
      exact ofValue .none
  | some value =>
      obtain ⟨result, hresult, hrelated⟩ := h
      rw [hresult]
      exact ofValue (.some hrelated)

theorem isSome_of_rel {expected : Option α} {result : Option β}
    (h : Option.Rel related expected result) : expected.isSome = result.isSome := by
  cases h <;> rfl

/-! Readings of the same value go on from the same place. -/

section Readings

variable {text : String}

theorem read {value : α} {cursor : Cursor} {bytes : ByteCursor} (h : Stands text cursor bytes) :
    Agrees (Reads text) (some (value, cursor)) (pure (value, bytes)) :=
  ofValue ⟨rfl, h⟩

theorem bindRead {expected : Option (α × Cursor)} {checked : Checked (α × ByteCursor)}
    {next : α × Cursor → Option γ} {checkedNext : α × ByteCursor → Checked δ}
    (h : Agrees (Reads text) expected checked)
    (hnext : ∀ value cursor bytes, Stands text cursor bytes →
      Agrees relatedNext (next (value, cursor)) (checkedNext (value, bytes))) :
    Agrees relatedNext (expected >>= next) (checked >>= checkedNext) := by
  refine h.bind fun (value, cursor) (value', bytes) hread => ?_
  obtain ⟨hvalue, hstands⟩ := hread
  obtain rfl : value' = value := hvalue
  exact hnext value' cursor bytes hstands

theorem bindReadValue {read : α × Cursor} {checked : Checked (α × ByteCursor)}
    {expected : Option γ} {checkedNext : α × ByteCursor → Checked δ}
    (h : Agrees (Reads text) (some read) checked)
    (hnext : ∀ bytes, Stands text read.2 bytes →
      Agrees relatedNext expected (checkedNext (read.1, bytes))) :
    Agrees relatedNext expected (checked >>= checkedNext) := by
  refine h.bindValue fun (value', bytes) hread => ?_
  obtain ⟨hvalue, hstands⟩ := hread
  obtain rfl : value' = read.1 := hvalue
  exact hnext bytes hstands

theorem mapRead {expected : Option (α × Cursor)} {checked : Checked (α × ByteCursor)}
    (f : α → β) (h : Agrees (Reads text) expected checked) :
    Agrees (Reads text) (expected.map (Prod.map f id)) (do
      let (value, next) ← checked
      return (f value, next)) :=
  h.map fun _ _ ⟨hvalue, hstands⟩ => ⟨congrArg f hvalue, hstands⟩

end Readings

end Agrees

end SasOutline
