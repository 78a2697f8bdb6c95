import SasOutline.GlobalStatements
import SasOutline.MacroStatements
import SasOutline.Proofs.CheckedDatasets

/-!
# Single statements and macro marks at byte offsets

The statements outside of steps and the marks of macros are sequences of readers
that were dealt with before.  Only a default value counts bytes of its own: the
length of a run is the offset behind its last character, and the text of the
value is cut out between the cursors in front of it and behind it.
-/

namespace SasOutline

/-! ## Statements outside of steps -/

namespace Pattern

def letValue : Pattern := fun cursor => cursor.run? (· != ';')

def macroEnd : Pattern := Cursor.macroEnd?

theorem macroEnd_ignoresBefore : macroEnd.IgnoresBefore := by
  intro before cursor
  apply bind_image (cursor.letters?_behind before foldedLetter "%mend")
  intro keyword
  rw [keyword.skipWhile_behind]
  exact Cursor.char?_behind before _ ';'

end Pattern

namespace ByteCursor

open Checked

def newline? (cursor : ByteCursor) : Checked ByteCursor :=
  cursor.char? '\n' <|> (do
    let middle ← cursor.char? '\r'
    middle.char? '\n')

def semicolon? (cursor : ByteCursor) : Checked ByteCursor := do
  let stop ← cursor.skipSpace
  stop.char? ';'

def macroVariableDefinition? (cursor : ByteCursor) :
    Checked (MacroVariableDefinition × ByteCursor) := do
  let keyword ← cursor.keyword? "%let"
  let start ← keyword.space?
  let (name, stop) ← start.dynamicName?
  let stop ← stop.skipSpace
  let equals ← stop.char? '='
  let (value, stop) ← equals.optional (equals.matching? Pattern.letValue)
  let stop ← stop.char? ';'
  return (⟨name, value⟩, stop)

def inclusion? (cursor : ByteCursor) : Checked (Inclusion × ByteCursor) := do
  let keyword ← cursor.keyword? "%include"
  let start ← keyword.space?
  let (path, stop) ← start.quotedPath?
  let stop ← stop.semicolon?
  return (⟨path, none⟩, stop)

def pathTarget? (cursor : ByteCursor) : Checked (LibraryTarget × ByteCursor) := do
  let (path, stop) ← cursor.quotedPath?
  let stop ← stop.semicolon?
  return (.path path, stop)

def pointerTarget? (cursor : ByteCursor) : Checked (LibraryTarget × ByteCursor) := do
  let opened ← cursor.char? '('
  let start ← opened.skipSpace
  let (library, stop) ← start.dynamicName?
  let stop ← stop.skipSpace
  let closed ← stop.char? ')'
  let stop ← closed.semicolon?
  return (.pointer library, stop)

def libraryBinding? (cursor : ByteCursor) : Checked (LibraryBinding × ByteCursor) := do
  let keyword ← cursor.word? "libname"
  let start ← keyword.space?
  let (library, stop) ← start.dynamicName?
  let start ← stop.space?
  let (target, stop) ← start.pathTarget? <|> start.pointerTarget?
  return (⟨library, target, none⟩, stop)

end ByteCursor

namespace Stands

variable {text : String} {cursor : Cursor} {bytes : ByteCursor}

theorem newline?_agrees (h : Stands text cursor bytes) :
    Agrees (Stands text) cursor.newline? bytes.newline? := by
  apply (h.char?_agrees '\n').orElse
  apply (h.char?_agrees '\r').bind
  intro middle middle' hmiddle
  exact hmiddle.char?_agrees '\n'

theorem semicolon?_agrees (h : Stands text cursor bytes) :
    Agrees (Stands text) cursor.semicolon? bytes.semicolon? :=
  h.skipSpace_agrees.bindValue fun _ hstop => hstop.char?_agrees ';'

theorem letValue_agrees (h : Stands text cursor bytes) :
    Agrees (Reads text) (some cursor.letValue)
      (bytes.optional (bytes.matching? Pattern.letValue)) := by
  have hmatch := h.matching?_agrees Pattern.letValue
    (fun before start => start.run?_behind before _)
    fun _ _ hrun => (Cursor.run?_passes hrun).reaches
  have hvalue : cursor.letValue = optional cursor
      ((Pattern.letValue cursor).map fun stop => (cursor.stringUntil stop, stop)) := by
    unfold Cursor.letValue Pattern.letValue
    cases cursor.run? (· != ';') <;> rfl
  rw [hvalue]
  exact h.optional_agrees hmatch

theorem macroVariableDefinition?_agrees (h : Stands text cursor bytes) :
    Agrees (Reads text) cursor.macroVariableDefinition? bytes.macroVariableDefinition? := by
  apply (h.keyword?_agrees (by decide)).bind
  intro keyword keyword' hkeyword
  apply hkeyword.space?_agrees.bind
  intro start start' hstart
  apply hstart.dynamicName?_agrees.bindRead
  intro name stop stop' hstop
  apply hstop.skipSpace_agrees.bindValue
  intro blank hblank
  apply (hblank.char?_agrees '=').bind
  intro equals equals' hequals
  apply hequals.letValue_agrees.bindReadValue
  intro value hvalue
  apply (hvalue.char?_agrees ';').bind
  intro last last' hlast
  exact Agrees.read hlast

theorem inclusion?_agrees (h : Stands text cursor bytes) :
    Agrees (Reads text) cursor.inclusion? bytes.inclusion? := by
  apply (h.keyword?_agrees (by decide)).bind
  intro keyword keyword' hkeyword
  apply hkeyword.space?_agrees.bind
  intro start start' hstart
  apply hstart.quotedPath?_agrees.bindRead
  intro path stop stop' hstop
  apply hstop.semicolon?_agrees.bind
  intro last last' hlast
  exact Agrees.read hlast

theorem pathTarget?_agrees (h : Stands text cursor bytes) :
    Agrees (Reads text) cursor.pathTarget? bytes.pathTarget? := by
  apply h.quotedPath?_agrees.bindRead
  intro path stop stop' hstop
  apply hstop.semicolon?_agrees.bind
  intro last last' hlast
  exact Agrees.read hlast

theorem pointerTarget?_agrees (h : Stands text cursor bytes) :
    Agrees (Reads text) cursor.pointerTarget? bytes.pointerTarget? := by
  apply (h.char?_agrees '(').bind
  intro opened opened' hopened
  apply hopened.skipSpace_agrees.bindValue
  intro start hstart
  apply hstart.dynamicName?_agrees.bindRead
  intro library stop stop' hstop
  apply hstop.skipSpace_agrees.bindValue
  intro blank hblank
  apply (hblank.char?_agrees ')').bind
  intro closed closed' hclosed
  apply hclosed.semicolon?_agrees.bind
  intro last last' hlast
  exact Agrees.read hlast

theorem libraryBinding?_agrees (h : Stands text cursor bytes) :
    Agrees (Reads text) cursor.libraryBinding? bytes.libraryBinding? := by
  apply (h.word?_agrees (by decide)).bind
  intro keyword keyword' hkeyword
  apply hkeyword.space?_agrees.bind
  intro start start' hstart
  apply hstart.dynamicName?_agrees.bindRead
  intro library stop stop' hstop
  apply hstop.space?_agrees.bind
  intro target target' htarget
  apply (htarget.pathTarget?_agrees.orElse htarget.pointerTarget?_agrees).bindRead
  intro value last last' hlast
  exact Agrees.read hlast

end Stands

/-! ## Macro arguments -/

/-- The offset behind a run of default characters whose first character has the
offset `start`. -/
def defaultRunEnd (start : Nat) : List Char → Nat
  | [] => start
  | ch :: rest =>
      if isDefaultCharacter ch || ((ch == '/' || ch == '\\') && rest.head? != some '*') then
        defaultRunEnd (start + ch.utf8Size) rest
      else start

theorem defaultRunEnd_eq (start : Nat) (text : List Char) :
    defaultRunEnd start text =
      start + String.utf8Len (text.take (defaultRunLength text)) := by
  induction text generalizing start with
  | nil => rfl
  | cons ch rest ih =>
      unfold defaultRunEnd defaultRunLength
      by_cases hdefault : (isDefaultCharacter ch ||
          ((ch == '/' || ch == '\\') && rest.head? != some '*')) = true
      · rw [if_pos hdefault, if_pos hdefault, ih, List.take_succ_cons, String.utf8Len_cons]
        omega
      · rw [if_neg hdefault, if_neg hdefault, List.take_zero]
        rfl

namespace ByteCursor

open Checked

def defaultRun? (cursor : ByteCursor) : Checked ByteCursor := do
  let rest ← cursor.rest
  let length := defaultRunEnd 0 rest.toList
  if 0 < length then cursor.jump (cursor.offset + length) else failure

def defaultPiece? (cursor : ByteCursor) : Checked (Unit × ByteCursor) :=
  (do let next ← cursor.defaultRun?
      return ((), next)) <|>
  (do let (_, next) ← cursor.macroVariable?
      return ((), next)) <|>
  (do let (_, next) ← cursor.quotedString?
      return ((), next))

def defaultValue (start : ByteCursor) : Checked (String × ByteCursor) := do
  let (_, stop) ← start.repeated defaultPiece? (fun _ _ => ()) ()
  let value ← stop.since start
  return (value, stop)

def argumentDefault? (cursor : ByteCursor) : Checked (String × ByteCursor) := do
  let equals ← cursor.char? '='
  let start ← equals.skipSpace
  start.defaultValue

def macroArgument? (cursor : ByteCursor) : Checked (MacroArgument × ByteCursor) := do
  let (name, stop) ← cursor.dynamicName?
  let stop ← stop.skipSpace
  let (default, stop) ← stop.optional stop.argumentDefault?
  let stop ← stop.skipSpace
  let (doc, stop) ← stop.optional stop.comment?
  return (⟨name, default, doc⟩, stop)

def argumentList? (cursor : ByteCursor) : Checked (List MacroArgument × ByteCursor) :=
  cursor.bracketed macroArgument? comma?

end ByteCursor

namespace Stands

variable {text : String} {cursor : Cursor} {bytes : ByteCursor}

theorem defaultRun?_agrees (h : Stands text cursor bytes) :
    Agrees (Stands text) cursor.defaultRun? bytes.defaultRun? := by
  let stop := cursor.skip (defaultRunLength cursor.rest)
  have toStop : cursor.Reaches stop := cursor.skip_reaches _
  have hread : cursor.textUntil stop = cursor.rest.take (defaultRunLength cursor.rest) := by
    have hsplit := Cursor.textUntil_append cursor.before stop.before
      (cursor.rest.take (defaultRunLength cursor.rest))
      (cursor.rest.drop (defaultRunLength cursor.rest))
    rwa [List.take_append_drop] at hsplit
  have hlength : defaultRunEnd 0 cursor.rest = String.utf8Len (cursor.textUntil stop) := by
    rw [defaultRunEnd_eq, hread, Nat.zero_add]
  unfold Cursor.defaultRun? ByteCursor.defaultRun?
  simp only [h.rest_eq, pure_bind, String.toList_ofList, hlength]
  by_cases hnone : defaultRunLength cursor.rest = 0
  · rw [hread, hnone, List.take_zero]
    exact rfl
  · have hne : cursor.rest ≠ [] := by
      intro hrest
      rw [hrest] at hnone
      exact hnone rfl
    have passes : cursor.Passes stop := Cursor.skip_passes (Nat.pos_of_ne_zero hnone) hne
    have hpositive : 0 < String.utf8Len (cursor.textUntil stop) := by
      have hoffset := passes.offset_lt
      rw [toStop.offset_eq] at hoffset
      omega
    rw [if_neg hnone, if_pos hpositive]
    exact h.jump_by_agrees toStop

theorem defaultPiece?_agrees (h : Stands text cursor bytes) :
    Agrees (Reads text) (cursor.defaultPiece?.map fun stop => ((), stop))
      bytes.defaultPiece? := by
  have hpieces : (cursor.defaultPiece?.map fun stop => ((), stop)) =
      ((cursor.defaultRun?.map fun stop => ((), stop)) <|>
        cursor.macroVariable?.map (Prod.map (fun _ => ()) id) <|>
          cursor.quotedString?.map (Prod.map (fun _ => ()) id)) := by
    unfold Cursor.defaultPiece?
    cases cursor.defaultRun? <;> cases cursor.macroVariable? <;> cases cursor.quotedString? <;> rfl
  rw [hpieces]
  apply Agrees.orElse
  · exact h.defaultRun?_agrees.map fun _ _ hstop => ⟨rfl, hstop⟩
  apply Agrees.orElse
  · exact h.macroVariable?_agrees.mapRead fun _ => ()
  · exact h.quotedString?_agrees.mapRead fun _ => ()

theorem defaultEnd_agrees (h : Stands text cursor bytes) :
    Agrees (Reads text) (some ((), cursor.defaultEnd))
      (bytes.repeated ByteCursor.defaultPiece? (fun _ _ => ()) ()) := by
  refine repeated_agrees (fun cursor => ((), cursor.defaultEnd))
    (fun _ _ => defaultPiece?_agrees) ?_ ?_ ?_ h
  · intro cursor value after hpiece
    obtain ⟨stop, hstop, heq⟩ := Option.map_eq_some_iff.1 hpiece
    obtain ⟨-, rfl⟩ := Prod.mk.inj heq
    exact Cursor.defaultPiece?_passes hstop
  · intro cursor hpiece
    rw [Cursor.defaultEnd_of_none (Option.map_eq_none_iff.1 hpiece)]
  · intro cursor value after hpiece
    obtain ⟨stop, hstop, heq⟩ := Option.map_eq_some_iff.1 hpiece
    obtain ⟨-, rfl⟩ := Prod.mk.inj heq
    rw [Cursor.defaultEnd_of_some hstop]

theorem argumentDefault?_agrees (h : Stands text cursor bytes) :
    Agrees (Reads text) cursor.argumentDefault? bytes.argumentDefault? := by
  apply (h.char?_agrees '=').bind
  intro equals equals' hequals
  apply hequals.skipSpace_agrees.bindValue
  intro start' hstart
  apply hstart.defaultEnd_agrees.bindReadValue
  intro stop' hstop
  simp only [hstart.since_eq hstop (Cursor.defaultEnd_reaches _), pure_bind]
  exact Agrees.read hstop

theorem macroArgument?_agrees (h : Stands text cursor bytes) :
    Agrees (Reads text) cursor.macroArgument? bytes.macroArgument? := by
  apply h.dynamicName?_agrees.bindRead
  intro name stop stop' hstop
  apply hstop.skipSpace_agrees.bindValue
  intro start hstart
  apply (hstart.optional_agrees hstart.argumentDefault?_agrees).bindReadValue
  intro default hdefault
  apply hdefault.skipSpace_agrees.bindValue
  intro blank hblank
  apply (hblank.optional_agrees hblank.comment?_agrees).bindReadValue
  intro last hlast
  exact Agrees.read hlast

theorem argumentList?_agrees (h : Stands text cursor bytes) :
    Agrees (Reads text) cursor.argumentList? bytes.argumentList? :=
  bracketed_agrees (fun _ _ h => h.macroArgument?_agrees) (fun _ _ h => h.comma?_agrees)
    (fun _ _ _ => Cursor.macroArgument?_passes) (fun _ _ => comma?_passes) h

theorem optionalArguments_agrees (h : Stands text cursor bytes) :
    Agrees (Reads text) (some (optional cursor cursor.skipSpace.argumentList?))
      (bytes.optional (do
        let start ← bytes.skipSpace
        start.argumentList?)) :=
  h.optional_agrees (h.skipSpace_agrees.bindValue fun _ hstart => hstart.argumentList?_agrees)

end Stands

/-! ## Macro marks -/

namespace ByteCursor

open Checked

def macroOptions? (cursor : ByteCursor) : Checked (List DatasetOption × ByteCursor) :=
  cursor.slashed macroOption?

def macroStart? (cursor : ByteCursor) : Checked (MacroStart × ByteCursor) := do
  let keyword ← cursor.keyword? "%macro"
  let start ← keyword.space?
  let (name, stop) ← start.dynamicName?
  let (arguments, stop) ← stop.optional (do
    let start ← stop.skipSpace
    start.argumentList?)
  let (options, stop) ← stop.optional stop.macroOptions?
  let stop ← stop.semicolon?
  return (⟨name, arguments, options⟩, stop)

def macroEnd? (cursor : ByteCursor) : Checked ByteCursor := do
  let (_, next) ← cursor.matching? Pattern.macroEnd
  return next

def macroCall? (cursor : ByteCursor) : Checked (MacroCall × ByteCursor) := do
  let start ← cursor.char? '%'
  let (name, stop) ← start.dynamicName?
  if name.isReserved then failure
  else
    let (arguments, stop) ← stop.optional (do
      let start ← stop.skipSpace
      start.argumentList?)
    let stop ← stop.semicolon?
    return (⟨name, arguments⟩, stop)

end ByteCursor

namespace Stands

variable {text : String} {cursor : Cursor} {bytes : ByteCursor}

theorem macroOptions?_agrees (h : Stands text cursor bytes) :
    Agrees (Reads text) cursor.macroOptions? bytes.macroOptions? :=
  slashed_agrees (fun _ _ h => h.macroOption?_agrees) (fun _ _ _ => Cursor.macroOption?_passes) h

theorem macroStart?_agrees (h : Stands text cursor bytes) :
    Agrees (Reads text) cursor.macroStart? bytes.macroStart? := by
  apply (h.keyword?_agrees (by decide)).bind
  intro keyword keyword' hkeyword
  apply hkeyword.space?_agrees.bind
  intro start start' hstart
  apply hstart.dynamicName?_agrees.bindRead
  intro name stop stop' hstop
  apply hstop.optionalArguments_agrees.bindReadValue
  intro arguments harguments
  apply (harguments.optional_agrees harguments.macroOptions?_agrees).bindReadValue
  intro options hoptions
  apply hoptions.semicolon?_agrees.bind
  intro last last' hlast
  exact Agrees.read hlast

theorem macroEnd?_agrees (h : Stands text cursor bytes) :
    Agrees (Stands text) cursor.macroEnd? bytes.macroEnd? :=
  h.matchingStop_agrees Pattern.macroEnd Pattern.macroEnd_ignoresBefore
    fun _ _ hstop => (Cursor.macroEnd?_passes hstop).reaches

theorem macroCall?_agrees (h : Stands text cursor bytes) :
    Agrees (Reads text) cursor.macroCall? bytes.macroCall? := by
  apply (h.char?_agrees '%').bind
  intro start start' hstart
  apply hstart.dynamicName?_agrees.bindRead
  intro name stop stop' hstop
  apply Agrees.ite
  · intro hreserved
    exact rfl
  · intro hreserved
    apply hstop.optionalArguments_agrees.bindReadValue
    intro arguments harguments
    apply harguments.semicolon?_agrees.bind
    intro last last' hlast
    exact Agrees.read hlast

end Stands

end SasOutline
