import SasOutline.DataStep
import SasOutline.Procedure
import SasOutline.Proofs.CheckedStatements

/-!
# Steps at byte offsets

A step looks ahead for its keywords.  A search yields offsets of the whole text,
and the step jumps to them and cuts the text in front of them out.  The offset
that ends the options of a procedure is found before the options are read, so a
dataset may be read past it; the limit is only compared with and never jumped to.
-/

namespace SasOutline

namespace ByteCursor

open Checked

def stepOptions? (cursor : ByteCursor) : Checked (List DatasetOption × ByteCursor) :=
  cursor.slashed datasetOption?

def stepHeader? (cursor : ByteCursor) : Checked (String × ByteCursor) := do
  let found ← cursor.find? Pattern.setOrMerge
  let run ← attempt (cursor.findBefore? Pattern.run found.start)
  if run.isSome then failure
  else
    let header ← slice cursor.text cursor.offset found.start
    let stop ← cursor.jump found.start
    return (header, stop)

def setStatement? (cursor : ByteCursor) : Checked (List DatasetReference × ByteCursor) := do
  let start ← cursor.skipSpace
  let keyword ← start.word? "set" <|> start.word? "merge"
  let start ← keyword.skipSpace
  let (inputs, stop) ← start.datasetList
  let stop ← stop.semicolon?
  return (inputs, stop)

def dataStatement? (cursor : ByteCursor) :
    Checked ((List DatasetReference × Option (List DatasetOption)) × ByteCursor) := do
  let keyword ← cursor.word? "data"
  let start ← keyword.space?
  let (outputs, stop) ← start.datasetList
  let (options, stop) ← stop.optional stop.stepOptions?
  let stop ← stop.semicolon?
  return ((outputs, options), stop)

def dataStep? (cursor : ByteCursor) : Checked (DataStep × ByteCursor) := do
  let ((outputs, options), start) ← cursor.dataStatement?
  let (header, stop) ← start.optional start.stepHeader?
  let (inputs, bodyStart) ← stop.optional stop.setStatement?
  let run ← bodyStart.find? Pattern.run
  let body ← slice bodyStart.text bodyStart.offset run.start
  let stop ← bodyStart.jump run.stop
  let stop ← stop.semicolon?
  return (⟨outputs, inputs.getD [], header.getD "", body, options⟩, stop)

def outOption? (limit : Nat) (cursor : ByteCursor) :
    Checked (DatasetReference × ByteCursor) := do
  let found ← cursor.findBefore? Pattern.outOption limit
  let start ← cursor.jump found.stop
  start.datasetReference?

def procedure? (cursor : ByteCursor) : Checked (Procedure × ByteCursor) := do
  let keyword ← cursor.word? "proc"
  let start ← keyword.space?
  let (kind, stop) ← start.plainName?
  if equalIgnoringCase kind "sql" then failure
  else
    let start ← stop.space?
    let limit ← start.find? Pattern.stepEnd
    let data ← start.findBefore? Pattern.dataOption limit.start
    let dataset ← start.jump data.stop
    let (input, stop) ← dataset.datasetReference?
    let (outputs, stop) ← stop.repeated (outOption? limit.start) List.cons []
    let terminator ← stop.find? Pattern.stepEnd
    let stop ← stop.jump terminator.stop
    return (⟨lowerCase kind, [input], outputs⟩, stop)

end ByteCursor

/-! ## Matches of a search -/

namespace Pattern

theorem wholeWord_reachesStop (word : String) (cursor stop : Cursor)
    (h : wholeWord word cursor = some stop) : cursor.Reaches stop :=
  wholeWord_reaches h

theorem setOrMerge_reaches (cursor stop : Cursor) (h : setOrMerge cursor = some stop) :
    cursor.Reaches stop := by
  rcases orElse_some h with hset | ⟨-, hmerge⟩
  · exact wholeWord_reaches hset
  · exact wholeWord_reaches hmerge

theorem Advances.reaches {pattern : Pattern} (advances : pattern.Advances)
    (cursor stop : Cursor) (h : pattern cursor = some stop) : cursor.Reaches stop :=
  (advances cursor stop h).reaches

end Pattern

namespace Stands

variable {text : String} {cursor limit : Cursor} {bytes : ByteCursor} {found : Found}
  {result : ByteMatch}

theorem sliceBefore_eq (h : Stands text cursor bytes) (hfound : MatchAt cursor found result) :
    Checked.slice bytes.text bytes.offset result.start =
      pure (cursor.stringUntil found.start) := by
  rw [h.bytes_eq, hfound.result_eq]
  exact slice_of_reaches h.inText hfound.toStart

theorem jumpToStart_agrees (h : Stands text cursor bytes) (hfound : MatchAt cursor found result) :
    Agrees (Stands text) (some found.start) (bytes.jump result.start) := by
  rw [hfound.result_eq]
  exact h.jump_agrees hfound.toStart

theorem jumpBehind_agrees (h : Stands text cursor bytes) (hfound : MatchAt cursor found result) :
    Agrees (Stands text) (some found.stop) (bytes.jump result.stop) := by
  rw [hfound.result_eq]
  exact h.jump_agrees hfound.reaches

/-! ## Data steps -/

theorem stepOptions?_agrees (h : Stands text cursor bytes) :
    Agrees (Reads text) cursor.stepOptions? bytes.stepOptions? :=
  slashed_agrees (fun _ _ h => h.datasetOption?_agrees)
    (fun _ _ _ => Cursor.datasetOption?_passes) h

theorem stepHeader?_agrees (h : Stands text cursor bytes) :
    Agrees (Reads text) cursor.stepHeader? bytes.stepHeader? := by
  apply (h.find?_agrees Pattern.setOrMerge_reaches).bind
  intro found result hfound
  have hstart : found.start.InText text := h.later_inText hfound.toStart
  have hrun := h.findBefore?_agrees (Pattern.wholeWord_reachesStop "run") hstart
  have hresult : result.start = found.start.offset := by rw [hfound.result_eq]
  rw [← hresult] at hrun
  apply hrun.attempt.bindValue
  intro run hsame
  have hearlier : (cursor.findBefore? Pattern.run found.start).isSome = run.isSome :=
    Agrees.isSome_of_rel hsame
  rw [hearlier]
  apply Agrees.ite
  · intro hearlier
    exact rfl
  · intro hearlier
    simp only [h.sliceBefore_eq hfound, pure_bind]
    apply (h.jumpToStart_agrees hfound).bindValue
    intro stop hstop
    exact Agrees.read hstop

theorem setStatement?_agrees (h : Stands text cursor bytes) :
    Agrees (Reads text) cursor.setStatement? bytes.setStatement? := by
  apply h.skipSpace_agrees.bindValue
  intro start hstart
  apply ((hstart.word?_agrees (by decide)).orElse (hstart.word?_agrees (by decide))).bind
  intro keyword keyword' hkeyword
  apply hkeyword.skipSpace_agrees.bindValue
  intro first hfirst
  apply hfirst.datasetList_agrees.bindReadValue
  intro stop hstop
  apply hstop.semicolon?_agrees.bind
  intro last last' hlast
  exact Agrees.read hlast

theorem dataStatement?_agrees (h : Stands text cursor bytes) :
    Agrees (Reads text) cursor.dataStatement? bytes.dataStatement? := by
  apply (h.word?_agrees (by decide)).bind
  intro keyword keyword' hkeyword
  apply hkeyword.space?_agrees.bind
  intro start start' hstart
  apply hstart.datasetList_agrees.bindReadValue
  intro stop hstop
  apply (hstop.optional_agrees hstop.stepOptions?_agrees).bindReadValue
  intro options hoptions
  apply hoptions.semicolon?_agrees.bind
  intro last last' hlast
  exact Agrees.read hlast

theorem dataStep?_agrees (h : Stands text cursor bytes) :
    Agrees (Reads text) cursor.dataStep? bytes.dataStep? := by
  apply h.dataStatement?_agrees.bindRead
  intro (outputs, options) start start' hstart
  apply (hstart.optional_agrees hstart.stepHeader?_agrees).bindReadValue
  intro header hheader
  apply (hheader.optional_agrees hheader.setStatement?_agrees).bindReadValue
  intro bodyStart hbodyStart
  apply (hbodyStart.find?_agrees (Pattern.wholeWord_reachesStop "run")).bind
  intro run run' hrun
  simp only [hbodyStart.sliceBefore_eq hrun, pure_bind]
  apply (hbodyStart.jumpBehind_agrees hrun).bindValue
  intro stop hstop
  apply hstop.semicolon?_agrees.bind
  intro last last' hlast
  exact Agrees.read hlast

/-! ## Procedure steps -/

theorem outOption?_agrees (hlimit : limit.InText text) (h : Stands text cursor bytes) :
    Agrees (Reads text) (cursor.outOption? limit)
      (ByteCursor.outOption? limit.offset bytes) := by
  apply (h.findBefore?_agrees (Pattern.assigned_advances "out").reaches hlimit).bind
  intro found result hfound
  apply (h.jumpBehind_agrees hfound).bindValue
  intro start hstart
  exact hstart.datasetReference?_agrees

theorem outOptions_agrees (hlimit : limit.InText text) (h : Stands text cursor bytes) :
    Agrees (Reads text) (some (cursor.outOptions limit))
      (bytes.repeated (ByteCursor.outOption? limit.offset) List.cons []) :=
  repeated_agrees (fun cursor => cursor.outOptions limit)
    (fun _ _ => outOption?_agrees hlimit) (fun _ _ _ => Cursor.outOption?_passes)
    (fun _ => Cursor.outOptions_of_none) (fun _ _ _ => Cursor.outOptions_of_some) h

theorem procedure?_agrees (h : Stands text cursor bytes) :
    Agrees (Reads text) cursor.procedure? bytes.procedure? := by
  apply (h.word?_agrees (by decide)).bind
  intro keyword keyword' hkeyword
  apply hkeyword.space?_agrees.bind
  intro start start' hstart
  apply hstart.plainName?_agrees.bindRead
  intro kind stop stop' hstop
  apply Agrees.ite
  · intro hsql
    exact rfl
  · intro hsql
    apply hstop.space?_agrees.bind
    intro body body' hbody
    apply (hbody.find?_agrees Pattern.stepEnd_advances.reaches).bind
    intro limit limit' hlimit
    have hend : limit.start.InText text := hbody.later_inText hlimit.toStart
    have hoffset : limit'.start = limit.start.offset := by rw [hlimit.result_eq]
    rw [hoffset]
    apply (hbody.findBefore?_agrees (Pattern.assigned_advances "data").reaches hend).bind
    intro data data' hdata
    apply (hbody.jumpBehind_agrees hdata).bindValue
    intro dataset hdataset
    apply hdataset.datasetReference?_agrees.bindRead
    intro input inputStop inputStop' hinput
    apply (hinput.outOptions_agrees hend).bindReadValue
    intro outputs houtputs
    apply (houtputs.find?_agrees Pattern.stepEnd_advances.reaches).bind
    intro terminator terminator' hterminator
    apply (houtputs.jumpBehind_agrees hterminator).bindValue
    intro last hlast
    exact Agrees.read hlast

end Stands

end SasOutline
