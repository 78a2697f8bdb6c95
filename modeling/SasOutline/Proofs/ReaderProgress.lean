import SasOutline.Grammar

/-!
# Every reader moves forward

The readers of statements, steps and macro markers only ever move a cursor
towards the end of its text, and each of them reads at least one character where
it succeeds.  The lemmas follow the readers in the order in which they build on
each other.
-/

namespace SasOutline

namespace Pattern

theorem wholeWord_reaches {word : String} {cursor stop : Cursor}
    (h : wholeWord word cursor = some stop) : cursor.Reaches stop :=
  opening_reaches (Option.filter_eq_some_iff.1 h).1

theorem either_advances {first second : Pattern} (hfirst : first.Advances)
    (hsecond : second.Advances) : (either first second).Advances := by
  intro cursor stop h
  rcases orElse_some h with h | ⟨-, h⟩
  · exact hfirst cursor stop h
  · exact hsecond cursor stop h

theorem stepEnd_advances : stepEnd.Advances :=
  either_advances (terminated_advances "run") (terminated_advances "quit")

theorem Advances.find? {pattern : Pattern} (advances : pattern.Advances)
    {cursor : Cursor} {found : Found} (h : cursor.find? pattern = some found) :
    cursor.Passes found.stop := by
  have ⟨reaches, hmatch⟩ := Cursor.find?_some h
  exact reaches.trans_passes (advances _ _ hmatch)

end Pattern

namespace Cursor

/-! ## Comments and statements outside of steps -/

theorem keyword?_reaches {cursor later : Cursor} {word : String}
    (h : cursor.keyword? word = some later) : cursor.Reaches later :=
  letters?_reaches h

theorem starComment?_passes {cursor later : Cursor} {comment : Comment}
    (h : cursor.starComment? = some (comment, later)) : cursor.Passes later := by
  obtain ⟨opened, hopened, h⟩ := Option.bind_eq_some_iff.1 h
  obtain ⟨closing, hclosing, h⟩ := Option.bind_eq_some_iff.1 h
  obtain ⟨stop, hstop, h⟩ := Option.bind_eq_some_iff.1 h
  obtain ⟨-, rfl⟩ := Prod.mk.inj (Option.some.inj h)
  exact ((char?_passes hopened).trans (run?_passes hclosing)).trans (char?_passes hstop)

theorem blockCloser_reaches {cursor stop : Cursor}
    (h : Pattern.blockCloser cursor = some stop) : cursor.Reaches stop := by
  obtain ⟨middle, hstar, hslash⟩ := Option.bind_eq_some_iff.1 h
  exact ((char?_passes hstar).trans (char?_passes hslash)).reaches

theorem blockComment?_passes {cursor later : Cursor} {comment : Comment}
    (h : cursor.blockComment? = some (comment, later)) : cursor.Passes later := by
  obtain ⟨slash, hslash, h⟩ := Option.bind_eq_some_iff.1 h
  obtain ⟨opened, hopened, h⟩ := Option.bind_eq_some_iff.1 h
  obtain ⟨⟨_, body⟩, hbody, h⟩ := Option.bind_eq_some_iff.1 h
  obtain ⟨closer, hcloser, h⟩ := Option.bind_eq_some_iff.1 h
  obtain ⟨-, rfl⟩ := Prod.mk.inj (Option.some.inj h)
  have toBody : cursor.Passes body :=
    ((char?_passes hslash).trans (char?_passes hopened)).trans (bump?_passes hbody)
  have ⟨toStart, hmatch⟩ := find?_some hcloser
  exact toBody.trans_reaches (toStart.trans (blockCloser_reaches hmatch))

theorem comment?_passes {cursor later : Cursor} {comment : Comment}
    (h : cursor.comment? = some (comment, later)) : cursor.Passes later := by
  rcases orElse_some h with hstar | ⟨-, hblock⟩
  · exact starComment?_passes hstar
  · exact blockComment?_passes hblock

theorem newline?_passes {cursor later : Cursor} (h : cursor.newline? = some later) :
    cursor.Passes later := by
  rcases orElse_some h with hfeed | ⟨-, hreturn⟩
  · exact char?_passes hfeed
  · obtain ⟨middle, hmiddle, hfeed⟩ := Option.bind_eq_some_iff.1 hreturn
    exact (char?_passes hmiddle).trans (char?_passes hfeed)

theorem semicolon?_passes {cursor later : Cursor} (h : cursor.semicolon? = some later) :
    cursor.Passes later :=
  cursor.skipSpace_reaches.trans_passes (char?_passes h)

theorem spacedName_passes {cursor keyword start stop : Cursor} {name : DynamicName}
    (hkeyword : cursor.Reaches keyword) (hstart : keyword.space? = some start)
    (hname : start.dynamicName? = some (name, stop)) : cursor.Passes stop := by
  have toStart : cursor.Passes start := hkeyword.trans_passes (space?_passes hstart)
  exact toStart.trans (dynamicName?_passes hname)

theorem letValue_reaches (cursor : Cursor) : cursor.Reaches cursor.letValue.2 := by
  unfold letValue
  split
  · next stop hrun => exact (run?_passes hrun).reaches
  · exact Reaches.refl cursor

theorem macroVariableDefinition?_passes {cursor later : Cursor}
    {definition : MacroVariableDefinition}
    (h : cursor.macroVariableDefinition? = some (definition, later)) :
    cursor.Passes later := by
  obtain ⟨keyword, hkeyword, h⟩ := Option.bind_eq_some_iff.1 h
  obtain ⟨start, hstart, h⟩ := Option.bind_eq_some_iff.1 h
  obtain ⟨⟨_, nameStop⟩, hname, h⟩ := Option.bind_eq_some_iff.1 h
  obtain ⟨equals, hequals, h⟩ := Option.bind_eq_some_iff.1 h
  obtain ⟨stop, hstop, h⟩ := Option.bind_eq_some_iff.1 h
  obtain ⟨-, rfl⟩ := Prod.mk.inj (Option.some.inj h)
  have toName : cursor.Passes nameStop :=
    spacedName_passes (keyword?_reaches hkeyword) hstart hname
  have toEquals : nameStop.Passes equals :=
    nameStop.skipSpace_reaches.trans_passes (char?_passes hequals)
  exact (toName.trans toEquals).trans
    (equals.letValue_reaches.trans_passes (char?_passes hstop))

theorem inclusion?_passes {cursor later : Cursor} {statement : Inclusion}
    (h : cursor.inclusion? = some (statement, later)) : cursor.Passes later := by
  obtain ⟨keyword, hkeyword, h⟩ := Option.bind_eq_some_iff.1 h
  obtain ⟨start, hstart, h⟩ := Option.bind_eq_some_iff.1 h
  obtain ⟨⟨_, pathStop⟩, hpath, h⟩ := Option.bind_eq_some_iff.1 h
  obtain ⟨stop, hstop, h⟩ := Option.bind_eq_some_iff.1 h
  obtain ⟨-, rfl⟩ := Prod.mk.inj (Option.some.inj h)
  exact (((keyword?_reaches hkeyword).trans_passes (space?_passes hstart)).trans
    (quotedPath?_passes hpath)).trans (semicolon?_passes hstop)

theorem pathTarget?_passes {cursor later : Cursor} {target : LibraryTarget}
    (h : cursor.pathTarget? = some (target, later)) : cursor.Passes later := by
  obtain ⟨⟨_, pathStop⟩, hpath, h⟩ := Option.bind_eq_some_iff.1 h
  obtain ⟨stop, hstop, h⟩ := Option.bind_eq_some_iff.1 h
  obtain ⟨-, rfl⟩ := Prod.mk.inj (Option.some.inj h)
  exact (quotedPath?_passes hpath).trans (semicolon?_passes hstop)

theorem pointerTarget?_passes {cursor later : Cursor} {target : LibraryTarget}
    (h : cursor.pointerTarget? = some (target, later)) : cursor.Passes later := by
  obtain ⟨opened, hopened, h⟩ := Option.bind_eq_some_iff.1 h
  obtain ⟨⟨_, nameStop⟩, hname, h⟩ := Option.bind_eq_some_iff.1 h
  obtain ⟨closed, hclosed, h⟩ := Option.bind_eq_some_iff.1 h
  obtain ⟨stop, hstop, h⟩ := Option.bind_eq_some_iff.1 h
  obtain ⟨-, rfl⟩ := Prod.mk.inj (Option.some.inj h)
  have toName : cursor.Passes nameStop :=
    (char?_passes hopened).trans
      (opened.skipSpace_reaches.trans_passes (dynamicName?_passes hname))
  have toClosed : nameStop.Passes closed :=
    nameStop.skipSpace_reaches.trans_passes (char?_passes hclosed)
  exact (toName.trans toClosed).trans (semicolon?_passes hstop)

theorem libraryBinding?_passes {cursor later : Cursor} {binding : LibraryBinding}
    (h : cursor.libraryBinding? = some (binding, later)) : cursor.Passes later := by
  obtain ⟨keyword, hkeyword, h⟩ := Option.bind_eq_some_iff.1 h
  obtain ⟨start, hstart, h⟩ := Option.bind_eq_some_iff.1 h
  obtain ⟨⟨_, nameStop⟩, hname, h⟩ := Option.bind_eq_some_iff.1 h
  obtain ⟨targetStart, htargetStart, h⟩ := Option.bind_eq_some_iff.1 h
  obtain ⟨⟨_, stop⟩, htarget, h⟩ := Option.bind_eq_some_iff.1 h
  obtain ⟨-, rfl⟩ := Prod.mk.inj (Option.some.inj h)
  have toName : cursor.Passes nameStop :=
    spacedName_passes (word?_reaches hkeyword) hstart hname
  have toTarget : cursor.Passes targetStart := toName.trans (space?_passes htargetStart)
  rcases orElse_some htarget with hpath | ⟨-, hpointer⟩
  · exact toTarget.trans (pathTarget?_passes hpath)
  · exact toTarget.trans (pointerTarget?_passes hpointer)

/-! ## Macro markers and calls -/

theorem defaultEnd_reaches (cursor : Cursor) : cursor.Reaches cursor.defaultEnd := by
  fun_induction defaultEnd cursor with
  | case1 cursor hpiece => exact Reaches.refl cursor
  | case2 cursor after hpiece ih => exact (defaultPiece?_passes hpiece).reaches.trans ih

theorem argumentDefault?_passes {cursor later : Cursor} {default : String}
    (h : cursor.argumentDefault? = some (default, later)) : cursor.Passes later := by
  obtain ⟨equals, hequals, h⟩ := Option.bind_eq_some_iff.1 h
  obtain ⟨-, rfl⟩ := Prod.mk.inj (Option.some.inj h)
  exact (char?_passes hequals).trans_reaches
    (equals.skipSpace_reaches.trans equals.skipSpace.defaultEnd_reaches)

theorem optionalDefault_reaches (cursor : Cursor) :
    cursor.Reaches (optional cursor cursor.argumentDefault?).2 :=
  optional_reaches fun _ _ hdefault => (argumentDefault?_passes hdefault).reaches

theorem optionalComment_reaches (cursor : Cursor) :
    cursor.Reaches (optional cursor cursor.comment?).2 :=
  optional_reaches fun _ _ hcomment => (comment?_passes hcomment).reaches

theorem macroArgument?_passes {cursor later : Cursor} {argument : MacroArgument}
    (h : cursor.macroArgument? = some (argument, later)) : cursor.Passes later := by
  obtain ⟨⟨_, nameStop⟩, hname, h⟩ := Option.bind_eq_some_iff.1 h
  obtain ⟨-, rfl⟩ := Prod.mk.inj (Option.some.inj h)
  have toDefault := nameStop.skipSpace_reaches.trans nameStop.skipSpace.optionalDefault_reaches
  exact (dynamicName?_passes hname).trans_reaches
    (toDefault.trans ((skipSpace_reaches _).trans (optionalComment_reaches _)))

theorem argumentList?_passes {cursor later : Cursor} {arguments : List MacroArgument}
    (h : cursor.argumentList? = some (arguments, later)) : cursor.Passes later := by
  obtain ⟨opened, hopened, h⟩ := Option.bind_eq_some_iff.1 h
  have toClosing := separated_reaches (fun _ _ _ h => (macroArgument?_passes h).reaches)
    (fun _ _ h => (comma?_passes h).reaches) opened.skipSpace
  generalize separated macroArgument? comma? opened.skipSpace = pair at h toClosing
  obtain ⟨stop, hstop, h⟩ := Option.bind_eq_some_iff.1 h
  obtain ⟨-, rfl⟩ := Prod.mk.inj (Option.some.inj h)
  have toList : cursor.Passes pair.2 :=
    (char?_passes hopened).trans_reaches (opened.skipSpace_reaches.trans toClosing)
  exact toList.trans (pair.2.skipSpace_reaches.trans_passes (char?_passes hstop))

theorem slashedList_passes {α : Type} {item? : Reader α} {cursor slash : Cursor}
    (hitem : ∀ start value stop, item? start = some (value, stop) → start.Passes stop)
    (hslash : cursor.skipSpace.char? '/' = some slash) :
    cursor.Passes (separated item? space? slash.skipSpace).2 := by
  have toSlash := cursor.skipSpace_reaches.trans_passes (char?_passes hslash)
  have toStop := separated_reaches (fun _ _ _ h => (hitem _ _ _ h).reaches)
    (fun _ _ h => (space?_passes h).reaches) slash.skipSpace
  exact toSlash.trans_reaches (slash.skipSpace_reaches.trans toStop)

theorem macroOption?_passes {cursor later : Cursor} {option : DatasetOption}
    (h : cursor.macroOption? = some (option, later)) : cursor.Passes later := by
  rcases orElse_some h with hparen | ⟨-, h⟩
  · exact parenthesisedOption?_passes hparen
  rcases orElse_some h with hquoted | ⟨-, hflag⟩
  · exact quotedOption?_passes hquoted
  · exact flagOption?_passes hflag

theorem macroOptions?_passes {cursor later : Cursor} {options : List DatasetOption}
    (h : cursor.macroOptions? = some (options, later)) : cursor.Passes later := by
  obtain ⟨slash, hslash, h⟩ := Option.bind_eq_some_iff.1 h
  have toStop := slashedList_passes (fun _ _ _ h => macroOption?_passes h) hslash
  rw [Option.some.inj h] at toStop
  exact toStop

theorem optionalMacroOptions_reaches (cursor : Cursor) :
    cursor.Reaches (optional cursor cursor.macroOptions?).2 :=
  optional_reaches fun _ _ hoptions => (macroOptions?_passes hoptions).reaches

theorem optionalArguments_reaches (cursor : Cursor) :
    cursor.Reaches (optional cursor cursor.skipSpace.argumentList?).2 :=
  optional_reaches fun _ _ harguments =>
    cursor.skipSpace_reaches.trans (argumentList?_passes harguments).reaches

theorem macroStart?_passes {cursor later : Cursor} {marker : MacroStart}
    (h : cursor.macroStart? = some (marker, later)) : cursor.Passes later := by
  obtain ⟨keyword, hkeyword, h⟩ := Option.bind_eq_some_iff.1 h
  obtain ⟨start, hstart, h⟩ := Option.bind_eq_some_iff.1 h
  obtain ⟨⟨_, nameStop⟩, hname, h⟩ := Option.bind_eq_some_iff.1 h
  obtain ⟨stop, hstop, h⟩ := Option.bind_eq_some_iff.1 h
  obtain ⟨-, rfl⟩ := Prod.mk.inj (Option.some.inj h)
  have toName : cursor.Passes nameStop :=
    spacedName_passes (keyword?_reaches hkeyword) hstart hname
  exact (toName.trans_reaches (nameStop.optionalArguments_reaches.trans
    (optionalMacroOptions_reaches _))).trans (semicolon?_passes hstop)

theorem macroEnd?_passes {cursor later : Cursor} (h : cursor.macroEnd? = some later) :
    cursor.Passes later := by
  obtain ⟨keyword, hkeyword, h⟩ := Option.bind_eq_some_iff.1 h
  exact (letters?_reaches hkeyword).trans_passes
    ((keyword.skipWhile_reaches _).trans_passes (char?_passes h))

theorem macroCall?_passes {cursor later : Cursor} {call : MacroCall}
    (h : cursor.macroCall? = some (call, later)) : cursor.Passes later := by
  obtain ⟨start, hstart, h⟩ := Option.bind_eq_some_iff.1 h
  obtain ⟨⟨name, nameStop⟩, hname, h⟩ := Option.bind_eq_some_iff.1 h
  simp only at h
  split at h
  · contradiction
  · obtain ⟨stop, hstop, h⟩ := Option.bind_eq_some_iff.1 h
    obtain ⟨-, rfl⟩ := Prod.mk.inj (Option.some.inj h)
    have toName : cursor.Passes nameStop :=
      (char?_passes hstart).trans (dynamicName?_passes hname)
    exact (toName.trans_reaches nameStop.optionalArguments_reaches).trans
      (semicolon?_passes hstop)

/-! ## Steps -/

theorem stepOptions?_passes {cursor later : Cursor} {options : List DatasetOption}
    (h : cursor.stepOptions? = some (options, later)) : cursor.Passes later := by
  obtain ⟨slash, hslash, h⟩ := Option.bind_eq_some_iff.1 h
  have toStop := slashedList_passes (fun _ _ _ h => datasetOption?_passes h) hslash
  rw [Option.some.inj h] at toStop
  exact toStop

theorem optionalStepOptions_reaches (cursor : Cursor) :
    cursor.Reaches (optional cursor cursor.stepOptions?).2 :=
  optional_reaches fun _ _ hoptions => (stepOptions?_passes hoptions).reaches

theorem stepHeader?_reaches {cursor later : Cursor} {header : String}
    (h : cursor.stepHeader? = some (header, later)) : cursor.Reaches later := by
  obtain ⟨found, hfound, h⟩ := Option.bind_eq_some_iff.1 h
  split at h
  · contradiction
  · obtain ⟨-, rfl⟩ := Prod.mk.inj (Option.some.inj h)
    exact (find?_some hfound).1

theorem optionalHeader_reaches (cursor : Cursor) :
    cursor.Reaches (optional cursor cursor.stepHeader?).2 :=
  optional_reaches fun _ _ hheader => stepHeader?_reaches hheader

theorem setStatement?_passes {cursor later : Cursor} {inputs : List DatasetReference}
    (h : cursor.setStatement? = some (inputs, later)) : cursor.Passes later := by
  obtain ⟨keyword, hkeyword, h⟩ := Option.bind_eq_some_iff.1 h
  obtain ⟨stop, hstop, h⟩ := Option.bind_eq_some_iff.1 h
  obtain ⟨-, rfl⟩ := Prod.mk.inj (Option.some.inj h)
  have toKeyword : cursor.Reaches keyword := by
    apply cursor.skipSpace_reaches.trans
    rcases orElse_some hkeyword with hset | ⟨-, hmerge⟩
    · exact word?_reaches hset
    · exact word?_reaches hmerge
  have toList : keyword.Reaches keyword.skipSpace.datasetList.2 :=
    keyword.skipSpace_reaches.trans keyword.skipSpace.datasetList_reaches
  exact (toKeyword.trans toList).trans_passes (semicolon?_passes hstop)

theorem optionalSetStatement_reaches (cursor : Cursor) :
    cursor.Reaches (optional cursor cursor.setStatement?).2 :=
  optional_reaches fun _ _ hstatement => (setStatement?_passes hstatement).reaches

theorem dataStatement?_passes {cursor later : Cursor}
    {statement : List DatasetReference × Option (List DatasetOption)}
    (h : cursor.dataStatement? = some (statement, later)) : cursor.Passes later := by
  obtain ⟨keyword, hkeyword, h⟩ := Option.bind_eq_some_iff.1 h
  obtain ⟨start, hstart, h⟩ := Option.bind_eq_some_iff.1 h
  obtain ⟨stop, hstop, h⟩ := Option.bind_eq_some_iff.1 h
  obtain ⟨-, rfl⟩ := Prod.mk.inj (Option.some.inj h)
  have toStart : cursor.Passes start :=
    (word?_reaches hkeyword).trans_passes (space?_passes hstart)
  exact (toStart.trans_reaches (start.datasetList_reaches.trans
    (optionalStepOptions_reaches _))).trans (semicolon?_passes hstop)

theorem dataStep?_passes {cursor later : Cursor} {step : DataStep}
    (h : cursor.dataStep? = some (step, later)) : cursor.Passes later := by
  obtain ⟨⟨_, start⟩, hstart, h⟩ := Option.bind_eq_some_iff.1 h
  obtain ⟨run, hrun, h⟩ := Option.bind_eq_some_iff.1 h
  obtain ⟨stop, hstop, h⟩ := Option.bind_eq_some_iff.1 h
  obtain ⟨-, rfl⟩ := Prod.mk.inj (Option.some.inj h)
  have toBody := start.optionalHeader_reaches.trans (optionalSetStatement_reaches _)
  have toRun := toBody.trans (find?_some hrun).1
  have throughRun : run.start.Reaches run.stop :=
    Pattern.wholeWord_reaches (find?_some hrun).2
  exact ((dataStatement?_passes hstart).trans_reaches (toRun.trans throughRun)).trans
    (semicolon?_passes hstop)

theorem outOptions_reaches (cursor limit : Cursor) :
    cursor.Reaches (cursor.outOptions limit).2 := by
  fun_induction outOptions cursor limit with
  | case1 cursor hoption => exact Reaches.refl cursor
  | case2 cursor output after hoption more stop hmore ih =>
    rw [hmore] at ih
    exact (outOption?_passes hoption).reaches.trans ih

theorem procedure?_passes {cursor later : Cursor} {procedure : Procedure}
    (h : cursor.procedure? = some (procedure, later)) : cursor.Passes later := by
  obtain ⟨keyword, hkeyword, h⟩ := Option.bind_eq_some_iff.1 h
  obtain ⟨start, hstart, h⟩ := Option.bind_eq_some_iff.1 h
  obtain ⟨⟨kind, kindStop⟩, hkind, h⟩ := Option.bind_eq_some_iff.1 h
  simp only at h
  split at h
  · contradiction
  · obtain ⟨body, hbody, h⟩ := Option.bind_eq_some_iff.1 h
    obtain ⟨limit, -, h⟩ := Option.bind_eq_some_iff.1 h
    obtain ⟨data, hdata, h⟩ := Option.bind_eq_some_iff.1 h
    obtain ⟨⟨input, inputStop⟩, hinput, h⟩ := Option.bind_eq_some_iff.1 h
    obtain ⟨terminator, hterminator, h⟩ := Option.bind_eq_some_iff.1 h
    obtain ⟨-, rfl⟩ := Prod.mk.inj (Option.some.inj h)
    have toBody : cursor.Passes body :=
      (((word?_reaches hkeyword).trans_passes (space?_passes hstart)).trans
        (plainName?_passes hkind)).trans (space?_passes hbody)
    have toInput : body.Passes inputStop :=
      ((Pattern.assigned_advances "data").findBefore? hdata).trans
        (datasetReference?_passes hinput)
    have toOutputs := (toBody.trans toInput).trans_reaches
      (inputStop.outOptions_reaches limit.start)
    exact toOutputs.trans (Pattern.stepEnd_advances.find? hterminator)

/-! ## Statements of the `sql` procedure -/

theorem fromClauses_reaches (cursor : Cursor) : cursor.Reaches cursor.fromClauses.2 := by
  fun_induction fromClauses cursor with
  | case1 cursor hclause => exact Reaches.refl cursor
  | case2 cursor sources after hclause more stop hmore ih =>
    rw [hmore] at ih
    exact (fromClause?_passes hclause).reaches.trans ih

/-- The last thing that is read of the statement is the text through a semicolon. -/
theorem createTable?_through {cursor later : Cursor} {procedure : Procedure}
    (h : cursor.createTable? = some (procedure, later)) :
    ∃ middle text, cursor.Passes middle ∧ middle.through? ';' = some (text, later) := by
  obtain ⟨create, hcreate, h⟩ := Option.bind_eq_some_iff.1 h
  obtain ⟨start, hstart, h⟩ := Option.bind_eq_some_iff.1 h
  obtain ⟨table, htable, h⟩ := Option.bind_eq_some_iff.1 h
  obtain ⟨query, hquery, h⟩ := Option.bind_eq_some_iff.1 h
  obtain ⟨⟨text, stop⟩, hstop, h⟩ := Option.bind_eq_some_iff.1 h
  obtain ⟨-, rfl⟩ := Prod.mk.inj (Option.some.inj h)
  have toTable : cursor.Passes table :=
    ((word?_reaches hcreate).trans_passes (space?_passes hstart)).trans_reaches
      (word?_reaches htable)
  have toOutputs : table.Reaches table.skipSpace.datasetEnumeration.2 :=
    table.skipSpace_reaches.trans table.skipSpace.datasetEnumeration_reaches
  have toQuery := toOutputs.trans ((skipSpace_reaches _).trans (word?_reaches hquery))
  exact ⟨_, text, (toTable.trans_reaches toQuery).trans_reaches query.fromClauses_reaches, hstop⟩

theorem createTable?_passes {cursor later : Cursor} {procedure : Procedure}
    (h : cursor.createTable? = some (procedure, later)) : cursor.Passes later := by
  obtain ⟨middle, text, toMiddle, hstop⟩ := createTable?_through h
  exact toMiddle.trans (through?_passes hstop)

theorem sqlStatement?_passes {cursor later : Cursor} {statement : SqlStatement}
    (h : cursor.sqlStatement? = some (statement, later)) : cursor.Passes later := by
  obtain ⟨⟨text, stop⟩, hstop, h⟩ := Option.bind_eq_some_iff.1 h
  simp only at h
  split at h
  · contradiction
  · obtain ⟨-, rfl⟩ := Prod.mk.inj (Option.some.inj h)
    exact through?_passes hstop

end Cursor

end SasOutline
