import SasOutline.Grammar
import SasOutline.Proofs.KnownText
import SasOutline.Proofs.ReaderProgress

/-!
# The choice of the rule

The first rule of a grammar that reads anything decides.  Often the first character of
the text is enough to pass over the rules in front of it.
-/

namespace SasOutline

/-- The first rule that reads anything decides. -/
theorem Grammar.firstMatch?_of_nth {grammar : Grammar} {cursor : Cursor}
    {found : ConstructMatch} {name : String} {construct : Construct} (place : Nat)
    (hrule : grammar.rules[place]? = some (name, construct))
    (hearlier : ∀ rule ∈ grammar.rules.take place, rule.2.read? cursor = none)
    (hread : construct.read? cursor = some found)
    (hless : found.rest.remaining < cursor.remaining) :
    grammar.firstMatch? cursor = some found := by
  obtain ⟨hplace, hnth⟩ := List.getElem?_eq_some_iff.1 hrule
  have hsplit : grammar.rules =
      grammar.rules.take place ++ (name, construct) :: grammar.rules.drop (place + 1) := by
    rw [← hnth, List.cons_getElem_drop_succ, List.take_append_drop]
  have hnone : (grammar.rules.take place).findSome? (fun rule =>
      (rule.2.read? cursor).filter fun found => found.rest.remaining < cursor.remaining) =
        none := by
    rw [List.findSome?_eq_none_iff]
    intro rule hrule
    rw [hearlier rule hrule]
    rfl
  unfold firstMatch?
  rw [hsplit, List.findSome?_append, hnone]
  simp [hread, Option.filter, hless]

/-! ## The first character -/

section FirstCharacter

variable {ch : Char} {before rest : List Char}

theorem Cursor.char?_other {mark : Char} (hmark : ch ≠ mark) :
    (⟨before, ch :: rest⟩ : Cursor).char? mark = none := by
  have hhead : (ch :: rest).head? ≠ some mark := by simpa using hmark
  exact Cursor.char?_eq_none hhead before

theorem Cursor.letters?_other (fold : Char → Char) {word : String} {letter : Char}
    (hword : word.toList.head? = some letter) (hletter : fold ch ≠ fold letter) :
    letters? fold ⟨before, ch :: rest⟩ word = none := by
  obtain ⟨letters, hletters⟩ := List.head?_eq_some_iff.mp hword
  have hlength : [ch].length ≤ word.toList.length := by simp [hletters]
  have hread : [ch].map fold ≠ (word.toList.take [ch].length).map fold := by
    simpa [hletters] using hletter
  exact Cursor.letters?_eq_none [ch] hlength hread before rest

theorem Cursor.word?_other {word : String} {letter : Char}
    (hword : word.toList.head? = some letter) (hletter : ch.toLower ≠ letter.toLower) :
    (⟨before, ch :: rest⟩ : Cursor).word? word = none :=
  Cursor.word?_eq_none (Cursor.letters?_other Char.toLower hword hletter)

theorem Construct.newline_other (hfeed : ch ≠ '\n') (hreturn : ch ≠ '\r') :
    newline.read? ⟨before, ch :: rest⟩ = none := by
  have hnofeed : (⟨before, ch :: rest⟩ : Cursor).char? '\n' = none := Cursor.char?_other hfeed
  have hnoreturn : (⟨before, ch :: rest⟩ : Cursor).char? '\r' = none :=
    Cursor.char?_other hreturn
  simp [read?, Cursor.newline?, hnofeed, hnoreturn]

theorem Construct.comment_other (hstar : ch ≠ '*') (hslash : ch ≠ '/') :
    comment.read? ⟨before, ch :: rest⟩ = none := by
  have hnostar : (⟨before, ch :: rest⟩ : Cursor).char? '*' = none := Cursor.char?_other hstar
  have hnoslash : (⟨before, ch :: rest⟩ : Cursor).char? '/' = none := Cursor.char?_other hslash
  simp [read?, Cursor.comment?, Cursor.starComment?, Cursor.blockComment?, hnostar, hnoslash]

theorem Cursor.macroVariableDefinition?_other (hpercent : ch.toLower ≠ Char.toLower '%') :
    (⟨before, ch :: rest⟩ : Cursor).macroVariableDefinition? = none := by
  have hlet : (⟨before, ch :: rest⟩ : Cursor).keyword? "%let" = none :=
    Cursor.letters?_other Char.toLower (rfl : "%let".toList.head? = some '%') hpercent
  simp [Cursor.macroVariableDefinition?, hlet]

/-- The rules in front of the steps read nothing where a letter comes first. -/
theorem Grammar.earlier_steps (hmark : ch ∉ ['\n', '\r', '*', '/'])
    (hlet : (⟨before, ch :: rest⟩ : Cursor).macroVariableDefinition? = none) :
    ∀ rule ∈ full.rules.take 3, rule.2.read? ⟨before, ch :: rest⟩ = none := by
  simp only [List.mem_cons, List.not_mem_nil, or_false, not_or] at hmark
  obtain ⟨hfeed, hreturn, hstar, hslash⟩ := hmark
  simp only [full, withoutMacros, List.cons_append, List.take_succ_cons, List.take_zero,
    List.forall_mem_cons]
  refine ⟨Construct.newline_other hfeed hreturn, ?_, Construct.comment_other hstar hslash,
    List.forall_mem_nil _⟩
  simp [Construct.read?, hlet]

/-- Nothing but a step or a block stands in front of the libraries and starts with a letter. -/
theorem Grammar.earlier_libraries (hmark : ch ∉ ['\n', '\r', '*', '/'])
    (hletter : ch.toLower ∉ ['d', 'p'])
    (hlet : (⟨before, ch :: rest⟩ : Cursor).macroVariableDefinition? = none) :
    ∀ rule ∈ full.rules.take 6, rule.2.read? ⟨before, ch :: rest⟩ = none := by
  simp only [List.mem_cons, List.not_mem_nil, or_false, not_or] at hletter
  obtain ⟨hd, hp⟩ := hletter
  have hdata : (⟨before, ch :: rest⟩ : Cursor).word? "data" = none :=
    Cursor.word?_other (rfl : "data".toList.head? = some 'd') hd
  have hproc : (⟨before, ch :: rest⟩ : Cursor).word? "proc" = none :=
    Cursor.word?_other (rfl : "proc".toList.head? = some 'p') hp
  have hrules : full.rules.take 6 = full.rules.take 3 ++
      [("data step", .dataStep), ("procedure", .procedure), ("sql block", .sqlBlock)] := rfl
  simp only [hrules, List.forall_mem_append, List.forall_mem_cons]
  refine ⟨earlier_steps hmark hlet, ?_, ?_, ?_, List.forall_mem_nil _⟩
  · simp [Construct.read?, Cursor.dataStep?, Cursor.dataStatement?, hdata]
  · simp [Construct.read?, Cursor.procedure?, hproc]
  · simp [Construct.read?, Cursor.sqlBlock?, hproc]

theorem Grammar.earlier_inclusions (hmark : ch ∉ ['\n', '\r', '*', '/'])
    (hletter : ch.toLower ∉ ['d', 'p', 'l'])
    (hlet : (⟨before, ch :: rest⟩ : Cursor).macroVariableDefinition? = none) :
    ∀ rule ∈ full.rules.take 7, rule.2.read? ⟨before, ch :: rest⟩ = none := by
  simp only [List.mem_cons, List.not_mem_nil, or_false, not_or] at hletter
  obtain ⟨hd, hp, hl⟩ := hletter
  have hlibname : (⟨before, ch :: rest⟩ : Cursor).word? "libname" = none :=
    Cursor.word?_other (rfl : "libname".toList.head? = some 'l') hl
  have hrules : full.rules.take 7 = full.rules.take 6 ++ [("libname", .libraryBinding)] := rfl
  rw [hrules, List.forall_mem_append, List.forall_mem_singleton]
  constructor
  · exact earlier_libraries hmark (by simp [hd, hp]) hlet
  · simp [Construct.read?, Cursor.libraryBinding?, hlibname]

/-- Nothing but a step, a block or a library starts with a letter. -/
theorem Grammar.withoutMacros_other (hmark : ch ∉ ['\n', '\r', '*', '/'])
    (hletter : ch.toLower ∉ ['d', 'p', 'l'])
    (hlet : (⟨before, ch :: rest⟩ : Cursor).macroVariableDefinition? = none)
    (hinclude : (⟨before, ch :: rest⟩ : Cursor).inclusion? = none) :
    ∀ rule ∈ withoutMacros.rules, rule.2.read? ⟨before, ch :: rest⟩ = none := by
  have hrules : withoutMacros.rules = full.rules.take 7 ++ [("include", .inclusion)] := rfl
  rw [hrules, List.forall_mem_append, List.forall_mem_singleton]
  constructor
  · exact earlier_inclusions hmark hletter hlet
  · simp [Construct.read?, hinclude]

end FirstCharacter

/-! ## Statements outside of steps -/

section Statements

variable {before rest : List Char} {stop : Cursor}

theorem Grammar.firstMatch?_of_macroVariableDefinition? {definition : MacroVariableDefinition}
    (h : (⟨before, '%' :: rest⟩ : Cursor).macroVariableDefinition? = some (definition, stop)) :
    full.firstMatch? ⟨before, '%' :: rest⟩ =
      some (.single ⟨before, '%' :: rest⟩ (.macroVariable definition) stop) := by
  have hnewline : ∀ rule ∈ full.rules.take 1, rule.2.read? ⟨before, '%' :: rest⟩ = none :=
    List.forall_mem_singleton.2 (Construct.newline_other (by decide) (by decide))
  refine firstMatch?_of_nth 1 rfl hnewline ?_
    (Cursor.macroVariableDefinition?_passes h).remaining_lt
  simp [Construct.read?, h]

theorem Grammar.firstMatch?_of_libraryBinding? {binding : LibraryBinding}
    (h : (⟨before, 'l' :: rest⟩ : Cursor).libraryBinding? = some (binding, stop)) :
    full.firstMatch? ⟨before, 'l' :: rest⟩ =
      some (.single ⟨before, 'l' :: rest⟩ (.libraryBinding binding) stop) := by
  have hlet : (⟨before, 'l' :: rest⟩ : Cursor).macroVariableDefinition? = none :=
    Cursor.macroVariableDefinition?_other (by decide)
  refine firstMatch?_of_nth 6 rfl (earlier_libraries (by decide) (by decide) hlet) ?_
    (Cursor.libraryBinding?_passes h).remaining_lt
  simp [Construct.read?, h]

theorem Grammar.firstMatch?_of_inclusion? {inclusion : Inclusion}
    (h : (⟨before, '%' :: 'i' :: rest⟩ : Cursor).inclusion? = some (inclusion, stop)) :
    full.firstMatch? ⟨before, '%' :: 'i' :: rest⟩ =
      some (.single ⟨before, '%' :: 'i' :: rest⟩ (.inclusion inclusion) stop) := by
  have hlet : (⟨before, '%' :: 'i' :: rest⟩ : Cursor).keyword? "%let" = none :=
    Cursor.letters?_eq_none ['%', 'i'] (by decide) (by decide) before rest
  refine firstMatch?_of_nth 7 rfl (earlier_inclusions (by decide) (by decide) ?_) ?_
    (Cursor.inclusion?_passes h).remaining_lt
  · simp [Cursor.macroVariableDefinition?, hlet]
  · simp [Construct.read?, h]

end Statements

/-! ## Steps -/

section Steps

variable {before rest : List Char} {stop : Cursor}

theorem Grammar.firstMatch?_of_dataStep? {step : DataStep}
    (h : (⟨before, 'd' :: rest⟩ : Cursor).dataStep? = some (step, stop)) :
    full.firstMatch? ⟨before, 'd' :: rest⟩ =
      some (.single ⟨before, 'd' :: rest⟩ (.dataStep step) stop) := by
  have hlet : (⟨before, 'd' :: rest⟩ : Cursor).macroVariableDefinition? = none :=
    Cursor.macroVariableDefinition?_other (by decide)
  refine firstMatch?_of_nth 3 rfl (earlier_steps (by decide) hlet) ?_
    (Cursor.dataStep?_passes h).remaining_lt
  simp [Construct.read?, h]

/-- The rule of the data step comes first, but its word begins with another letter. -/
theorem Grammar.firstMatch?_of_procedure? {procedure : Procedure}
    (h : (⟨before, 'p' :: rest⟩ : Cursor).procedure? = some (procedure, stop)) :
    full.firstMatch? ⟨before, 'p' :: rest⟩ =
      some (.single ⟨before, 'p' :: rest⟩ (.procedure procedure) stop) := by
  have hdata : Construct.dataStep.read? ⟨before, 'p' :: rest⟩ = none := by
    have hword : (⟨before, 'p' :: rest⟩ : Cursor).word? "data" = none :=
      Cursor.word?_other (rfl : "data".toList.head? = some 'd') (by decide)
    simp [Construct.read?, Cursor.dataStep?, Cursor.dataStatement?, hword]
  have hlet : (⟨before, 'p' :: rest⟩ : Cursor).macroVariableDefinition? = none :=
    Cursor.macroVariableDefinition?_other (by decide)
  have hearlier : ∀ rule ∈ full.rules.take 3 ++ [("data step", .dataStep)],
      rule.2.read? ⟨before, 'p' :: rest⟩ = none :=
    List.forall_mem_append.mpr
      ⟨earlier_steps (by decide) hlet, List.forall_mem_singleton.mpr hdata⟩
  refine firstMatch?_of_nth 4 rfl hearlier ?_ (Cursor.procedure?_passes h).remaining_lt
  simp [Construct.read?, h]

end Steps

/-! ## The macro language -/

section Macros

variable {before rest : List Char} {stop : Cursor}

/-- Only the statements of the macro language are left where a percent sign and an `m` come
first. -/
theorem Grammar.earlier_macros (before rest : List Char) :
    ∀ rule ∈ full.rules.take 8, rule.2.read? ⟨before, '%' :: 'm' :: rest⟩ = none := by
  have hlet : (⟨before, '%' :: 'm' :: rest⟩ : Cursor).keyword? "%let" = none :=
    Cursor.letters?_eq_none ['%', 'm'] (by decide) (by decide) before rest
  have hinclude : (⟨before, '%' :: 'm' :: rest⟩ : Cursor).keyword? "%include" = none :=
    Cursor.letters?_eq_none ['%', 'm'] (by decide) (by decide) before rest
  apply withoutMacros_other (by decide) (by decide)
  · simp [Cursor.macroVariableDefinition?, hlet]
  · simp [Cursor.inclusion?, hinclude]

theorem Grammar.firstMatch?_of_macroStart? {start : MacroStart}
    (h : (⟨before, '%' :: 'm' :: rest⟩ : Cursor).macroStart? = some (start, stop)) :
    full.firstMatch? ⟨before, '%' :: 'm' :: rest⟩ =
      some (.single ⟨before, '%' :: 'm' :: rest⟩ (.macroStart start) stop) := by
  refine firstMatch?_of_nth 8 rfl (earlier_macros before rest) ?_
    (Cursor.macroStart?_passes h).remaining_lt
  simp [Construct.read?, h]

end Macros

theorem Grammar.firstMatch?_lineFeed (before rest : List Char) :
    full.firstMatch? ⟨before, '\n' :: rest⟩ =
      some (.single ⟨before, '\n' :: rest⟩ .newline ⟨'\n' :: before, rest⟩) := by
  have hless : rest.length < ('\n' :: rest).length := by simp
  refine firstMatch?_of_nth 0 rfl (List.forall_mem_nil _) ?_ hless
  simp [Construct.read?, Cursor.newline?]

end SasOutline
