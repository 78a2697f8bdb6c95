import SasOutline.Proofs.PrintedStatements
import SasOutline.Proofs.StepInputs

/-!
# Names of macro calls

A call is a percent sign and a name in front of a semicolon.  The statements that begin with
`%let`, `%include` and `%macro` want a blank behind their word, so a call whose name goes on
from one of these words is not mistaken for such a statement.

The statement that closes a macro definition takes any text up to its semicolon, and it comes
before calls.  A macro whose name begins with `mend` therefore cannot be called: its call is
read as the end of a definition.
-/

namespace SasOutline

/-- The name begins with the word that closes a macro definition. -/
def Word.BeginsWithMend (name : Word) : Prop :=
  (name.text.toList.take 4).map Char.toLower = "mend".toList

instance (name : Word) : Decidable name.BeginsWithMend :=
  inferInstanceAs (Decidable (_ = _))

def callText (name : Word) : List Char := '%' :: (name.text.toList ++ [';'])

section Call

variable (name : Word) (before suffix : List Char)

theorem callText_append :
    callText name ++ suffix = '%' :: (name.text.toList ++ ';' :: suffix) := by
  simp [callText]

/-! ## Statements that want a blank -/

variable {α : Type} {fold : Char → Char} {word : String}

/-- A word that is read at a call ends inside of it. -/
theorem letters?_call (hword : fold ';' ∉ word.toList.map fold) {stop : Cursor}
    (h : Cursor.letters? fold ⟨before, callText name ++ suffix⟩ word = some stop) :
    ∃ read more, '%' :: name.text.toList = read ++ more ∧ stop.rest = more ++ ';' :: suffix ∧
      read.map fold = word.toList.map fold := by
  obtain ⟨read, ⟨hrest, -⟩, hletters⟩ := Cursor.letters?_eq_some h
  have hsemicolon : ';' ∉ read := by
    intro hmem
    rw [← hletters] at hword
    exact hword (List.mem_map_of_mem hmem)
  have hsplit : ('%' :: name.text.toList) ++ ';' :: suffix = read ++ stop.rest := by
    rw [← hrest, callText_append, List.cons_append]
  obtain ⟨more, hcall, hmore⟩ := exists_more_of_notMem hsemicolon hsplit
  exact ⟨read, more, hcall, hmore, hletters⟩

/-- No blank stands in a call, so a statement that wants one behind its word is not read. -/
theorem spacedKeyword_call (hword : ';' ∉ word.toList.map Char.toLower)
    (next : Cursor → Option α) :
    ((⟨before, callText name ++ suffix⟩ : Cursor).keyword? word).bind
      (fun stop => stop.space?.bind next) = none := by
  cases hkeyword : (⟨before, callText name ++ suffix⟩ : Cursor).keyword? word with
  | none => rfl
  | some stop =>
      obtain ⟨read, more, hcall, hmore, -⟩ := letters?_call name before suffix hword hkeyword
      have hunspaced : ∀ ch ∈ '%' :: name.text.toList, isWhiteSpace ch = false := by
        refine List.forall_mem_cons.mpr ⟨by decide, ?_⟩
        intro ch hch
        exact isWhiteSpace_of_isNameCharacter (name.plain.2 ch hch)
      have hhalts : Halts isWhiteSpace stop.rest := by
        rw [hmore]
        cases more with
        | nil => exact Cursor.halts_space_semicolon suffix
        | cons ch more =>
            refine (halts_cons _ _ _).mpr (hunspaced ch ?_)
            rw [hcall]
            simp
      have hspace : stop.space? = none := Cursor.run?_of_halts hhalts stop.before
      rw [Option.bind_some, hspace, Option.bind_none]

theorem macroStart?_call :
    (⟨before, callText name ++ suffix⟩ : Cursor).macroStart? = none :=
  spacedKeyword_call name before suffix (by decide) _

theorem earlier_call :
    ∀ rule ∈ Grammar.full.rules.take 8, rule.2.read? ⟨before, callText name ++ suffix⟩ = none :=
  Grammar.withoutMacros_other (by decide) (by decide)
    (spacedKeyword_call name before suffix (by decide) _)
    (spacedKeyword_call name before suffix (by decide) _)

/-! ## The end of a definition -/

theorem macroEnd?_of_beginsWithMend (hname : name.BeginsWithMend) :
    (⟨before, callText name ++ suffix⟩ : Cursor).macroEnd? =
      some ⟨(callText name).reverse ++ before, suffix⟩ := by
  let read := '%' :: name.text.toList.take 4
  let more := name.text.toList.drop 4
  have hcall : callText name = read ++ (more ++ [';']) := by
    simp only [callText, read, more, List.cons_append, ← List.append_assoc,
      List.take_append_drop]
  have hwritten : callText name ++ suffix = read ++ (more ++ ';' :: suffix) := by
    rw [hcall, List.append_assoc, List.append_assoc]
    rfl
  have hlower : read.map Char.toLower = "%mend".toList.map Char.toLower := by
    have hmend : (name.text.toList.take 4).map Char.toLower = "mend".toList := hname
    rw [List.map_cons, hmend]
    decide
  have hlength : read.length = "%mend".toList.length := by
    simpa using congrArg List.length hlower
  have hreads : Cursor.Reads ⟨before, callText name ++ suffix⟩ read
      ⟨read.reverse ++ before, more ++ ';' :: suffix⟩ := ⟨hwritten, rfl⟩
  have hkeyword : Cursor.letters? foldedLetter ⟨before, callText name ++ suffix⟩ "%mend" =
      some ⟨read.reverse ++ before, more ++ ';' :: suffix⟩ := by
    rw [Cursor.letters?_of_reads hreads hlength, if_pos (Cursor.map_foldedLetter_of_toLower hlower)]
  have hmore : ∀ ch ∈ more, (ch != '\n' && ch != ';') = true := by
    intro ch hch
    have hletter := name.plain.2 ch (List.mem_of_mem_drop hch)
    have hfeed : ch ≠ '\n' := by
      rintro rfl
      exact absurd hletter (by decide)
    have hsemicolon : ch ≠ ';' := by
      rintro rfl
      exact absurd hletter (by decide)
    simp [hfeed, hsemicolon]
  have hsemicolon : Halts (fun ch => ch != '\n' && ch != ';') (';' :: suffix) :=
    (halts_cons _ _ _).mpr (by decide)
  simp only [Cursor.macroEnd?, hkeyword, Option.bind_eq_bind, Option.bind_some,
    Cursor.skipWhile_append hmore hsemicolon, Cursor.char?_cons_self]
  simp [hcall]

theorem macroEnd?_eq_none (hname : ¬name.BeginsWithMend) :
    (⟨before, callText name ++ suffix⟩ : Cursor).macroEnd? = none := by
  have hkeyword : Cursor.letters? foldedLetter ⟨before, callText name ++ suffix⟩ "%mend" =
      none := by
    rw [Option.eq_none_iff_forall_ne_some]
    intro stop hstop
    obtain ⟨read, more, hcall, -, hletters⟩ :=
      letters?_call name before suffix (by decide) hstop
    have hlower : read.map Char.toLower = "%mend".toList :=
      map_toLower_of_folded (hletters.trans (by decide)) (by decide) (by decide)
    have hlength : read.length = 5 := by simpa using congrArg List.length hlower
    have hread : '%' :: name.text.toList.take 4 = read := by
      rw [← List.take_succ_cons, hcall]
      exact List.take_left' hlength
    rw [← hread, List.map_cons] at hlower
    exact hname (List.cons.inj hlower).2
  simp [Cursor.macroEnd?, hkeyword]

/-! ## Calls -/

theorem macroCall?_append
    (hname : ∀ word ∈ reservedWords, equalIgnoringCase name.text word = false) :
    (⟨before, callText name ++ suffix⟩ : Cursor).macroCall? =
      some (⟨.ofLiteral name.text, none⟩, ⟨(callText name).reverse ++ before, suffix⟩) := by
  have hreserved : (DynamicName.ofLiteral name.text).isReserved = false := by
    rw [DynamicName.isReserved, DynamicName.text_ofLiteral, List.any_eq_false.mpr]
    · exact Bool.and_false _
    · intro word hword
      simp [hname word hword]
  rw [callText_append]
  simp only [Cursor.macroCall?, Cursor.char?_cons_self, Option.bind_eq_bind, Option.bind_some,
    name.read_append ';' (by decide), hreserved, optional, Cursor.argumentList?_semicolon,
    Cursor.semicolon?_cons]
  simp [callText]

end Call

/-- A call of a macro that is not called by a reserved word is read whole.  It is read as a
call unless its name begins with `mend`: then it is read as the end of a definition. -/
theorem Grammar.firstMatch?_call {name : Word}
    (hname : ∀ word ∈ reservedWords, equalIgnoringCase name.text word = false)
    (before suffix : List Char) :
    full.firstMatch? ⟨before, callText name ++ suffix⟩ =
      some (.single ⟨before, callText name ++ suffix⟩
        (if name.BeginsWithMend then .macroEnd else .macroCall ⟨.ofLiteral name.text, none⟩)
        ⟨(callText name).reverse ++ before, suffix⟩) := by
  have hless : suffix.length < (callText name ++ suffix).length := by
    simp [callText]
    omega
  have hstart : ∀ rule ∈ full.rules.take 9,
      rule.2.read? ⟨before, callText name ++ suffix⟩ = none := by
    have hrules : full.rules.take 9 = full.rules.take 8 ++ [("macro start", .macroStart)] := rfl
    rw [hrules, List.forall_mem_append, List.forall_mem_singleton]
    refine ⟨earlier_call name before suffix, ?_⟩
    simp [Construct.read?, macroStart?_call]
  by_cases hmend : name.BeginsWithMend
  · rw [if_pos hmend]
    refine firstMatch?_of_nth 9 rfl hstart ?_ hless
    simp [Construct.read?, macroEnd?_of_beginsWithMend name before suffix hmend]
  · have hend : ∀ rule ∈ full.rules.take 10,
        rule.2.read? ⟨before, callText name ++ suffix⟩ = none := by
      have hrules : full.rules.take 10 = full.rules.take 9 ++ [("macro end", .macroEnd)] := rfl
      rw [hrules, List.forall_mem_append, List.forall_mem_singleton]
      refine ⟨hstart, ?_⟩
      simp [Construct.read?, macroEnd?_eq_none name before suffix hmend]
    rw [if_neg hmend]
    refine firstMatch?_of_nth 10 rfl hend ?_ hless
    simp [Construct.read?, macroCall?_append name before suffix hname]

def mendsName : Word := ⟨"Mends-2", by decide⟩

def macroName : Word := ⟨"macro_LET", by decide⟩

theorem Grammar.firstMatch?_call_of_mends :
    (∀ word ∈ reservedWords, equalIgnoringCase mendsName.text word = false) ∧
      (∀ word ∈ reservedWords, equalIgnoringCase macroName.text word = false) ∧
      (full.firstMatch? (.ofText "%Mends-2; %macro_LET;")).map
        (fun found => (found.items.map MatchItem.node, found.rest.rest)) =
      some ([.macroEnd], " %macro_LET;".toList) ∧
      (full.firstMatch? (.ofText "%macro_LET; x")).map
        (fun found => (found.items.map MatchItem.node, found.rest.rest)) =
      some ([.macroCall ⟨.ofLiteral "macro_LET", none⟩], " x".toList) := by
  have hmends : ∀ word ∈ reservedWords, equalIgnoringCase mendsName.text word = false := by
    decide
  have hmacro : ∀ word ∈ reservedWords, equalIgnoringCase macroName.text word = false := by
    decide
  have hend := firstMatch?_call hmends [] " %macro_LET;".toList
  have hcall := firstMatch?_call hmacro [] " x".toList
  rw [if_pos (by decide)] at hend
  rw [if_neg (by decide)] at hcall
  exact ⟨hmends, hmacro, congrArg _ hend, congrArg _ hcall⟩

end SasOutline
