import SasOutline.Scan
import SasOutline.Proofs.ByteOffset
import SasOutline.Proofs.MatchLayout

/-!
# The turns of a scan

A scan goes from one byte offset of its text to the next.  At each offset either
the grammar finds a match and the scan goes on behind it, or it finds none and
the scan goes on behind a single character.

The offsets form a chain from the start of the text to its end.  There is
exactly one such chain, and the nodes and the counts of the scan are read off
it.
-/

namespace SasOutline

namespace Grammar

/-- What the grammar finds at a byte offset of a text. -/
def matchAt? (grammar : Grammar) (text : String) (offset : Nat) : Option ConstructMatch :=
  (Cursor.seek? text offset).bind grammar.firstMatch?

/-- The cursor at which a scan goes on after an offset: behind the match that is
found there, or one character further. -/
def turn? (grammar : Grammar) (text : String) (offset : Nat) : Option Cursor :=
  match grammar.matchAt? text offset with
  | some found => some found.rest
  | none => ((Cursor.seek? text offset).bind Cursor.bump?).map Prod.snd

def LeadsTo (grammar : Grammar) (text : String) (offset next : Nat) : Prop :=
  ∃ after, grammar.turn? text offset = some after ∧ Cursor.seek? text next = some after

/-- The offsets at which the turns of a scan begin, and the end of the text. -/
structure IsScanChain (grammar : Grammar) (text : String) (offsets : List Nat) : Prop where
  first : offsets.head? = some 0
  last : offsets.getLast? = some text.utf8ByteSize
  increasing : offsets.Pairwise (· < ·)
  boundary : ∀ offset ∈ offsets, (⟨offset⟩ : String.Pos.Raw).IsValid text
  turn : offsets.IsChain (grammar.LeadsTo text)

def turns (offsets : List Nat) : List (Nat × Nat) :=
  offsets.zip offsets.tail

/-- The matches among the turns of a chain. -/
def matchesAlong (grammar : Grammar) (text : String) (offsets : List Nat) :
    List ConstructMatch :=
  (turns offsets).filterMap fun turn => grammar.matchAt? text turn.1

/-- The characters between the offsets of the turns at which a match is found. -/
def matchedAlong (grammar : Grammar) (text : String) (offsets : List Nat) : Nat :=
  (((turns offsets).filter fun turn => (grammar.matchAt? text turn.1).isSome).map
    fun turn => (String.Pos.Raw.extract text ⟨turn.1⟩ ⟨turn.2⟩).length).sum

/-- The result of a scan is what a chain of offsets says. -/
structure Accounts (grammar : Grammar) (text : String) (offsets : List Nat)
    (scan : Scan) : Prop where
  nodes : scan.nodes.map Spanned.node =
    ((grammar.matchesAlong text offsets).flatMap ConstructMatch.items).map MatchItem.node
  matchCount : scan.counts.matchCount = (grammar.matchesAlong text offsets).length
  skipped : scan.counts.skipped =
    (turns offsets).countP fun turn => (grammar.matchAt? text turn.1).isNone
  matched : scan.counts.matched = grammar.matchedAlong text offsets
  total : scan.counts.total = text.length
  complete : scan.counts.matched + scan.counts.skipped = scan.counts.total
  bounded : offsets.length ≤ text.length + 1

/-! ## One turn -/

section Steps

variable {grammar : Grammar}

theorem steps_of_firstMatch? {cursor : Cursor} {found : ConstructMatch}
    (h : grammar.firstMatch? cursor = some found) :
    grammar.steps cursor = .matched cursor found :: grammar.steps found.rest := by
  rw [steps]
  split
  · next other hother =>
      obtain rfl := Option.some.inj (h.symm.trans hother)
      rfl
  · next hnone => exact absurd (h.symm.trans hnone) (by simp)

theorem steps_of_bump? {cursor after : Cursor} {ch : Char}
    (hnone : grammar.firstMatch? cursor = none) (hbump : cursor.bump? = some (ch, after)) :
    grammar.steps cursor = .skipped ch :: grammar.steps after := by
  rw [steps]
  split
  · next found hfound => exact absurd (hnone.symm.trans hfound) (by simp)
  · split
    · next other stop hother =>
        obtain ⟨rfl, rfl⟩ := Prod.mk.inj (Option.some.inj (hbump.symm.trans hother))
        rfl
    · next hend => exact absurd (hbump.symm.trans hend) (by simp)

theorem steps_end (before : List Char) : grammar.steps ⟨before, []⟩ = [] := by
  have hnone : grammar.firstMatch? ⟨before, []⟩ = none := by
    cases hfound : grammar.firstMatch? ⟨before, []⟩ with
    | none => rfl
    | some found => exact absurd (firstMatch?_remaining_lt hfound) (by simp [Cursor.remaining])
  rw [steps]
  split
  · next hsome => exact absurd (hnone.symm.trans hsome) (by simp)
  · rfl

end Steps

theorem matchAt?_offset {grammar : Grammar} {text : String} {cursor : Cursor}
    (h : cursor.InText text) :
    grammar.matchAt? text cursor.offset = grammar.firstMatch? cursor := by
  unfold matchAt?
  rw [h.seek?_offset]
  rfl

theorem leadsTo_rest {grammar : Grammar} {text : String} {cursor : Cursor}
    {found : ConstructMatch} (h : cursor.InText text)
    (hfound : grammar.firstMatch? cursor = some found) :
    grammar.LeadsTo text cursor.offset found.rest.offset := by
  refine ⟨found.rest, ?_, ?_⟩
  · unfold turn?
    rw [matchAt?_offset h, hfound]
  · exact (h.of_reaches (firstMatch?_passes hfound).reaches).seek?_offset

theorem leadsTo_bump {grammar : Grammar} {text : String} {cursor after : Cursor} {ch : Char}
    (h : cursor.InText text) (hnone : grammar.firstMatch? cursor = none)
    (hbump : cursor.bump? = some (ch, after)) :
    grammar.LeadsTo text cursor.offset after.offset := by
  refine ⟨after, ?_, ?_⟩
  · unfold turn?
    rw [matchAt?_offset h, hnone, h.seek?_offset]
    simp [hbump]
  · exact (h.of_reaches (Cursor.bump?_passes hbump).reaches).seek?_offset

theorem LeadsTo.unique {grammar : Grammar} {text : String} {offset next other : Nat}
    (h : grammar.LeadsTo text offset next) (h' : grammar.LeadsTo text offset other) :
    next = other := by
  obtain ⟨after, hturn, hseek⟩ := h
  obtain ⟨after', hturn', hseek'⟩ := h'
  have hafter : after = after' := by
    rw [hturn] at hturn'
    exact Option.some.inj hturn'
  rw [← (Cursor.seek?_inText hseek).2, ← (Cursor.seek?_inText hseek').2, hafter]

theorem turn?_passes {grammar : Grammar} {text : String} {offset : Nat} {after : Cursor}
    (h : grammar.turn? text offset = some after) :
    ∃ cursor, Cursor.seek? text offset = some cursor ∧ cursor.Passes after := by
  unfold turn? at h
  split at h
  · next found hfound =>
      obtain ⟨cursor, hseek, hmatch⟩ := Option.bind_eq_some_iff.1 hfound
      obtain rfl := Option.some.inj h
      exact ⟨cursor, hseek, firstMatch?_passes hmatch⟩
  · obtain ⟨⟨ch, stop⟩, hbind, rfl⟩ := Option.map_eq_some_iff.1 h
    obtain ⟨cursor, hseek, hbump⟩ := Option.bind_eq_some_iff.1 hbind
    exact ⟨cursor, hseek, Cursor.bump?_passes hbump⟩

theorem LeadsTo.lt {grammar : Grammar} {text : String} {offset next : Nat}
    (h : grammar.LeadsTo text offset next) : offset < next := by
  obtain ⟨after, hturn, hseek⟩ := h
  obtain ⟨cursor, hcursor, passes⟩ := turn?_passes hturn
  rw [← (Cursor.seek?_inText hcursor).2, ← (Cursor.seek?_inText hseek).2]
  exact passes.offset_lt

theorem not_leadsTo_end {grammar : Grammar} {text : String} {next : Nat} :
    ¬ grammar.LeadsTo text text.utf8ByteSize next := by
  intro h
  have hless := h.lt
  obtain ⟨after, -, hseek⟩ := h
  obtain ⟨hafter, hoffset⟩ := Cursor.seek?_inText hseek
  have := hafter.utf8ByteSize_eq
  omega

/-! ## There is at most one chain -/

theorem chain_unique {grammar : Grammar} {text : String} {offset : Nat}
    {first second : List Nat}
    (hfirst : (offset :: first).IsChain (grammar.LeadsTo text))
    (hsecond : (offset :: second).IsChain (grammar.LeadsTo text))
    (hfirstLast : (offset :: first).getLast? = some text.utf8ByteSize)
    (hsecondLast : (offset :: second).getLast? = some text.utf8ByteSize) :
    first = second := by
  induction first generalizing offset second with
  | nil =>
      have hend : offset = text.utf8ByteSize := by simpa using hfirstLast
      cases second with
      | nil => rfl
      | cons next rest =>
          rw [hend] at hsecond
          exact (not_leadsTo_end (List.isChain_cons_cons.1 hsecond).1).elim
  | cons next rest ih =>
      obtain ⟨hnext, hrest⟩ := List.isChain_cons_cons.1 hfirst
      cases second with
      | nil =>
          have hend : offset = text.utf8ByteSize := by simpa using hsecondLast
          rw [hend] at hnext
          exact (not_leadsTo_end hnext).elim
      | cons next' rest' =>
          obtain ⟨hnext', hrest'⟩ := List.isChain_cons_cons.1 hsecond
          obtain rfl := hnext.unique hnext'
          rw [List.getLast?_cons_cons] at hfirstLast hsecondLast
          rw [ih hrest hrest' hfirstLast hsecondLast]

theorem IsScanChain.unique {grammar : Grammar} {text : String} {first second : List Nat}
    (hfirst : grammar.IsScanChain text first) (hsecond : grammar.IsScanChain text second) :
    first = second := by
  obtain ⟨later, rfl⟩ := List.head?_eq_some_iff.1 hfirst.first
  obtain ⟨later', rfl⟩ := List.head?_eq_some_iff.1 hsecond.first
  rw [chain_unique hfirst.turn hsecond.turn hfirst.last hsecond.last]

end Grammar

/-! ## The chain of the steps -/

namespace ScanStep

def found? : ScanStep → Option ConstructMatch
  | matched _ found => some found
  | skipped _ => none

def read : ScanStep → String
  | matched start found => start.stringUntil found.rest
  | skipped ch => String.ofList [ch]

@[simp] theorem found?_matched (start : Cursor) (found : ConstructMatch) :
    (matched start found).found? = some found := rfl

@[simp] theorem found?_skipped (ch : Char) : (skipped ch).found? = none := rfl

@[simp] theorem isMatch_matched (start : Cursor) (found : ConstructMatch) :
    (matched start found).isMatch = true := rfl

@[simp] theorem isMatch_skipped (ch : Char) : (skipped ch).isMatch = false := rfl

@[simp] theorem matchedLength_matched (start : Cursor) (found : ConstructMatch) :
    (matched start found).matchedLength = (start.textUntil found.rest).length := rfl

@[simp] theorem matchedLength_skipped (ch : Char) : (skipped ch).matchedLength = 0 := rfl

theorem isMatch_eq_isSome (step : ScanStep) : step.isMatch = step.found?.isSome := by
  cases step <;> rfl

theorem matchedLength_eq (step : ScanStep) :
    step.matchedLength = if step.found?.isSome then step.read.length else 0 := by
  cases step with
  | matched start found => simp [read, Cursor.stringUntil]
  | skipped ch => rfl

/-- The offsets behind the steps of a list that begins at `offset`. -/
def laterOffsets (offset : Nat) : List ScanStep → List Nat
  | [] => []
  | matched _ found :: steps => found.rest.offset :: laterOffsets found.rest.offset steps
  | skipped ch :: steps =>
      (offset + ch.utf8Size) :: laterOffsets (offset + ch.utf8Size) steps

theorem length_laterOffsets (offset : Nat) (steps : List ScanStep) :
    (laterOffsets offset steps).length = steps.length := by
  induction steps generalizing offset with
  | nil => rfl
  | cons step steps ih =>
      cases step <;> simp [laterOffsets, ih]

end ScanStep

namespace Grammar

open ScanStep

theorem laterOffsets_isChain {grammar : Grammar} {text : String} {cursor : Cursor}
    (h : cursor.InText text) :
    (cursor.offset :: laterOffsets cursor.offset (grammar.steps cursor)).IsChain
      (grammar.LeadsTo text) := by
  fun_induction steps grammar cursor with
  | case1 cursor found hfound ih =>
      have hrest := h.of_reaches (firstMatch?_passes hfound).reaches
      exact List.isChain_cons_cons.2 ⟨leadsTo_rest h hfound, ih hrest⟩
  | case2 cursor hnone ch after hbump ih =>
      have hafter := h.of_reaches (Cursor.bump?_passes hbump).reaches
      rw [laterOffsets, ← Cursor.bump?_offset hbump]
      exact List.isChain_cons_cons.2 ⟨leadsTo_bump h hnone hbump, ih hafter⟩
  | case3 cursor hnone hbump => exact List.IsChain.singleton _

theorem laterOffsets_getLast? {grammar : Grammar} {text : String} {cursor : Cursor}
    (h : cursor.InText text) :
    (cursor.offset :: laterOffsets cursor.offset (grammar.steps cursor)).getLast? =
      some text.utf8ByteSize := by
  fun_induction steps grammar cursor with
  | case1 cursor found hfound ih =>
      rw [laterOffsets, List.getLast?_cons_cons]
      exact ih (h.of_reaches (firstMatch?_passes hfound).reaches)
  | case2 cursor hnone ch after hbump ih =>
      rw [laterOffsets, List.getLast?_cons_cons, ← Cursor.bump?_offset hbump]
      exact ih (h.of_reaches (Cursor.bump?_passes hbump).reaches)
  | case3 cursor hnone hbump =>
      rw [h.utf8ByteSize_eq, Cursor.bump?_eq_none hbump]
      rfl

theorem laterOffsets_isValid {grammar : Grammar} {text : String} {cursor : Cursor}
    (h : cursor.InText text) :
    ∀ offset ∈ cursor.offset :: laterOffsets cursor.offset (grammar.steps cursor),
      (⟨offset⟩ : String.Pos.Raw).IsValid text := by
  fun_induction steps grammar cursor with
  | case1 cursor found hfound ih =>
      refine List.forall_mem_cons.2 ⟨h.isValid_offset, ?_⟩
      exact ih (h.of_reaches (firstMatch?_passes hfound).reaches)
  | case2 cursor hnone ch after hbump ih =>
      refine List.forall_mem_cons.2 ⟨h.isValid_offset, ?_⟩
      rw [laterOffsets, ← Cursor.bump?_offset hbump]
      exact ih (h.of_reaches (Cursor.bump?_passes hbump).reaches)
  | case3 cursor hnone hbump =>
      exact List.forall_mem_singleton.2 h.isValid_offset

/-- The chain of the offsets at which the steps of a scan begin. -/
def scanChain (grammar : Grammar) (text : String) : List Nat :=
  0 :: laterOffsets 0 (grammar.steps (.ofText text))

theorem scanChain_isScanChain (grammar : Grammar) (text : String) :
    grammar.IsScanChain text (grammar.scanChain text) := by
  have hstart := Cursor.ofText_inText text
  have hchain : (grammar.scanChain text).IsChain (grammar.LeadsTo text) :=
    laterOffsets_isChain hstart
  constructor
  · rfl
  · exact laterOffsets_getLast? hstart
  · exact (hchain.imp fun _ _ h => h.lt).pairwise
  · exact laterOffsets_isValid hstart
  · exact hchain

/-- What is found and read turn by turn is what the steps say. -/
theorem turns_eq_steps {grammar : Grammar} {text : String} {cursor : Cursor}
    (h : cursor.InText text) :
    (turns (cursor.offset :: laterOffsets cursor.offset (grammar.steps cursor))).map
        (fun turn => (grammar.matchAt? text turn.1,
          String.Pos.Raw.extract text ⟨turn.1⟩ ⟨turn.2⟩)) =
      (grammar.steps cursor).map fun step => (step.found?, step.read) := by
  fun_induction steps grammar cursor with
  | case1 cursor found hfound ih =>
      have reaches := (firstMatch?_passes hfound).reaches
      have hrest := ih (h.of_reaches reaches)
      simp only [turns, laterOffsets, List.tail_cons, List.zip_cons_cons, List.map_cons]
        at hrest ⊢
      rw [hrest, matchAt?_offset h, hfound, h.extract_eq_stringUntil reaches]
      rfl
  | case2 cursor hnone ch after hbump ih =>
      have reaches := (Cursor.bump?_passes hbump).reaches
      have hrest := ih (h.of_reaches reaches)
      simp only [turns, laterOffsets, List.tail_cons, List.zip_cons_cons, List.map_cons,
        ← Cursor.bump?_offset hbump] at hrest ⊢
      rw [hrest, matchAt?_offset h, hnone, h.extract_eq_stringUntil reaches,
        Cursor.bump?_stringUntil hbump]
      rfl
  | case3 cursor hnone hbump => rfl

/-! ## Nodes and counts -/

theorem placeItems_map_node (position : Position) (scanned rest : Cursor)
    (items : List MatchItem) :
    (placeItems position scanned rest items).1.map Spanned.node =
      items.map MatchItem.node := by
  induction items generalizing position scanned with
  | nil => rfl
  | cons item items ih => simp [placeItems, ih]

theorem placeSteps_map_node (position : Position) (steps : List ScanStep) :
    (placeSteps position steps).map Spanned.node =
      ((steps.filterMap found?).flatMap ConstructMatch.items).map MatchItem.node := by
  induction steps generalizing position with
  | nil => rfl
  | cons step steps ih =>
      cases step with
      | skipped ch =>
          rw [placeSteps, ih]
          rfl
      | matched start found =>
          simp only [placeSteps, List.map_append, placeItems_map_node, ih]
          simp

theorem sum_filter_map {α : Type} (keep : α → Bool) (weight : α → Nat) (entries : List α) :
    ((entries.filter keep).map weight).sum =
      (entries.map fun entry => if keep entry then weight entry else 0).sum := by
  induction entries with
  | nil => rfl
  | cons entry entries ih =>
      by_cases hkeep : keep entry
      · simp [hkeep, ih]
      · simp [hkeep, ih]

theorem foldr_matchedLength (steps : List ScanStep) :
    steps.foldr (fun step count => step.matchedLength + count) 0 =
      (steps.map matchedLength).sum := by
  rw [List.sum_eq_foldr, List.foldr_map]

theorem matchedLength_add_skipped (grammar : Grammar) (cursor : Cursor) :
    ((grammar.steps cursor).map matchedLength).sum +
        (grammar.steps cursor).countP (fun step => !step.isMatch) = cursor.remaining := by
  fun_induction steps grammar cursor with
  | case1 cursor found hfound ih =>
      have hsplit := (firstMatch?_passes hfound).reaches.textUntil_append.1
      have hlength := congrArg List.length hsplit
      simp only [List.length_append] at hlength
      simp only [Cursor.remaining] at ih ⊢
      simp
      omega
  | case2 cursor hnone ch after hbump ih =>
      have hrest := (Cursor.bump?_eq_some hbump).1
      simp only [Cursor.remaining] at ih ⊢
      simp [hrest]
      omega
  | case3 cursor hnone hbump =>
      simp [Cursor.remaining, Cursor.bump?_eq_none hbump]

theorem length_steps_le (grammar : Grammar) (cursor : Cursor) :
    (grammar.steps cursor).length ≤ cursor.remaining := by
  fun_induction steps grammar cursor with
  | case1 cursor found hfound ih =>
      have hless := firstMatch?_remaining_lt hfound
      simp only [List.length_cons]
      omega
  | case2 cursor hnone ch after hbump ih =>
      have hless := (Cursor.bump?_passes hbump).remaining_lt
      simp only [List.length_cons]
      omega
  | case3 cursor hnone hbump => exact Nat.zero_le _

theorem scanChain_turns (grammar : Grammar) (text : String) :
    (turns (grammar.scanChain text)).map
        (fun turn => (grammar.matchAt? text turn.1,
          String.Pos.Raw.extract text ⟨turn.1⟩ ⟨turn.2⟩)) =
      (grammar.steps (.ofText text)).map fun step => (step.found?, step.read) :=
  turns_eq_steps (Cursor.ofText_inText text)

theorem matchesAlong_scanChain (grammar : Grammar) (text : String) :
    grammar.matchesAlong text (grammar.scanChain text) =
      (grammar.steps (.ofText text)).filterMap found? := by
  have hturns := congrArg (List.filterMap Prod.fst) (grammar.scanChain_turns text)
  rw [List.filterMap_map, List.filterMap_map] at hturns
  exact hturns

theorem matchedAlong_scanChain (grammar : Grammar) (text : String) :
    grammar.matchedAlong text (grammar.scanChain text) =
      ((grammar.steps (.ofText text)).map matchedLength).sum := by
  have hturns := congrArg (fun entries =>
    (entries.map fun entry => if entry.1.isSome then entry.2.length else 0).sum)
    (grammar.scanChain_turns text)
  simp only [List.map_map] at hturns
  unfold matchedAlong
  rw [sum_filter_map]
  refine Eq.trans hturns ?_
  congr 1
  apply List.map_congr_left
  intro step _
  exact (matchedLength_eq step).symm

theorem skippedAlong_scanChain (grammar : Grammar) (text : String) :
    (turns (grammar.scanChain text)).countP
        (fun turn => (grammar.matchAt? text turn.1).isNone) =
      (grammar.steps (.ofText text)).countP fun step => !step.isMatch := by
  have hturns := congrArg (List.countP fun entry => entry.1.isNone)
    (grammar.scanChain_turns text)
  rw [List.countP_map, List.countP_map] at hturns
  refine Eq.trans hturns ?_
  apply List.countP_congr
  intro step _
  simp [isMatch_eq_isSome]

theorem countP_isMatch (steps : List ScanStep) :
    steps.countP isMatch = (steps.filterMap found?).length := by
  induction steps with
  | nil => rfl
  | cons step steps ih =>
      cases step <;> simp [List.countP_cons, List.filterMap_cons, ih]

theorem scan_accounts (grammar : Grammar) (text : String) :
    grammar.Accounts text (grammar.scanChain text) (grammar.scan text) := by
  have hremaining : (Cursor.ofText text).remaining = text.length :=
    String.length_toList
  constructor
  · rw [matchesAlong_scanChain]
    exact placeSteps_map_node _ _
  · rw [matchesAlong_scanChain]
    exact countP_isMatch _
  · exact (skippedAlong_scanChain grammar text).symm
  · rw [matchedAlong_scanChain]
    exact foldr_matchedLength _
  · rfl
  · have hsum := grammar.matchedLength_add_skipped (.ofText text)
    rw [← foldr_matchedLength, hremaining] at hsum
    exact hsum
  · have hsteps := grammar.length_steps_le (.ofText text)
    rw [hremaining] at hsteps
    simp only [scanChain, List.length_cons, length_laterOffsets]
    omega

/-- A scan follows exactly one chain of offsets through its text, and its nodes
and counts are those of that chain. -/
theorem scan_follows_unique_chain (grammar : Grammar) (text : String) :
    (∃! offsets, grammar.IsScanChain text offsets) ∧
      ∀ offsets, grammar.IsScanChain text offsets →
        grammar.Accounts text offsets (grammar.scan text) := by
  have hchain := grammar.scanChain_isScanChain text
  refine ⟨⟨grammar.scanChain text, hchain, fun offsets h => h.unique hchain⟩, ?_⟩
  intro offsets hoffsets
  rw [hoffsets.unique hchain]
  exact grammar.scan_accounts text

end Grammar

end SasOutline
