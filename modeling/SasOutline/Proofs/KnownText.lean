import SasOutline.SeparatedList
import Mathlib.Tactic

/-!
# Reading a known text

A cursor is often known to stand in front of a text of a certain form.  The
lemmas here say what the basic readers do in front of it: a mark is read when it
comes first, and a run of a class of characters ends exactly where the class
does.
-/

namespace SasOutline

/-- No character of the class comes first. -/
def Halts (inClass : Char → Bool) (text : List Char) : Prop :=
  text.head?.any inClass = false

@[simp] theorem halts_nil (inClass : Char → Bool) : Halts inClass [] := rfl

@[simp] theorem halts_cons (inClass : Char → Bool) (ch : Char) (text : List Char) :
    Halts inClass (ch :: text) ↔ inClass ch = false := by
  simp [Halts]

theorem halts_append {inClass : Char → Bool} {text : List Char} (hne : text ≠ [])
    (htext : ∀ ch ∈ text, inClass ch = false) (rest : List Char) :
    Halts inClass (text ++ rest) := by
  rw [Halts, List.head?_append_of_ne_nil _ hne, List.head?_eq_some_head hne]
  exact htext _ (List.head_mem hne)

theorem halts_dropWhile (inClass : Char → Bool) (text : List Char) :
    Halts inClass (text.dropWhile inClass) := by
  have hhead := List.head?_dropWhile_not inClass text
  cases hrest : text.dropWhile inClass with
  | nil => rfl
  | cons ch rest =>
      rw [hrest] at hhead
      exact (halts_cons _ _ _).mpr hhead

/-- Every text divides into a run of the class and what follows the run. -/
theorem exists_run (inClass : Char → Bool) (text : List Char) :
    ∃ read rest, text = read ++ rest ∧ (∀ ch ∈ read, inClass ch = true) ∧ Halts inClass rest :=
  ⟨text.takeWhile inClass, text.dropWhile inClass, List.takeWhile_append_dropWhile.symm,
    List.all_eq_true.mp List.all_takeWhile, halts_dropWhile inClass text⟩

theorem notMem_of_forall {inClass : Char → Bool} {text : List Char}
    (htext : ∀ ch ∈ text, inClass ch = true) {mark : Char} (hmark : inClass mark = false) :
    mark ∉ text := by
  intro hmem
  rw [htext mark hmem] at hmark
  contradiction

theorem forall_ne_of_notMem {text : List Char} {mark : Char} (htext : mark ∉ text) :
    ∀ ch ∈ text, (ch != mark) = true :=
  fun _ hch => bne_iff_ne.mpr (ne_of_mem_of_not_mem hch htext)

theorem head?_append_ne {text : List Char} (hne : text ≠ []) {mark : Char} (htext : mark ∉ text)
    (rest : List Char) : (text ++ rest).head? ≠ some mark := by
  rw [List.head?_append_of_ne_nil _ hne]
  exact fun hhead => htext (List.mem_of_mem_head? hhead)

/-- A text without the mark that ends another text is a part of what stands in front of the
mark. -/
theorem exists_more_of_notMem {text read rest suffix : List Char} {mark : Char}
    (hread : mark ∉ read) (hsplit : text ++ mark :: suffix = read ++ rest) :
    ∃ more, text = read ++ more ∧ rest = more ++ mark :: suffix := by
  obtain ⟨more, rfl, hmore⟩ | hinside := List.append_eq_append_iff.mp hsplit
  · cases more with
    | nil => exact ⟨[], by simp, hmore.symm⟩
    | cons ch more =>
        obtain ⟨rfl, -⟩ := List.cons.inj hmore
        simp at hread
  · exact hinside

namespace Cursor

variable {read rest : List Char} {inClass : Char → Bool}

theorem skip_append (before read rest : List Char) :
    (⟨before, read ++ rest⟩ : Cursor).skip read.length = ⟨read.reverse ++ before, rest⟩ := by
  simp [skip]

theorem textUntil_append (before before' read rest : List Char) :
    textUntil ⟨before, read ++ rest⟩ ⟨before', rest⟩ = read := by
  simp [textUntil, remaining]

theorem stringUntil_append (before before' read rest : List Char) :
    stringUntil ⟨before, read ++ rest⟩ ⟨before', rest⟩ = String.ofList read :=
  congrArg String.ofList (textUntil_append before before' read rest)

@[simp] theorem char?_cons_self (before rest : List Char) (mark : Char) :
    (⟨before, mark :: rest⟩ : Cursor).char? mark = some ⟨mark :: before, rest⟩ := by
  simp [char?, peek, skip]

theorem char?_eq_none {mark : Char} (hrest : rest.head? ≠ some mark) (before : List Char) :
    (⟨before, rest⟩ : Cursor).char? mark = none := by
  simp [char?, peek, hrest]

theorem char?_eq_some {cursor stop : Cursor} {mark : Char}
    (h : cursor.char? mark = some stop) :
    cursor.rest = mark :: stop.rest ∧ stop.before = mark :: cursor.before := by
  unfold char? at h
  split at h
  · next hpeek =>
      obtain rfl := Option.some.inj h
      match hrest : cursor.rest with
      | [] => simp [peek, hrest] at hpeek
      | ch :: rest =>
          have hch : ch = mark := by simpa [peek, hrest] using hpeek
          simp [skip, hrest, hch]
  · contradiction

theorem bump?_eq_some {cursor after : Cursor} {ch : Char}
    (h : cursor.bump? = some (ch, after)) :
    cursor.rest = ch :: after.rest ∧ after.before = ch :: cursor.before := by
  unfold bump? at h
  split at h
  · contradiction
  · next first rest hrest =>
      obtain ⟨rfl, rfl⟩ := Prod.mk.inj (Option.some.inj h)
      simp [skip, hrest]

theorem takeWhile_append_of_halts (hread : ∀ ch ∈ read, inClass ch = true)
    (hrest : Halts inClass rest) : (read ++ rest).takeWhile inClass = read := by
  have hnone : rest.takeWhile inClass = [] := by
    cases rest with
    | nil => rfl
    | cons ch rest => simp_all
  rw [List.takeWhile_append_of_pos hread, hnone, List.append_nil]

theorem dropWhile_append_of_halts (hread : ∀ ch ∈ read, inClass ch = true)
    (hrest : Halts inClass rest) : (read ++ rest).dropWhile inClass = rest := by
  have hsplit := List.takeWhile_append_dropWhile (p := inClass) (l := read ++ rest)
  rwa [takeWhile_append_of_halts hread hrest, List.append_cancel_left_eq] at hsplit

/-- A text is divided in only one way into a run of the class and what follows the run. -/
theorem append_inj_of_halts {read' rest' : List Char} (hread : ∀ ch ∈ read, inClass ch = true)
    (hrest : Halts inClass rest) (hread' : ∀ ch ∈ read', inClass ch = true)
    (hrest' : Halts inClass rest') (h : read ++ rest = read' ++ rest') :
    read = read' ∧ rest = rest' := by
  have htaken := congrArg (List.takeWhile inClass) h
  have hdropped := congrArg (List.dropWhile inClass) h
  rw [takeWhile_append_of_halts hread hrest, takeWhile_append_of_halts hread' hrest'] at htaken
  rw [dropWhile_append_of_halts hread hrest, dropWhile_append_of_halts hread' hrest'] at hdropped
  exact ⟨htaken, hdropped⟩

/-- The first of several equal marks divides a text. -/
theorem append_mark_inj {mark : Char} {read' rest' : List Char} (hread : mark ∉ read)
    (hread' : mark ∉ read') (h : read ++ mark :: rest = read' ++ mark :: rest') :
    read = read' ∧ rest = rest' := by
  have hhalts (rest : List Char) : Halts (· != mark) (mark :: rest) := by simp
  obtain ⟨hsame, hbehind⟩ := append_inj_of_halts (forall_ne_of_notMem hread) (hhalts rest)
    (forall_ne_of_notMem hread') (hhalts rest') h
  exact ⟨hsame, (List.cons.inj hbehind).2⟩

theorem skipWhile_eq (cursor : Cursor) (inClass : Char → Bool) :
    cursor.skipWhile inClass =
      ⟨(cursor.rest.takeWhile inClass).reverse ++ cursor.before,
        cursor.rest.dropWhile inClass⟩ := by
  have hskip := skip_append cursor.before (cursor.rest.takeWhile inClass)
    (cursor.rest.dropWhile inClass)
  rw [List.takeWhile_append_dropWhile] at hskip
  exact hskip

theorem textUntil_skipWhile (cursor : Cursor) (inClass : Char → Bool) :
    cursor.textUntil (cursor.skipWhile inClass) = cursor.rest.takeWhile inClass := by
  have hread := textUntil_append cursor.before (cursor.skipWhile inClass).before
    (cursor.rest.takeWhile inClass) (cursor.rest.dropWhile inClass)
  rw [skipWhile_eq] at hread ⊢
  rwa [List.takeWhile_append_dropWhile] at hread

theorem skipWhile_append (hread : ∀ ch ∈ read, inClass ch = true) (hrest : Halts inClass rest)
    (before : List Char) :
    (⟨before, read ++ rest⟩ : Cursor).skipWhile inClass = ⟨read.reverse ++ before, rest⟩ := by
  have htaken : (read ++ rest).takeWhile inClass = read :=
    takeWhile_append_of_halts hread hrest
  unfold skipWhile
  rw [htaken, skip_append]

/-- A text without the mark is passed over when the mark follows it. -/
theorem skipWhile_mark {mark : Char} (hread : mark ∉ read) (before rest : List Char) :
    (⟨before, read ++ mark :: rest⟩ : Cursor).skipWhile (· != mark) =
      ⟨read.reverse ++ before, mark :: rest⟩ := by
  have hhalts : Halts (· != mark) (mark :: rest) := by simp
  exact skipWhile_append (forall_ne_of_notMem hread) hhalts before

theorem through?_append {mark : Char} (hread : mark ∉ read) (before rest : List Char) :
    (⟨before, read ++ mark :: rest⟩ : Cursor).through? mark =
      some (read, ⟨mark :: (read.reverse ++ before), rest⟩) := by
  rw [through?, skipWhile_mark hread, char?_cons_self, Option.map_some, textUntil_append]

theorem skipWhile_of_halts (hrest : Halts inClass rest) (before : List Char) :
    (⟨before, rest⟩ : Cursor).skipWhile inClass = ⟨before, rest⟩ :=
  skipWhile_append (List.forall_mem_nil _) hrest before

theorem run?_append (hne : read ≠ []) (hread : ∀ ch ∈ read, inClass ch = true)
    (hrest : Halts inClass rest) (before : List Char) :
    (⟨before, read ++ rest⟩ : Cursor).run? inClass = some ⟨read.reverse ++ before, rest⟩ := by
  have hpeek : (⟨before, read ++ rest⟩ : Cursor).peek.any inClass = true := by
    cases read with
    | nil => contradiction
    | cons ch read => exact hread ch (by simp)
  unfold run?
  rw [if_pos hpeek, skipWhile_append hread hrest]

theorem run?_of_halts (hrest : Halts inClass rest) (before : List Char) :
    (⟨before, rest⟩ : Cursor).run? inClass = none := by
  have hpeek : (⟨before, rest⟩ : Cursor).peek.any inClass = false := hrest
  simp [run?, hpeek]

/-- What a run has read and where it has stopped. -/
theorem run?_eq_some {cursor stop : Cursor} (h : cursor.run? inClass = some stop) :
    ∃ read, read ≠ [] ∧ (∀ ch ∈ read, inClass ch = true) ∧ Halts inClass stop.rest ∧
      cursor.rest = read ++ stop.rest ∧ stop.before = read.reverse ++ cursor.before := by
  unfold run? at h
  split at h
  · next hpeek =>
      obtain rfl := Option.some.inj h
      have hsplit : cursor.rest =
          cursor.rest.takeWhile inClass ++ cursor.rest.dropWhile inClass :=
        List.takeWhile_append_dropWhile.symm
      rw [skipWhile_eq]
      refine ⟨cursor.rest.takeWhile inClass, ?_, ?_, ?_, hsplit, rfl⟩
      · intro hempty
        match hrest : cursor.rest with
        | [] => simp [peek, hrest] at hpeek
        | ch :: rest =>
            have hch : inClass ch = true := by simpa [peek, hrest] using hpeek
            simp [hrest, hch] at hempty
      · exact List.all_eq_true.mp List.all_takeWhile
      · exact halts_dropWhile inClass cursor.rest
  · contradiction

/-! ## Words and blanks -/

theorem letters?_append (fold : Char → Char) (word : String) (before rest : List Char) :
    letters? fold ⟨before, word.toList ++ rest⟩ word =
      some ⟨word.toList.reverse ++ before, rest⟩ := by
  simp [letters?, skip]

/-- A word is not read where a piece of its length differs from its beginning. -/
theorem letters?_eq_none {fold : Char → Char} {word : String} (read : List Char)
    (hlength : read.length ≤ word.toList.length)
    (hread : read.map fold ≠ (word.toList.take read.length).map fold) (before rest : List Char) :
    letters? fold ⟨before, read ++ rest⟩ word = none := by
  unfold letters?
  rw [if_neg]
  intro hsame
  have hshort := congrArg (List.take read.length) hsame
  rw [← List.map_take, ← List.map_take, List.take_take, Nat.min_eq_left hlength,
    List.take_left'  rfl] at hshort
  exact hread hshort

theorem word?_eq_none {cursor : Cursor} {word : String} (h : cursor.keyword? word = none) :
    cursor.word? word = none := by
  simp [word?, h]

theorem word?_append (word : String) {before rest : List Char}
    (hbefore : Halts isKeywordGlue before) (hrest : Halts isKeywordGlue rest) :
    (⟨before, word.toList ++ rest⟩ : Cursor).word? word =
      some ⟨word.toList.reverse ++ before, rest⟩ := by
  have hglue : (⟨before, word.toList ++ rest⟩ : Cursor).followsGlue = false := hbefore
  have hnext : (⟨word.toList.reverse ++ before, rest⟩ : Cursor).precedesGlue = false := hrest
  simp [word?, keyword?, letters?_append, hglue, hnext, Option.filter]

theorem skipSpace_of_halts {rest : List Char} (hrest : Halts isWhiteSpace rest)
    (before : List Char) : (⟨before, rest⟩ : Cursor).skipSpace = ⟨before, rest⟩ :=
  skipWhile_of_halts hrest before

theorem space?_blank {rest : List Char} (hrest : Halts isWhiteSpace rest) (before : List Char) :
    (⟨before, ' ' :: rest⟩ : Cursor).space? = some ⟨' ' :: before, rest⟩ := by
  have hblank : ∀ ch ∈ [' '], isWhiteSpace ch = true := List.forall_mem_singleton.2 (by decide)
  exact run?_append (List.cons_ne_nil ' ' []) hblank hrest before

theorem skipSpace_blank {rest : List Char} (hrest : Halts isWhiteSpace rest)
    (before : List Char) :
    (⟨before, ' ' :: rest⟩ : Cursor).skipSpace = ⟨' ' :: before, rest⟩ := by
  have hblank : ∀ ch ∈ [' '], isWhiteSpace ch = true := List.forall_mem_singleton.2 (by decide)
  exact skipWhile_append hblank hrest before

theorem halts_space_semicolon (rest : List Char) : Halts isWhiteSpace (';' :: rest) := by
  rw [halts_cons]
  decide

end Cursor

/-! ## Lists with separators -/

/-- A list joined by a mark, as a first text and further texts with the mark in front. -/
theorem intercalate_map_cons {α : Type} (mark : Char) (text : α → List Char) (first : α)
    (others : List α) :
    [mark].intercalate ((first :: others).map text) =
      text first ++ others.flatMap fun other => mark :: text other := by
  induction others generalizing first with
  | nil => simp [List.intercalate]
  | cons next others ih => simpa [List.intercalate] using ih next

/-- Entries that are read one by one, each in front of the later ones, are read together. -/
theorem separatedTail_append {α β : Type} {item : Reader α} {separator : Cursor → Option Cursor}
    {text : β → List Char} {value : β → α} {following : List Char} {entries : List β}
    (hfilled : ∀ entry ∈ entries, text entry ≠ [])
    (hentry : ∀ entry later, entry :: later <:+ entries → ∀ before,
      (separator ⟨before, text entry ++ (later.flatMap text ++ following)⟩).bind item =
        some (value entry, ⟨(text entry).reverse ++ before, later.flatMap text ++ following⟩))
    (hend : ∀ before, (separator ⟨before, following⟩).bind item = none) (before : List Char) :
    separatedTail item separator ⟨before, entries.flatMap text ++ following⟩ =
      (entries.map value, ⟨(entries.flatMap text).reverse ++ before, following⟩) := by
  induction entries generalizing before with
  | nil =>
      change separatedTail item separator ⟨before, following⟩ = ([], ⟨before, following⟩)
      rw [separatedTail, hend]
  | cons entry later ih =>
      have hlater := ih (fun other hother => hfilled other (List.mem_cons_of_mem entry hother))
        fun other rest hsuffix => hentry other rest (hsuffix.trans (List.suffix_cons entry later))
      have hless : (later.flatMap text ++ following).length <
          (text entry ++ (later.flatMap text ++ following)).length := by
        have hpositive := List.length_pos_iff.mpr (hfilled entry List.mem_cons_self)
        simp only [List.length_append]
        omega
      rw [List.flatMap_cons, List.append_assoc, separatedTail,
        hentry entry later List.suffix_rfl before]
      simp only [Cursor.remaining, if_pos hless, hlater]
      simp

end SasOutline
