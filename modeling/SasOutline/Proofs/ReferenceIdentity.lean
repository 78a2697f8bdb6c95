import SasOutline.Proofs.CaseBlindReading
import SasOutline.Proofs.NameReading

/-!
# The identifier of a reference

A library and a dataset are joined by a dot into one name, although macro
variables bring dots of their own into both.  Reading the joined name splits it
at the joint again: no segment of a library that was read in front of a dot
takes that dot with it.  Hence two references share an identifier only if they
agree, up to case, in the library and in the dataset.
-/

namespace SasOutline

/-! ## Case mapping of ASCII texts -/

theorem caseImages_of_ascii {ch : Char} (hch : ch.toNat < 128) :
    ch ≠ 'Σ' ∧ lowerImage ch = [ch.toLower] ∧ upperImage ch = [ch.toUpper] :=
  forall_ascii (P := fun ch => ch ≠ 'Σ' ∧ lowerImage ch = [ch.toLower] ∧
    upperImage ch = [ch.toUpper]) (by decide +kernel) hch

theorem lowerCharacters_of_ascii {text : List Char} (htext : IsAscii text)
    (before : List Char) : lowerCharacters before text = text.map Char.toLower := by
  induction text generalizing before with
  | nil => rfl
  | cons ch text ih =>
      obtain ⟨hch, htext⟩ := (isAscii_cons ch text).1 htext
      have himages := caseImages_of_ascii hch
      simp [lowerCharacters, himages.1, himages.2.1, ih htext]

theorem flatMap_upperImage_of_ascii {text : List Char} (htext : IsAscii text) :
    text.flatMap upperImage = text.map Char.toUpper := by
  induction text with
  | nil => rfl
  | cons ch text ih =>
      obtain ⟨hch, htext⟩ := (isAscii_cons ch text).1 htext
      have himages := caseImages_of_ascii hch
      simp [himages.2.2, ih htext]

theorem lowerCase_of_ascii {text : String} (htext : IsAscii text.toList) :
    lowerCase text = text.toLower := by
  rw [← String.toList_inj]
  simp [lowerCase, lowerCharacters_of_ascii htext]

theorem upperCase_toLower_of_ascii {text : String} (htext : IsAscii text.toList) :
    (upperCase text.toLower).toLower = text.toLower := by
  have hback : ∀ ch ∈ text.toList, ch.toLower.toUpper.toLower = ch.toLower :=
    fun ch hch => (toLower_of_ascii (htext ch hch)).2
  rw [← String.toList_inj]
  simp only [upperCase, toList_toLower, String.toList_ofList,
    flatMap_upperImage_of_ascii (isAscii_map_toLower htext), List.map_map]
  exact List.map_congr_left hback

/-! ## Names are ASCII -/

theorem isAscii_of_isPlainText {text : List Char} (htext : IsPlainText text) : IsAscii text :=
  fun ch hch => toNat_lt_of_isNameCharacter (htext.2 ch hch)

theorem isAscii_closingDot (dotted : Bool) : IsAscii (closingDot dotted) := by
  cases dotted <;> simp [closingDot]

theorem isAscii_of_isReferenceText {raw : List Char} {dotted : Bool}
    (hraw : IsReferenceText raw dotted) : IsAscii raw := by
  cases hraw with
  | single dotted hname =>
      simp [isAscii_of_isPlainText hname, isAscii_closingDot]
  | double inside dotted houter hinner =>
      simp [isAscii_of_isPlainText houter, isAscii_of_isPlainText hinner, isAscii_closingDot]

theorem NameSegment.EndsAt.isAscii {segment : NameSegment} {following : List Char}
    (h : segment.EndsAt following) : IsAscii segment.written := by
  cases segment with
  | literal text => exact isAscii_of_isPlainText h.1
  | reference written =>
      obtain ⟨dotted, hraw, -⟩ := h
      exact isAscii_of_isReferenceText hraw

theorem IsNameReading.isAscii {segments : List NameSegment} {following : List Char}
    (h : IsNameReading segments following) : IsAscii (writtenName segments) := by
  induction segments with
  | nil => exact isAscii_nil
  | cons segment segments ih =>
      have hfirst : IsAscii segment.written := h.1.isAscii
      have hrest : IsAscii (writtenName segments) := ih h.2
      have hwritten : writtenName (segment :: segments) =
          segment.written ++ writtenName segments := rfl
      rw [hwritten, isAscii_append]
      exact ⟨hfirst, hrest⟩

theorem DynamicName.ReadsBefore.isAscii {name : DynamicName} {following : List Char}
    (h : name.ReadsBefore following) : IsAscii name.text.toList := by
  rw [DynamicName.toList_text]
  exact h.2.isAscii

/-! ## References as they are read -/

namespace DatasetReference

/-- The library as written, where an absent one is the default library. -/
def printedLibrary (object : DatasetReference) : String :=
  (object.library.map DynamicName.text).getD defaultLibrary

/-- The name as written, before any change of case. -/
def printed (object : DatasetReference) : String :=
  object.printedLibrary ++ "." ++ object.dataset.text

/-- The reference with its library spelled out and its options left off. -/
def qualified (object : DatasetReference) : DatasetReference :=
  ⟨some (object.library.getD (.ofLiteral defaultLibrary)), object.dataset, none⟩

/-- Both names are read alike when a dot joins them. -/
structure WellFormed (object : DatasetReference) : Prop where
  library : ∀ library, object.qualified.library = some library →
    ∀ following, library.ReadsBefore ('.' :: following)
  dataset : object.dataset.ReadsBefore []

end DatasetReference

theorem readsBefore_dot {name : DynamicName} {following : List Char}
    (h : name.ReadsBefore ('.' :: following)) (other : List Char) :
    name.ReadsBefore ('.' :: other) := by
  have hnone : StartsNoSegment ('.' :: other) :=
    startsNoSegment_cons not_isNameCharacter_dot (by decide) other
  exact h.replace hnone fun _ hends => hends.of_head rfl

theorem readsBefore_end {name : DynamicName} {following : List Char}
    (h : name.ReadsBefore following) : name.ReadsBefore [] :=
  h.replace startsNoSegment_nil fun _ hends => hends.nil

theorem defaultLibrary_readsBefore (following : List Char) :
    (DynamicName.ofLiteral defaultLibrary).ReadsBefore ('.' :: following) := by
  have hplain : IsPlainText defaultLibrary.toList := by decide
  exact DynamicName.ofLiteral_readsBefore hplain ⟨not_isNameCharacter_dot, by decide⟩ following

namespace Cursor

theorem qualifier?_eq_some {cursor stop : Cursor} {library : DynamicName}
    (h : cursor.qualifier? = some (library, stop)) : library.ReadsBefore ('.' :: stop.rest) := by
  obtain ⟨⟨library, first⟩, hname, h⟩ := Option.bind_eq_some_iff.1 h
  obtain ⟨stop, hdot, h⟩ := Option.bind_eq_some_iff.1 h
  obtain ⟨rfl, rfl⟩ := Prod.mk.inj (Option.some.inj h)
  have hreads := (dynamicName?_eq_some hname).1
  rwa [(char?_eq_some hdot).1] at hreads

theorem datasetName?_eq_some {cursor stop : Cursor} {dataset : DynamicName}
    (h : cursor.datasetName? = some (dataset, stop)) : dataset.ReadsBefore stop.rest := by
  rcases orElse_some h with h | ⟨-, h⟩
  · obtain ⟨middle, hdot, hname⟩ := Option.bind_eq_some_iff.1 h
    exact (dynamicName?_eq_some hname).1
  · exact (dynamicName?_eq_some h).1

theorem datasetReference?_wellFormed {cursor stop : Cursor} {object : DatasetReference}
    (h : cursor.datasetReference? = some (object, stop)) : object.WellFormed := by
  obtain ⟨⟨dataset, past⟩, hname, h⟩ := Option.bind_eq_some_iff.1 h
  obtain ⟨rfl, -⟩ := Prod.mk.inj (Option.some.inj h)
  constructor
  · intro library hlibrary following
    cases hqualifier : cursor.qualifier? with
    | none =>
        rw [hqualifier] at hlibrary
        obtain rfl := Option.some.inj hlibrary
        exact defaultLibrary_readsBefore following
    | some found =>
        rw [hqualifier] at hlibrary
        obtain rfl := Option.some.inj hlibrary
        exact readsBefore_dot (qualifier?_eq_some hqualifier) following
  · exact readsBefore_end (datasetName?_eq_some hname)

end Cursor

/-! ## Reading a joined name -/

theorem DynamicName.ReadsBefore.head_ne_dot {name : DynamicName}
    (h : name.ReadsBefore []) : name.text.toList.head? ≠ some '.' := by
  intro hhead
  have hread := Cursor.dynamicName?_of_readsBefore h []
  cases htext : name.text.toList with
  | nil => simp [htext] at hhead
  | cons ch rest =>
      obtain rfl : ch = '.' := by simpa [htext] using hhead
      have hnone := Cursor.dynamicName?_eq_none_of_startsNoSegment
        (startsNoSegment_cons not_isNameCharacter_dot (by decide) rest) []
      rw [List.append_nil, htext, hnone] at hread
      contradiction

namespace DatasetReference

variable {object first second : DatasetReference}

theorem libraryName_eq (object : DatasetReference) :
    object.libraryName = lowerCase object.printedLibrary := by
  unfold libraryName printedLibrary
  cases object.library with
  | some library => rfl
  | none => decide +kernel

theorem printedLibrary_qualified (object : DatasetReference) :
    object.qualified.printedLibrary = object.printedLibrary := by
  unfold qualified printedLibrary
  cases object.library <;> rfl

theorem toList_printed (object : DatasetReference) :
    object.printed.toList = object.printedLibrary.toList ++ '.' :: object.dataset.text.toList := by
  simp [printed]

theorem WellFormed.qualifier (h : object.WellFormed) :
    ∃ library, object.qualified.library = some library ∧
      library.text = object.printedLibrary ∧
      ∀ following, library.ReadsBefore ('.' :: following) := by
  exact ⟨object.library.getD (.ofLiteral defaultLibrary), rfl,
    object.printedLibrary_qualified, h.library _ rfl⟩

theorem WellFormed.read_printed (h : object.WellFormed) :
    (Cursor.ofText object.printed).datasetReference? =
      some (object.qualified, ⟨object.printed.toList.reverse, []⟩) := by
  obtain ⟨library, hlibrary, htext, hreads⟩ := h.qualifier
  let dataset := object.dataset.text.toList
  have hqualifier : (Cursor.ofText object.printed).qualifier? =
      some (library, ⟨'.' :: object.printedLibrary.toList.reverse, dataset⟩) := by
    have hname := Cursor.dynamicName?_of_readsBefore (hreads dataset) []
    rw [htext] at hname
    unfold Cursor.qualifier? Cursor.ofText
    rw [toList_printed, hname]
    simp
  have hdataset (before : List Char) : (⟨before, dataset⟩ : Cursor).datasetName? =
      some (object.dataset, ⟨dataset.reverse ++ before, []⟩) := by
    have hname := Cursor.dynamicName?_of_readsBefore h.dataset before
    rw [List.append_nil] at hname
    unfold Cursor.datasetName?
    rw [Cursor.char?_eq_none h.dataset.head_ne_dot, Option.bind_none, hname]
    rfl
  have hoptions (before : List Char) :
      (⟨before, []⟩ : Cursor).skipSpace.datasetOptions? = none := rfl
  unfold Cursor.datasetReference?
  simp only [hqualifier, optional, hdataset, hoptions, Option.bind_eq_bind, Option.bind_some]
  rw [toList_printed, ← hlibrary]
  simp [qualified, dataset]

theorem WellFormed.isAscii_library (h : object.WellFormed) :
    IsAscii object.printedLibrary.toList := by
  obtain ⟨library, -, htext, hreads⟩ := h.qualifier
  rw [← htext]
  exact (hreads []).isAscii

theorem WellFormed.isAscii_printed (h : object.WellFormed) : IsAscii object.printed.toList := by
  rw [toList_printed, isAscii_append, isAscii_cons]
  exact ⟨h.isAscii_library, by decide, h.dataset.isAscii⟩

theorem WellFormed.name_eq (h : object.WellFormed) : object.name = object.printed.toLower := by
  have hlibrary : object.libraryName = object.printedLibrary.toLower := by
    rw [libraryName_eq, lowerCase_of_ascii h.isAscii_library]
  have hdataset : object.datasetName = object.dataset.text.toLower :=
    lowerCase_of_ascii h.dataset.isAscii
  unfold name
  rw [hlibrary, hdataset, ← String.toList_inj]
  simp [printed]

theorem WellFormed.read_name (h : object.WellFormed) :
    (Cursor.ofText object.name).datasetReference? =
      some (object.qualified.lowered, Cursor.lowered ⟨object.printed.toList.reverse, []⟩) := by
  have hlowered : Cursor.ofText object.name = (Cursor.ofText object.printed).lowered := by
    rw [h.name_eq]
    simp [Cursor.ofText, Cursor.lowered]
  rw [hlowered, Cursor.datasetReference?_lowered, h.read_printed]
  rfl

theorem printedLibrary_qualified_lowered (object : DatasetReference) :
    object.qualified.lowered.printedLibrary = object.printedLibrary.toLower := by
  rw [← object.printedLibrary_qualified]
  exact DynamicName.text_lowered _

theorem dataset_qualified_lowered (object : DatasetReference) :
    object.qualified.lowered.dataset.text = object.dataset.text.toLower :=
  DynamicName.text_lowered object.dataset

theorem identifier_qualified_lowered (object : DatasetReference) :
    object.qualified.lowered.identifier = object.identifier := by
  have hlibrary : object.qualified.libraryName = object.libraryName := by
    rw [libraryName_eq, printedLibrary_qualified, libraryName_eq]
  rw [identifier_lowered]
  unfold identifier name
  rw [hlibrary]
  rfl

/-- Reading the two printed names shows where each of them is split. -/
theorem WellFormed.printed_toLower_inj (hfirst : first.WellFormed) (hsecond : second.WellFormed) :
    first.printed.toLower = second.printed.toLower ↔
      first.printedLibrary.toLower = second.printedLibrary.toLower ∧
        first.dataset.text.toLower = second.dataset.text.toLower := by
  constructor
  · intro hprinted
    have hread := hfirst.read_name
    rw [hfirst.name_eq, hprinted, ← hsecond.name_eq, hsecond.read_name] at hread
    have hsame : second.qualified.lowered = first.qualified.lowered :=
      congrArg Prod.fst (Option.some.inj hread)
    constructor
    · rw [← printedLibrary_qualified_lowered, ← hsame, printedLibrary_qualified_lowered]
    · rw [← dataset_qualified_lowered, ← hsame, dataset_qualified_lowered]
  · rintro ⟨hlibrary, hdataset⟩
    have hlibrary' := congrArg String.toList hlibrary
    have hdataset' := congrArg String.toList hdataset
    simp only [toList_toLower] at hlibrary' hdataset'
    rw [← String.toList_inj]
    simp [printed, hlibrary', hdataset']

theorem WellFormed.identifier_inj (hfirst : first.WellFormed) (hsecond : second.WellFormed) :
    first.identifier = second.identifier ↔ first.printed.toLower = second.printed.toLower := by
  unfold identifier
  rw [hfirst.name_eq, hsecond.name_eq]
  constructor
  · intro hupper
    rw [← upperCase_toLower_of_ascii hfirst.isAscii_printed, hupper,
      upperCase_toLower_of_ascii hsecond.isAscii_printed]
  · intro hlower
    rw [hlower]

end DatasetReference

/-- Two references that were read anywhere have one identifier exactly when their
libraries and their datasets agree up to case, and the canonical name of a
reference is read back whole as a reference with the same identifier. -/
theorem identifier_determines_reference {cursor cursor' stop stop' : Cursor}
    {first second : DatasetReference}
    (hfirst : cursor.datasetReference? = some (first, stop))
    (hsecond : cursor'.datasetReference? = some (second, stop')) :
    (first.identifier = second.identifier ↔
      equalIgnoringCase first.printedLibrary second.printedLibrary = true ∧
        equalIgnoringCase first.dataset.text second.dataset.text = true) ∧
    ∃ again last, (Cursor.ofText first.name).datasetReference? = some (again, last) ∧
      last.atEnd = true ∧ again.identifier = first.identifier := by
  have hfirst := Cursor.datasetReference?_wellFormed hfirst
  have hsecond := Cursor.datasetReference?_wellFormed hsecond
  constructor
  · rw [equalIgnoringCase_iff, equalIgnoringCase_iff, hfirst.identifier_inj hsecond]
    exact hfirst.printed_toLower_inj hsecond
  · exact ⟨_, _, hfirst.read_name, rfl, first.identifier_qualified_lowered⟩

/-- The library `lib&y.` keeps its dot, and the options do not count. -/
theorem identifier_of_dotted_library :
    ∃ first second stop stop',
      (Cursor.ofText "lib&y..in(keep=a);").datasetReference? = some (first, stop) ∧
      (Cursor.ofText "LIB&Y..In").datasetReference? = some (second, stop') ∧
      first.identifier = second.identifier ∧
      ∃ again last, (Cursor.ofText first.name).datasetReference? = some (again, last) ∧
        last.atEnd = true ∧ again.identifier = first.identifier := by
  let first : DatasetReference :=
    ⟨some ⟨[.literal "lib", .reference ⟨"&y."⟩]⟩, .ofLiteral "in",
      some [⟨.ofLiteral "keep", some "a"⟩]⟩
  let second : DatasetReference :=
    ⟨some ⟨[.literal "LIB", .reference ⟨"&Y."⟩]⟩, .ofLiteral "In", none⟩
  have hfirst : (Cursor.ofText "lib&y..in(keep=a);").datasetReference? =
      some (first, ⟨")a=peek(ni..y&bil".toList, [';']⟩) := by decide +kernel
  have hsecond : (Cursor.ofText "LIB&Y..In").datasetReference? =
      some (second, ⟨"nI..Y&BIL".toList, []⟩) := by decide +kernel
  have hdetermined := identifier_determines_reference hfirst hsecond
  refine ⟨first, second, _, _, hfirst, hsecond, ?_, hdetermined.2⟩
  apply hdetermined.1.2
  constructor
  · decide +kernel
  · decide +kernel

end SasOutline
