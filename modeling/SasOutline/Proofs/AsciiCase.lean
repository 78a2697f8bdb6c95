import SasOutline.CharacterClasses
import SasOutline.LetterCase
import Mathlib.Data.String.Basic
import Mathlib.Tactic

/-!
# The case of ASCII letters

Putting the capitals of ASCII into lower case changes twenty-six characters and
leaves all others alone.  Whatever agrees on each of the twenty-six pairs
therefore agrees on a text and its lowered form: the classes of characters, the
folding of patterns, and the full lower-case mapping.
-/

namespace SasOutline

def capitals : List Char := "ABCDEFGHIJKLMNOPQRSTUVWXYZ".toList

theorem toLower_eq_or_mem_capitals (ch : Char) : ch.toLower = ch ∨ ch ∈ capitals := by
  by_cases hcapital : ch.val ≥ 'A'.val ∧ ch.val ≤ 'Z'.val
  · right
    have hfirst : 65 ≤ ch.toNat := UInt32.le_iff_toNat_le.mp hcapital.1
    have hlast : ch.toNat ≤ 90 := UInt32.le_iff_toNat_le.mp hcapital.2
    have hch : ch = Char.ofNat ch.toNat := by simp
    rw [hch]
    generalize ch.toNat = code at hfirst hlast
    interval_cases code <;> decide
  · left
    unfold Char.toLower
    rw [dif_neg hcapital]

/-- What the capitals share with their small letters does not depend on case. -/
theorem apply_toLower {α : Type} (f : Char → α)
    (hcapitals : capitals.map (fun ch => f ch.toLower) = capitals.map f) (ch : Char) :
    f ch.toLower = f ch := by
  rcases toLower_eq_or_mem_capitals ch with hsame | hcapital
  · rw [hsame]
  · exact List.map_inj_left.1 hcapitals ch hcapital

/-! ## ASCII texts -/

def IsAscii (text : List Char) : Prop := ∀ ch ∈ text, ch.toNat < 128

instance (text : List Char) : Decidable (IsAscii text) :=
  decidable_of_iff (text.all fun ch => ch.toNat < 128) (by simp [IsAscii])

@[simp] theorem isAscii_nil : IsAscii [] := by simp [IsAscii]

@[simp] theorem isAscii_cons (ch : Char) (text : List Char) :
    IsAscii (ch :: text) ↔ ch.toNat < 128 ∧ IsAscii text := by
  simp [IsAscii]

@[simp] theorem isAscii_append (first second : List Char) :
    IsAscii (first ++ second) ↔ IsAscii first ∧ IsAscii second := by
  simp [IsAscii, or_imp, forall_and]

/-- What holds of the first 128 characters holds of ASCII. -/
theorem forall_ascii {P : Char → Prop} (hall : ∀ code < 128, P (Char.ofNat code)) {ch : Char}
    (hch : ch.toNat < 128) : P ch := by
  have hcode := hall ch.toNat hch
  rwa [Char.ofNat_toNat] at hcode

/-- A small letter stays ASCII, and its capital leads back to it. -/
theorem toLower_of_ascii {ch : Char} (hch : ch.toNat < 128) :
    ch.toLower.toNat < 128 ∧ ch.toLower.toUpper.toLower = ch.toLower :=
  forall_ascii (P := fun ch => ch.toLower.toNat < 128 ∧
    ch.toLower.toUpper.toLower = ch.toLower) (by decide +kernel) hch

theorem isAscii_map_toLower {text : List Char} (htext : IsAscii text) :
    IsAscii (text.map Char.toLower) := by
  intro ch hch
  obtain ⟨letter, hletter, rfl⟩ := List.mem_map.mp hch
  exact (toLower_of_ascii (htext letter hletter)).1

/-- Only ASCII characters have a small letter that is ASCII. -/
theorem toNat_lt_of_toLower {ch : Char} (hch : ch.toLower.toNat < 128) : ch.toNat < 128 := by
  rcases toLower_eq_or_mem_capitals ch with hsame | hcapital
  · rwa [hsame] at hch
  · have hcapitals : IsAscii capitals := by decide
    exact hcapitals ch hcapital

theorem IsAscii.of_map_toLower {text other : List Char} (hother : IsAscii other)
    (h : text.map Char.toLower = other.map Char.toLower) : IsAscii text := by
  intro ch hch
  have hmem : ch.toLower ∈ other.map Char.toLower := by
    rw [← h]
    exact List.mem_map_of_mem hch
  exact toNat_lt_of_toLower (isAscii_map_toLower hother _ hmem)

theorem utf8Len_of_ascii {text : List Char} (h : IsAscii text) :
    String.utf8Len text = text.length := by
  induction text with
  | nil => rfl
  | cons ch text ih =>
      obtain ⟨hch, htext⟩ := (isAscii_cons ch text).1 h
      have hsize : ch.utf8Size = 1 := by
        rw [Char.utf8Size_eq_one_iff, UInt32.le_iff_toNat_le]
        exact Nat.le_of_lt_succ hch
      rw [String.utf8Len_cons, List.length_cons, ih htext, hsize]

/-! ## Classes of characters -/

@[simp] theorem toLower_toLower (ch : Char) : ch.toLower.toLower = ch.toLower :=
  apply_toLower Char.toLower (by decide) ch

@[simp] theorem foldedLetter_toLower (ch : Char) : foldedLetter ch.toLower = foldedLetter ch :=
  apply_toLower foldedLetter (by decide) ch

@[simp] theorem isWhiteSpace_toLower (ch : Char) : isWhiteSpace ch.toLower = isWhiteSpace ch :=
  apply_toLower isWhiteSpace (by decide) ch

@[simp] theorem isKeywordGlue_toLower (ch : Char) :
    isKeywordGlue ch.toLower = isKeywordGlue ch :=
  apply_toLower isKeywordGlue (by decide) ch

@[simp] theorem isWordCharacter_toLower (ch : Char) :
    isWordCharacter ch.toLower = isWordCharacter ch :=
  apply_toLower isWordCharacter (by decide) ch

/-- A character that is no letter of ASCII is met in a lowered text where it was
met before. -/
theorem toLower_eq_iff {mark : Char} (hmark : mark.toLower = mark ∧ mark.toUpper = mark)
    (ch : Char) : ch.toLower = mark ↔ ch = mark := by
  constructor
  · intro hlowered
    rcases toLower_eq_or_mem_capitals ch with hsame | hcapital
    · rw [← hsame, hlowered]
    · have hback : capitals.map (fun letter => letter.toLower.toUpper) = capitals.map id := by
        decide
      have hletter : ch.toLower.toUpper = ch := List.map_inj_left.1 hback ch hcapital
      rw [← hletter, hlowered, hmark.2]
  · rintro rfl
    exact hmark.1

/-! ## The full mappings -/

theorem lowerImage_toLower (ch : Char) : lowerImage ch.toLower = lowerImage ch :=
  apply_toLower lowerImage (by decide) ch

theorem isCased_toLower (ch : Char) : isCased ch.toLower = isCased ch :=
  apply_toLower isCased (by decide) ch

theorem isCaseIgnorable_toLower (ch : Char) : isCaseIgnorable ch.toLower = isCaseIgnorable ch :=
  apply_toLower isCaseIgnorable (by decide) ch

theorem opensWithCased_map_toLower (text : List Char) :
    opensWithCased (text.map Char.toLower) = opensWithCased text := by
  have hignored : isCaseIgnorable ∘ Char.toLower = isCaseIgnorable :=
    funext isCaseIgnorable_toLower
  unfold opensWithCased
  rw [List.dropWhile_map, hignored]
  cases text.dropWhile isCaseIgnorable with
  | nil => rfl
  | cons ch rest => exact isCased_toLower ch

theorem lowerCharacters_map_toLower (before text : List Char) :
    lowerCharacters (before.map Char.toLower) (text.map Char.toLower) =
      lowerCharacters before text := by
  induction text generalizing before with
  | nil => rfl
  | cons ch text ih =>
      have hsigma : ch.toLower = 'Σ' ↔ ch = 'Σ' := toLower_eq_iff (by decide) ch
      have hrest := ih (ch :: before)
      simp only [List.map_cons] at hrest
      simp only [List.map_cons, lowerCharacters, hrest, hsigma, smallSigma,
        opensWithCased_map_toLower, lowerImage_toLower]

@[simp] theorem toList_toLower (text : String) :
    text.toLower.toList = text.toList.map Char.toLower :=
  String.toList_map

theorem lowerCase_toLower (text : String) : lowerCase text.toLower = lowerCase text := by
  unfold lowerCase
  rw [toList_toLower]
  exact congrArg String.ofList (lowerCharacters_map_toLower [] text.toList)

theorem equalIgnoringCase_iff {left right : String} :
    equalIgnoringCase left right = true ↔ left.toLower = right.toLower := by
  unfold equalIgnoringCase
  rw [beq_iff_eq, ← String.toList_inj, toList_toLower, toList_toLower]

theorem toLower_toLower_text (text : String) : text.toLower.toLower = text.toLower := by
  rw [← String.toList_inj]
  simp

theorem equalIgnoringCase_toLower (left right : String) :
    equalIgnoringCase left.toLower right = equalIgnoringCase left right := by
  rw [Bool.eq_iff_iff, equalIgnoringCase_iff, equalIgnoringCase_iff, toLower_toLower_text]

end SasOutline
