import SasOutline.Coverage
import Mathlib.Tactic
import Mathlib.Data.Rat.Floor

/-!
# Rounding the coverage

The coverage of a scan is rounded twice before it is shown: the quotient is kept to 28
decimal places, a half to the even neighbour, and the percentage to two, a half away
from zero.  A number that is rounded twice may end up next to where rounding it once
would put it.

Here it never does.  A quotient of counts below `2 ^ 64` is either half-way between two
percentages, and then it has few decimal places and the first rounding is exact, or it
keeps a distance from the half-way point that exceeds the error of the first rounding.
-/

namespace SasOutline

/-- The nearest integer, a half away from zero. -/
def nearestAwayFromZero (x : ℚ) : ℤ :=
  if 0 ≤ x then ⌊x + 1 / 2⌋ else ⌈x - 1 / 2⌉

/-- A percentage that is given in hundredths, as it is shown. -/
def percentageText (hundredths : ℕ) : String :=
  toString (hundredths / 100) ++ "." ++
    String.ofList [Nat.digitChar (hundredths / 10 % 10), Nat.digitChar (hundredths % 10)] ++ "%"

def Decimal.value (number : Decimal) : ℚ := number.coefficient / 10 ^ number.places

/-- The exact share of the characters that were not skipped, in per cent. -/
def ScanCounts.exactPercentage (counts : ScanCounts) : ℚ :=
  if counts.total = 0 then 100
  else 100 * ((counts.total : ℚ) - counts.skipped) / counts.total

/-! ## Quotients of natural numbers -/

section Quotients

variable (numerator : ℕ) {denominator : ℕ} (hpos : 0 < denominator)

include hpos

theorem quotient_add_fraction :
    (numerator : ℚ) / denominator =
      (numerator / denominator : ℕ) + ((numerator % denominator : ℕ) : ℚ) / denominator := by
  have hsplit := congrArg (Nat.cast (R := ℚ)) (Nat.div_add_mod numerator denominator)
  have hne : (denominator : ℚ) ≠ 0 := by positivity
  push_cast at hsplit
  field_simp
  linarith

theorem divideHalfEven_near :
    |(divideHalfEven numerator denominator : ℚ) - numerator / denominator| ≤ 1 / 2 := by
  have hden : (0 : ℚ) < denominator := by exact_mod_cast hpos
  have hless : numerator % denominator < denominator := Nat.mod_lt numerator hpos
  rw [quotient_add_fraction numerator hpos, divideHalfEven]
  generalize numerator / denominator = quotient at *
  generalize numerator % denominator = remainder at *
  have hfraction : (0 : ℚ) ≤ (remainder : ℚ) / denominator := by positivity
  have hone : (remainder : ℚ) / denominator < 1 := by
    rw [div_lt_one hden]
    exact_mod_cast hless
  split
  · next hdown =>
    have htwice : 2 * (remainder : ℚ) ≤ denominator := by
      have : 2 * remainder ≤ denominator := by omega
      exact_mod_cast this
    have hhalf : (remainder : ℚ) / denominator ≤ 1 / 2 := by
      rw [div_le_iff₀ hden]
      linarith
    rw [abs_le]
    constructor <;> linarith
  · next hup =>
    have htwice : (denominator : ℚ) ≤ 2 * remainder := by
      have : denominator ≤ 2 * remainder := by omega
      exact_mod_cast this
    have hhalf : 1 / 2 ≤ (remainder : ℚ) / denominator := by
      rw [le_div_iff₀ hden]
      linarith
    push_cast
    rw [abs_le]
    constructor <;> linarith

theorem divideHalfEven_of_dvd (hdvd : denominator ∣ numerator) :
    (divideHalfEven numerator denominator : ℚ) = numerator / denominator := by
  have hmod : numerator % denominator = 0 := Nat.mod_eq_zero_of_dvd hdvd
  have hne : (denominator : ℚ) ≠ 0 := by positivity
  simp only [divideHalfEven, hmod, Nat.mul_zero, hpos, true_or, if_true]
  rw [Nat.cast_div hdvd hne]

theorem divideHalfUp_eq :
    (divideHalfUp numerator denominator : ℤ) = ⌊(numerator : ℚ) / denominator + 1 / 2⌋ := by
  have hne : (denominator : ℚ) ≠ 0 := by positivity
  have hhalf : (numerator : ℚ) / denominator + 1 / 2 =
      ((2 * numerator + denominator : ℕ) : ℚ) / (2 * denominator : ℕ) := by
    push_cast
    field_simp
  rw [hhalf, Rat.floor_natCast_div_natCast]
  rfl

end Quotients

/-! ## Rounding once and rounding twice -/

theorem nearestAwayFromZero_of_nonneg {x : ℚ} (hx : 0 ≤ x) :
    nearestAwayFromZero x = ⌊x + 1 / 2⌋ :=
  if_pos hx

/-- A number next to a fraction has the same integer part when it is closer to the
fraction than the unit of the denominator, and does not lie below a fraction that is an
integer. -/
theorem floor_eq_of_near_fraction {x : ℚ} {numerator : ℤ} {denominator : ℕ}
    (hpos : 0 < denominator) (hnear : |x - numerator / denominator| < 1 / denominator)
    (hinteger : (denominator : ℤ) ∣ numerator → (numerator : ℚ) / denominator ≤ x) :
    ⌊x⌋ = ⌊(numerator : ℚ) / denominator⌋ := by
  have hden : (0 : ℚ) < denominator := by exact_mod_cast hpos
  have hdenInt : (0 : ℤ) < denominator := by exact_mod_cast hpos
  rw [Rat.floor_intCast_div_natCast, Int.floor_eq_iff]
  have hsplit : numerator % denominator + denominator * (numerator / denominator) = numerator :=
    Int.emod_add_mul_ediv numerator denominator
  have hless : numerator % denominator < denominator := Int.emod_lt_of_pos numerator hdenInt
  have hnonneg : 0 ≤ numerator % denominator := Int.emod_nonneg numerator hdenInt.ne'
  have hfraction : (numerator : ℚ) / denominator =
      (numerator / (denominator : ℤ) : ℤ) + (numerator % (denominator : ℤ) : ℤ) / denominator := by
    have hcast := congrArg (Int.cast (R := ℚ)) hsplit
    push_cast at hcast
    field_simp
    linarith
  obtain ⟨hbelow, habove⟩ := abs_lt.1 hnear
  constructor
  · by_cases hzero : numerator % (denominator : ℤ) = 0
    · have hle := hinteger (Int.dvd_of_emod_eq_zero hzero)
      rw [hfraction, hzero] at hle
      simpa using hle
    · have hunit : (1 : ℚ) / denominator ≤ (numerator % (denominator : ℤ) : ℤ) / denominator := by
        have : (1 : ℤ) ≤ numerator % (denominator : ℤ) := by omega
        gcongr
        exact_mod_cast this
      linarith
  · have hunit : ((numerator % (denominator : ℤ) : ℤ) : ℚ) / denominator + 1 / denominator ≤ 1 := by
      have : numerator % (denominator : ℤ) + 1 ≤ denominator := by omega
      rw [← add_div, div_le_one hden]
      exact_mod_cast this
    linarith

/-! ## Decimal numbers -/

theorem nearestAwayFromZero_intCast (integer : ℤ) :
    nearestAwayFromZero (integer : ℚ) = integer := by
  unfold nearestAwayFromZero
  split
  · rw [Int.floor_eq_iff]
    constructor <;> linarith
  · rw [Int.ceil_eq_iff]
    constructor <;> linarith

theorem nearestAwayFromZero_neg (x : ℚ) :
    nearestAwayFromZero (-x) = -nearestAwayFromZero x := by
  rcases lt_trichotomy x 0 with hneg | rfl | hpos
  · have hopposite : 0 ≤ -x := by linarith
    rw [nearestAwayFromZero_of_nonneg hopposite, nearestAwayFromZero, if_neg hneg.not_ge,
      ← Int.floor_neg]
    congr 1
    ring
  · have hzero := nearestAwayFromZero_intCast 0
    rw [Int.cast_zero] at hzero
    rw [neg_zero, hzero, neg_zero]
  · have hopposite : ¬ 0 ≤ -x := by linarith
    rw [nearestAwayFromZero_of_nonneg hpos.le, nearestAwayFromZero, if_neg hopposite,
      ← Int.ceil_neg]
    congr 1
    ring

theorem sign_mul_divideHalfUp (integer : ℤ) {unit : ℕ} (hpos : 0 < unit) :
    integer.sign * divideHalfUp integer.natAbs unit =
      nearestAwayFromZero ((integer : ℚ) / unit) := by
  have hmagnitude (size : ℕ) :
      (divideHalfUp size unit : ℤ) = nearestAwayFromZero ((size : ℚ) / unit) := by
    rw [divideHalfUp_eq size hpos, nearestAwayFromZero_of_nonneg (by positivity)]
  rcases lt_trichotomy integer 0 with hneg | rfl | hsign
  · have hsize : (integer.natAbs : ℚ) = -(integer : ℚ) := by
      rw [Nat.cast_natAbs, abs_of_neg hneg, Int.cast_neg]
    rw [Int.sign_eq_neg_one_of_neg hneg, hmagnitude, hsize, neg_div, nearestAwayFromZero_neg]
    ring
  · have hzero := nearestAwayFromZero_intCast 0
    rw [Int.cast_zero] at hzero
    rw [Int.sign_zero, zero_mul, Int.cast_zero, zero_div, hzero]
  · have hsize : (integer.natAbs : ℚ) = integer := by
      rw [Nat.cast_natAbs, abs_of_pos hsign]
    rw [Int.sign_eq_one_of_pos hsign, one_mul, hmagnitude, hsize]

namespace Decimal

@[simp] theorem cast_tenPower (exponent : ℕ) : ((tenPower exponent : ℕ) : ℚ) = 10 ^ exponent := by
  simp [tenPower]

/-- A number is rounded to the nearest one with the wanted decimal places. -/
theorem coefficient_round (number : Decimal) (places : ℕ) :
    (number.round places).coefficient =
      nearestAwayFromZero (number.value * 10 ^ places) := by
  unfold round value
  split
  · next hfew =>
    have hscaled : (number.coefficient : ℚ) / 10 ^ number.places * 10 ^ places =
        (number.coefficient * tenPower (places - number.places) : ℤ) := by
      push_cast
      rw [cast_tenPower]
      have hpower : (10 : ℚ) ^ places = 10 ^ number.places * 10 ^ (places - number.places) := by
        rw [← pow_add, Nat.add_sub_cancel' hfew]
      rw [hpower]
      field_simp
    rw [hscaled, nearestAwayFromZero_intCast]
  · next hmany =>
    have hscaled : (number.coefficient : ℚ) / 10 ^ number.places * 10 ^ places =
        number.coefficient / (tenPower (number.places - places) : ℕ) := by
      rw [cast_tenPower]
      have hpower : (10 : ℚ) ^ number.places = 10 ^ places * 10 ^ (number.places - places) := by
        rw [← pow_add, Nat.add_sub_cancel' (by omega)]
      rw [hpower]
      field_simp
    have hunit : 0 < tenPower (number.places - places) := Nat.pow_pos (by decide)
    rw [hscaled, sign_mul_divideHalfUp _ hunit]

theorem value_timesHundred (number : Decimal) : number.timesHundred.value = 100 * number.value := by
  unfold value timesHundred
  push_cast
  ring

theorem value_complement (number : Decimal) : number.complement.value = 1 - number.value := by
  have hne : (10 : ℚ) ^ number.places ≠ 0 := by positivity
  unfold value complement
  push_cast
  rw [cast_tenPower]
  field_simp

theorem places_round (number : Decimal) (places : ℕ) : (number.round places).places = places := by
  unfold round
  split <;> rfl

theorem value_round (number : Decimal) (places : ℕ) :
    (number.round places).value =
      nearestAwayFromZero (number.value * 10 ^ places) / 10 ^ places := by
  rw [value, coefficient_round, places_round]

theorem paddedDigits_two {number : ℕ} (hnumber : number < 100) :
    paddedDigits number 2 =
      String.ofList [Nat.digitChar (number / 10 % 10), Nat.digitChar (number % 10)] := by
  have hall : ∀ number < 100, paddedDigits number 2 =
      String.ofList [Nat.digitChar (number / 10 % 10), Nat.digitChar (number % 10)] := by
    decide
  exact hall number hnumber

/-- A number of hundredths is written as a percentage. -/
theorem text_hundredths (hundredths : ℕ) :
    (Decimal.mk hundredths 2).text ++ "%" = percentageText hundredths := by
  have hsign : ¬ (hundredths : ℤ) < 0 := by omega
  have hunit : tenPower 2 = 100 := rfl
  have hdigits : hundredths % 100 / 10 % 10 = hundredths / 10 % 10 := by omega
  have hlast : hundredths % 100 % 10 = hundredths % 10 := by omega
  simp only [text, hsign, if_false, hunit, Int.natAbs_natCast, percentageText,
    paddedDigits_two (Nat.mod_lt hundredths (by decide : 0 < 100)), hdigits, hlast]
  simp [String.append_assoc]

/-- The quotient of two counts, the smaller one above, has all 28 decimal places. -/
theorem quotient_of_le {numerator denominator : ℕ} (hle : numerator ≤ denominator) :
    quotient numerator denominator =
      ⟨divideHalfEven (numerator * tenPower 28) denominator, 28⟩ := by
  have hbound : divideHalfEven (numerator * tenPower 28) denominator < coefficientBound := by
    have hquotient : numerator * tenPower 28 / denominator ≤ tenPower 28 :=
      Nat.div_le_of_le_mul (Nat.mul_le_mul_right _ hle)
    have hroom : tenPower 28 + 1 < coefficientBound := by decide
    simp only [divideHalfEven]
    split <;> omega
  exact if_pos hbound

end Decimal

/-! ## Coverage -/

namespace ScanCounts

variable {counts : ScanCounts}

/-- The share of the skipped characters, in units of the last decimal place. -/
def skippedUnits (counts : ScanCounts) : ℕ :=
  divideHalfEven (counts.skipped * Decimal.tenPower 28) counts.total

theorem exactPercentage_nonneg (hskipped : counts.skipped ≤ counts.total) :
    0 ≤ counts.exactPercentage := by
  have hcounted : 0 ≤ (counts.total : ℚ) - counts.skipped := by
    rw [sub_nonneg]
    exact_mod_cast hskipped
  unfold exactPercentage
  split <;> positivity

section Counted

variable (hpos : 0 < counts.total) (hskipped : counts.skipped ≤ counts.total)

include hpos

theorem skippedUnits_near :
    |(counts.skippedUnits : ℚ) - counts.skipped * 10 ^ 28 / counts.total| ≤ 1 / 2 := by
  have hnear := divideHalfEven_near (counts.skipped * Decimal.tenPower 28) hpos
  push_cast [Decimal.cast_tenPower] at hnear
  exact hnear

theorem skippedUnits_of_dvd (hdvd : counts.total ∣ counts.skipped * 10 ^ 28) :
    (counts.skippedUnits : ℚ) = counts.skipped * 10 ^ 28 / counts.total := by
  have hexact := divideHalfEven_of_dvd (counts.skipped * Decimal.tenPower 28) hpos hdvd
  push_cast [Decimal.cast_tenPower] at hexact
  exact hexact

/-- One more skipped character moves the share by more than a whole unit, so that the
rounding cannot hide it. -/
theorem skippedUnits_lt {other : ScanCounts} (htotal : counts.total < 2 ^ 64)
    (hsame : other.total = counts.total) (hmore : counts.skipped < other.skipped) :
    counts.skippedUnits < other.skippedUnits := by
  have hnear := abs_le.1 (skippedUnits_near hpos)
  have hother := abs_le.1 (skippedUnits_near (hsame ▸ hpos))
  have hden : (0 : ℚ) < counts.total := by exact_mod_cast hpos
  have hunit : (1 : ℚ) < 10 ^ 28 / counts.total := by
    rw [lt_div_iff₀ hden]
    have : ((counts.total : ℕ) : ℚ) < (2 ^ 64 : ℕ) := by exact_mod_cast htotal
    push_cast at this
    linarith
  have hgap : (counts.skipped : ℚ) * 10 ^ 28 / counts.total + 10 ^ 28 / counts.total ≤
      other.skipped * 10 ^ 28 / counts.total := by
    have hnext : (counts.skipped : ℚ) + 1 ≤ other.skipped := by exact_mod_cast hmore
    rw [← add_div]
    gcongr
    linarith
  rw [hsame] at hother
  have hless : (counts.skippedUnits : ℚ) < other.skippedUnits := by linarith
  exact_mod_cast hless

include hskipped

theorem coverage_value :
    counts.coverage.value = 1 - (counts.skippedUnits : ℚ) / 10 ^ 28 := by
  rw [coverage, if_neg hpos.ne', Decimal.value_complement, Decimal.quotient_of_le hskipped]
  rfl

theorem coverage_value_lt {other : ScanCounts} (htotal : counts.total < 2 ^ 64)
    (hsame : other.total = counts.total) (hmore : counts.skipped < other.skipped)
    (hother : other.skipped ≤ counts.total) :
    other.coverage.value < counts.coverage.value := by
  have hunits : (counts.skippedUnits : ℚ) < other.skippedUnits := by
    exact_mod_cast skippedUnits_lt hpos htotal hsame hmore
  have hotherPos : 0 < other.total := hsame ▸ hpos
  have hotherSkipped : other.skipped ≤ other.total := hsame ▸ hother
  rw [coverage_value hpos hskipped, coverage_value hotherPos hotherSkipped]
  gcongr

theorem coverage_value_of_dvd (hdvd : counts.total ∣ counts.skipped * 10 ^ 28) :
    counts.coverage.value = ((counts.total : ℚ) - counts.skipped) / counts.total := by
  have hne : (counts.total : ℚ) ≠ 0 := by positivity
  rw [coverage_value hpos hskipped, skippedUnits_of_dvd hpos hdvd]
  field_simp

theorem coverage_value_near :
    |counts.coverage.value - ((counts.total : ℚ) - counts.skipped) / counts.total| ≤
      1 / (2 * 10 ^ 28) := by
  have hne : (counts.total : ℚ) ≠ 0 := by positivity
  have hnear := skippedUnits_near hpos
  have hscaled : counts.coverage.value - ((counts.total : ℚ) - counts.skipped) / counts.total =
      -((counts.skippedUnits - counts.skipped * 10 ^ 28 / counts.total) / 10 ^ 28) := by
    rw [coverage_value hpos hskipped]
    field_simp
    ring
  rw [hscaled, abs_neg, abs_div, abs_of_pos (by positivity : (0 : ℚ) < 10 ^ 28),
    div_le_iff₀ (by positivity)]
  linarith

theorem coverage_value_eq_one_iff (htotal : counts.total < 2 ^ 64) :
    counts.coverage.value = 1 ↔ counts.skipped = 0 := by
  have hne : (counts.total : ℚ) ≠ 0 := by positivity
  constructor
  · intro hone
    by_contra hsome
    let complete : ScanCounts := { counts with skipped := 0 }
    have hcompletePos : 0 < complete.total := hpos
    have hdvd : complete.total ∣ complete.skipped * 10 ^ 28 :=
      (Nat.zero_mul (10 ^ 28)).symm ▸ Nat.dvd_zero _
    have hless : counts.coverage.value < complete.coverage.value :=
      coverage_value_lt hcompletePos (Nat.zero_le _) htotal rfl (Nat.pos_of_ne_zero hsome)
        hskipped
    have hcomplete : complete.coverage.value = ((counts.total : ℚ) - (0 : ℕ)) / counts.total :=
      coverage_value_of_dvd hcompletePos (Nat.zero_le _) hdvd
    rw [hcomplete, hone, Nat.cast_zero, sub_zero, div_self hne] at hless
    exact lt_irrefl _ hless
  · intro hnone
    have hdvd : counts.total ∣ counts.skipped * 10 ^ 28 := by simp [hnone]
    rw [coverage_value_of_dvd hpos hskipped hdvd, hnone, Nat.cast_zero, sub_zero, div_self hne]

theorem coverage_value_eq_zero_iff (htotal : counts.total < 2 ^ 64) :
    counts.coverage.value = 0 ↔ counts.skipped = counts.total := by
  constructor
  · intro hzero
    by_contra hsome
    let empty : ScanCounts := { counts with skipped := counts.total }
    have hless : empty.coverage.value < counts.coverage.value :=
      coverage_value_lt hpos hskipped htotal rfl (Nat.lt_of_le_of_ne hskipped hsome) le_rfl
    have hemptyPos : 0 < empty.total := hpos
    have hempty : empty.coverage.value = ((counts.total : ℚ) - counts.total) / counts.total :=
      coverage_value_of_dvd hemptyPos le_rfl (Nat.dvd_mul_right _ _)
    rw [hempty, hzero, sub_self, zero_div] at hless
    exact lt_irrefl _ hless
  · intro hall
    have hdvd : counts.total ∣ counts.skipped * 10 ^ 28 := hall ▸ Nat.dvd_mul_right _ _
    rw [coverage_value_of_dvd hpos hskipped hdvd, hall, sub_self, zero_div]

theorem coverage_value_mem_unit :
    0 ≤ counts.coverage.value ∧ counts.coverage.value ≤ 1 := by
  have hnone : 0 ≤ (counts.skippedUnits : ℚ) / 10 ^ 28 := by positivity
  have hall : (counts.skippedUnits : ℚ) / 10 ^ 28 ≤ 1 := by
    have hshare : (counts.skipped : ℚ) * 10 ^ 28 / counts.total ≤ 10 ^ 28 := by
      have : (counts.skipped : ℚ) ≤ counts.total := by exact_mod_cast hskipped
      rw [div_le_iff₀ (by positivity)]
      linarith
    have hbelow : (counts.skippedUnits : ℚ) < (10 ^ 28 + 1 : ℕ) := by
      have := (abs_le.1 (skippedUnits_near hpos)).2
      push_cast
      linarith
    have hunits : counts.skippedUnits ≤ 10 ^ 28 := Nat.lt_succ_iff.1 (by exact_mod_cast hbelow)
    rw [div_le_one (by positivity)]
    exact_mod_cast hunits
  rw [coverage_value hpos hskipped]
  constructor <;> linarith

/-- The percentage before its rounding, and the exact one, have the same nearest
hundredth. -/
theorem nearest_hundredth_of_coverage (htotal : counts.total < 2 ^ 64) :
    nearestAwayFromZero (100 * counts.coverage.value * 10 ^ 2) =
      nearestAwayFromZero (100 * counts.exactPercentage) := by
  have hden : (0 : ℚ) < counts.total := by exact_mod_cast hpos
  have hnonneg := (coverage_value_mem_unit hpos hskipped).1
  have hexact : 0 ≤ 100 * counts.exactPercentage :=
    mul_nonneg (by norm_num) (exactPercentage_nonneg hskipped)
  let numerator : ℤ := 20000 * ((counts.total : ℤ) - counts.skipped) + counts.total
  have hfraction : (numerator : ℚ) / (2 * counts.total : ℕ) =
      100 * counts.exactPercentage + 1 / 2 := by
    rw [exactPercentage, if_neg hpos.ne']
    push_cast [numerator]
    field_simp
    ring
  have hshift : 100 * counts.coverage.value * 10 ^ 2 + 1 / 2 -
      (numerator : ℚ) / (2 * counts.total : ℕ) = 10 ^ 4 *
        (counts.coverage.value - ((counts.total : ℚ) - counts.skipped) / counts.total) := by
    rw [hfraction, exactPercentage, if_neg hpos.ne']
    ring
  rw [nearestAwayFromZero_of_nonneg (by positivity), nearestAwayFromZero_of_nonneg hexact,
    ← hfraction]
  apply floor_eq_of_near_fraction (by omega : 0 < 2 * counts.total)
  · have hnear := coverage_value_near hpos hskipped
    have hroom : (10 : ℚ) ^ 4 * (1 / (2 * 10 ^ 28)) < 1 / (2 * counts.total : ℕ) := by
      have : ((counts.total : ℕ) : ℚ) < (2 ^ 64 : ℕ) := by exact_mod_cast htotal
      push_cast at this ⊢
      rw [lt_div_iff₀ (by positivity)]
      linarith
    rw [hshift, abs_mul, abs_of_pos (by positivity : (0 : ℚ) < 10 ^ 4)]
    calc _ ≤ (10 : ℚ) ^ 4 * (1 / (2 * 10 ^ 28)) := by gcongr
      _ < _ := hroom
  · -- Half-way between two percentages the first rounding is exact.
    intro hhalf
    have hdvd : counts.total ∣ counts.skipped * 10 ^ 28 := by
      obtain ⟨half, hhalf⟩ := hhalf
      have hfactor : ((counts.skipped * 10 ^ 28 : ℕ) : ℤ) =
          counts.total * ((20001 - 2 * half) * (5 * 10 ^ 23)) := by
        push_cast [numerator] at hhalf ⊢
        linear_combination -(5 * 10 ^ 23) * hhalf
      exact Int.natCast_dvd_natCast.1 ⟨_, hfactor⟩
    have hexactly := coverage_value_of_dvd hpos hskipped hdvd
    rw [← sub_nonneg, hshift, hexactly, sub_self, mul_zero]

end Counted

/-- A text without characters is fully covered. -/
theorem coverage_value_of_empty (hempty : counts.total = 0) : counts.coverage.value = 1 := by
  rw [coverage, if_pos hempty, Decimal.value, Decimal.one]
  norm_num

/-- The share that is shown is the exact one, rounded once. -/
theorem percentage_rounds_once (hskipped : counts.skipped ≤ counts.total)
    (htotal : counts.total < 2 ^ 64) :
    nearestAwayFromZero (100 * counts.coverage.value * 10 ^ 2) =
      nearestAwayFromZero (100 * counts.exactPercentage) := by
  rcases Nat.eq_zero_or_pos counts.total with hempty | hpos
  · rw [coverage_value_of_empty hempty, exactPercentage, if_pos hempty]
    congr 1
    norm_num
  · exact nearest_hundredth_of_coverage hpos hskipped htotal

theorem rate_eq (hskipped : counts.skipped ≤ counts.total) (htotal : counts.total < 2 ^ 64) :
    counts.rate = percentageText (nearestAwayFromZero (100 * counts.exactPercentage)).toNat := by
  have hcoefficient : counts.percentage.coefficient =
      nearestAwayFromZero (100 * counts.exactPercentage) := by
    rw [percentage, Decimal.coefficient_round, Decimal.value_timesHundred,
      percentage_rounds_once hskipped htotal]
  have hexact : 0 ≤ 100 * counts.exactPercentage :=
    mul_nonneg (by norm_num) (exactPercentage_nonneg hskipped)
  have hnonneg : 0 ≤ nearestAwayFromZero (100 * counts.exactPercentage) := by
    rw [nearestAwayFromZero_of_nonneg hexact]
    exact Int.floor_nonneg.2 (by linarith)
  have hplaces : counts.percentage.places = 2 := Decimal.places_round _ _
  have hpercentage : counts.percentage =
      ⟨(nearestAwayFromZero (100 * counts.exactPercentage)).toNat, 2⟩ := by
    calc counts.percentage
        = ⟨counts.percentage.coefficient, counts.percentage.places⟩ := rfl
      _ = _ := by rw [hcoefficient, hplaces, Int.toNat_of_nonneg hnonneg]
  rw [rate, hpercentage, Decimal.text_hundredths]

/-- The coverage is a strictly decreasing function of the skipped characters between none
and all of them, and the percentage is the exact share, rounded once. -/
theorem coverage_rounds_once (counts : ScanCounts) (hskipped : counts.skipped ≤ counts.total)
    (htotal : counts.total < 2 ^ 64) :
    (0 ≤ counts.coverage.value ∧ counts.coverage.value ≤ 1) ∧
    (counts.coverage.value = 1 ↔ counts.skipped = 0) ∧
    (counts.coverage.value = 0 ↔ counts.skipped = counts.total ∧ 0 < counts.total) ∧
    (∀ other : ScanCounts, other.total = counts.total → counts.skipped < other.skipped →
      other.skipped ≤ counts.total → other.coverage.value < counts.coverage.value) ∧
    counts.percentage.value = nearestAwayFromZero (100 * counts.exactPercentage) / 100 ∧
    counts.rate = percentageText (nearestAwayFromZero (100 * counts.exactPercentage)).toNat := by
  have hpercentage : counts.percentage.value =
      nearestAwayFromZero (100 * counts.exactPercentage) / 100 := by
    rw [percentage, Decimal.value_round, Decimal.value_timesHundred,
      percentage_rounds_once hskipped htotal]
    norm_num
  rcases Nat.eq_zero_or_pos counts.total with hempty | hpos
  · have hnone : counts.skipped = 0 := by omega
    have hvalue := coverage_value_of_empty hempty
    refine ⟨by rw [hvalue]; norm_num, by simp [hvalue, hnone], by simp [hvalue, hempty],
      fun other _ hmore hless => ?_, hpercentage, rate_eq hskipped htotal⟩
    omega
  · refine ⟨coverage_value_mem_unit hpos hskipped,
      coverage_value_eq_one_iff hpos hskipped htotal, ?_,
      fun other hsame hmore hother =>
        coverage_value_lt hpos hskipped htotal hsame hmore hother,
      hpercentage, rate_eq hskipped htotal⟩
    rw [coverage_value_eq_zero_iff hpos hskipped htotal]
    exact (and_iff_left hpos).symm

/-- One character of 800 is 0.125 per cent, half-way between two percentages. -/
theorem coverage_rounds_once_half_way :
    799 ≤ 800 ∧ 800 < 2 ^ 64 ∧ (ScanCounts.mk 800 1 799 1).rate = "0.13%" := by
  have hexact : 100 * (ScanCounts.mk 800 1 799 1).exactPercentage = 25 / 2 := by
    norm_num [ScanCounts.exactPercentage]
  have hnearest : nearestAwayFromZero (25 / 2) = 13 := by
    rw [nearestAwayFromZero_of_nonneg (by norm_num)]
    norm_num
  obtain ⟨-, -, -, -, -, hrate⟩ :=
    coverage_rounds_once (ScanCounts.mk 800 1 799 1) (by decide) (by decide)
  rw [hexact, hnearest] at hrate
  exact ⟨by decide, by decide, hrate⟩

end ScanCounts

end SasOutline
