/-!
# Decimal numbers

A decimal number is an integer over a power of ten.  A quotient keeps up to 28
decimal places, fewer when its digits would not fit into 96 bits, and its last
digit is rounded to the nearest, a half to the even neighbour.  Rounding to
fewer places for display takes a half away from zero.
-/

namespace SasOutline

/-- The number `coefficient / 10 ^ places`. -/
structure Decimal where
  coefficient : Int
  places : Nat
  deriving DecidableEq, Repr

/-- The quotient to the nearest integer, a half to the even neighbour. -/
def divideHalfEven (numerator denominator : Nat) : Nat :=
  let quotient := numerator / denominator
  let twice := 2 * (numerator % denominator)
  if twice < denominator ∨ (twice = denominator ∧ quotient % 2 = 0) then quotient
  else quotient + 1

/-- The quotient to the nearest integer, a half upwards. -/
def divideHalfUp (numerator denominator : Nat) : Nat :=
  (2 * numerator + denominator) / (2 * denominator)

namespace Decimal

def tenPower (exponent : Nat) : Nat := Nat.pow 10 exponent

def maxPlaces : Nat := 28

def coefficientBound : Nat := Nat.pow 2 96

def quotientWithin (numerator denominator : Nat) : Nat → Decimal
  | 0 => ⟨divideHalfEven numerator denominator, 0⟩
  | places + 1 =>
      let coefficient := divideHalfEven (numerator * tenPower (places + 1)) denominator
      if coefficient < coefficientBound then ⟨coefficient, places + 1⟩
      else quotientWithin numerator denominator places

def quotient (numerator denominator : Nat) : Decimal :=
  quotientWithin numerator denominator maxPlaces

def one : Decimal := ⟨1, 0⟩

def complement (number : Decimal) : Decimal :=
  ⟨tenPower number.places - number.coefficient, number.places⟩

def timesHundred (number : Decimal) : Decimal :=
  ⟨100 * number.coefficient, number.places⟩

/-- The nearest number with exactly `places` decimal places, a half away from
zero. -/
def round (number : Decimal) (places : Nat) : Decimal :=
  if number.places ≤ places then
    ⟨number.coefficient * tenPower (places - number.places), places⟩
  else
    ⟨number.coefficient.sign *
      divideHalfUp number.coefficient.natAbs (tenPower (number.places - places)), places⟩

/-- Zeros at the end of the decimal places are dropped. -/
def trimmedParts (coefficient : Int) : Nat → Decimal
  | 0 => ⟨coefficient, 0⟩
  | places + 1 =>
      if coefficient % 10 = 0 then trimmedParts (coefficient / 10) places
      else ⟨coefficient, places + 1⟩

def trimmed (number : Decimal) : Decimal :=
  trimmedParts number.coefficient number.places

/-- The digits of a number below `10 ^ places`, with zeros in front. -/
def paddedDigits (number places : Nat) : String :=
  let digits := toString number
  String.ofList (List.replicate (places - digits.length) '0') ++ digits

/-- All decimal places are written, and no point when there are none. -/
def text (number : Decimal) : String :=
  let size := number.coefficient.natAbs
  let unit := tenPower number.places
  let sign := if number.coefficient < 0 then "-" else ""
  let fraction :=
    if number.places = 0 then "" else "." ++ paddedDigits (size % unit) number.places
  sign ++ toString (size / unit) ++ fraction

end Decimal

end SasOutline
