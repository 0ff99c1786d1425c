/-!
# Binary numbers of 64 bits

A finite number is a significand of at most 53 bits, shifted to the left, that
counts units of two to the power of -1074. A decimal number is rounded to the
nearest of them, a tie to the one with the even significand. What is too large
is infinite.
-/

namespace RadioLinks

/-- A number with a sign. Zero has one too. -/
inductive Binary64 where
  | finite (negative : Bool) (significand shift : Nat)
  | infinite (negative : Bool)
  deriving DecidableEq, Repr, Inhabited

namespace Binary64

/-- How many units make one. -/
def unitsInOne : Nat := Nat.pow 2 1074

/-- The nearest whole number to a quotient. A tie goes to the even one. -/
def roundDiv (dividend divisor : Nat) : Nat :=
  let low := dividend / divisor
  let doubled := 2 * (dividend % divisor)
  if doubled < divisor then low
  else if divisor < doubled then low + 1
  else low + low % 2

/-- Rounding moves a quotient by one half at most. -/
theorem roundDiv_near (dividend : Nat) {divisor : Nat} (positive : 0 < divisor) :
    2 * dividend ≤ 2 * (divisor * roundDiv dividend divisor) + divisor ∧
      2 * (divisor * roundDiv dividend divisor) ≤ 2 * dividend + divisor := by
  have parts := Nat.div_add_mod dividend divisor
  have small := Nat.mod_lt dividend positive
  simp only [roundDiv]
  split
  · omega
  · split
    · rw [Nat.mul_add]; omega
    · rcases Nat.mod_two_eq_zero_or_one (dividend / divisor) with even | odd
      · rw [even, Nat.add_zero]; omega
      · rw [odd, Nat.mul_add]; omega

/-- The number of decimal digits, which is none for zero. -/
def digitCount (value : Nat) : Nat := if value = 0 then 0 else (Nat.toDigits 10 value).length

/-- The nearest number to a quotient of units. -/
def ofUnits (negative : Bool) (dividend divisor : Nat) : Binary64 :=
  let whole := dividend / divisor
  let shift := if whole = 0 then 0 else whole.log2 - 52
  let significand := roundDiv dividend (divisor * Nat.pow 2 shift)
  let (significand, shift) :=
    if significand = 9007199254740992 then (4503599627370496, shift + 1) else (significand, shift)
  if shift ≤ 2045 then finite negative significand shift else infinite negative

/-- The nearest number to some digits, with a power of ten. Powers that lead far
out of the range are not computed. -/
def ofDecimal (negative : Bool) (digits : Nat) (exponent : Int) : Binary64 :=
  let magnitude := exponent + digitCount digits
  if digits = 0 ∨ magnitude < -330 then finite negative 0 0
  else if 310 < magnitude then infinite negative
  else if 0 ≤ exponent then
    ofUnits negative (digits * Nat.pow 10 exponent.toNat * unitsInOne) 1
  else ofUnits negative (digits * unitsInOne) (Nat.pow 10 (-exponent).toNat)

/-- The number in units. What is infinite lies past all that is finite. -/
def units : Binary64 → Int
  | finite negative significand shift =>
      let size : Int := (significand * Nat.pow 2 shift : Nat)
      if negative then -size else size
  | infinite negative =>
      let size : Int := (Nat.pow 2 2098 : Nat)
      if negative then -size else size

/-- The order of numbers. The two zeros are equal. -/
def order (a b : Binary64) : Ordering := compare a.units b.units

end Binary64

end RadioLinks
