import RadioLinks.Binary64.Basic
/-!
# The shortest decimal of a binary number

A number is shown with the fewest digits that are rounded to it again, and of
those with the digits nearest to it. There is no exponent: zeros fill the places
up to the point, or from the point on.
-/

namespace RadioLinks.Binary64

/-- A number and the ends of the interval that is rounded to it, over one
divisor. The ends belong to the interval if the significand is even. -/
structure Interval where
  low : Nat
  value : Nat
  high : Nat
  divisor : Nat
  closed : Bool
  deriving DecidableEq, Repr, Inhabited

/-- The interval of a number. It is narrower below a power of two. -/
def interval (significand shift : Nat) : Interval :=
  let unit := Nat.pow 2 shift
  let value := 4 * significand * unit
  let below := if significand = 4503599627370496 ∧ 0 < shift then unit else 2 * unit
  ⟨value - below, value, value + 2 * unit, 4 * unitsInOne, significand % 2 = 0⟩

namespace Interval

/-- The interval of the same number multiplied by a power of ten. -/
def scaled (around : Interval) (power : Int) : Interval :=
  if 0 ≤ power then
    let factor := Nat.pow 10 power.toNat
    { around with
      low := around.low * factor, value := around.value * factor, high := around.high * factor }
  else { around with divisor := around.divisor * Nat.pow 10 (-power).toNat }

def contains (around : Interval) (whole : Nat) : Bool :=
  let place := whole * around.divisor
  if around.closed then around.low ≤ place && place ≤ around.high
  else around.low < place && place < around.high

/-- The whole number in an interval that is nearest to its value, if one of the
two neighbours of the value is in it. -/
def nearest? (around : Interval) : Option Nat :=
  let low := around.value / around.divisor
  match around.contains low, around.contains (low + 1) with
  | true, true =>
      if 2 * (around.value % around.divisor) < around.divisor then some low else some (low + 1)
  | true, false => some low
  | false, true => some (low + 1)
  | false, false => none

/-- How many digits the value has in front of the point, less the zeros that
follow the point if it has none there. -/
def wholePlaces (around : Interval) : Int :=
  let whole := around.value / around.divisor
  let zeros := (List.range 330).find? fun zeros =>
    around.divisor ≤ around.value * Nat.pow 10 (zeros + 1)
  if 0 < whole then digitCount whole else -(zeros.getD 0 : Nat)

/-- The fewest digits of a number in the interval, and their power of ten.
Seventeen digits are always enough. -/
def shortest (around : Interval) : Nat × Int :=
  let places := around.wholePlaces
  let found := (List.range 17).findSome? fun more =>
    let exponent : Int := places - (more + 1 : Nat)
    (around.scaled (-exponent)).nearest?.map fun digits => (digits, exponent)
  found.getD (0, 0)

end Interval

/-- Digits with a power of ten, without an exponent and without zeros at the
end of a fraction. -/
def positional (digits : Nat) (exponent : Int) : String :=
  let shown := (toString digits).toList
  if 0 ≤ exponent then String.ofList (shown ++ List.replicate exponent.toNat '0')
  else
    let places := (-exponent).toNat
    let filled := List.replicate (places + 1 - shown.length) '0' ++ shown
    let fraction := ((filled.drop (filled.length - places)).reverse.dropWhile (· = '0')).reverse
    let whole := filled.take (filled.length - places)
    String.ofList (if fraction.isEmpty then whole else whole ++ '.' :: fraction)

def text (number : Binary64) : String :=
  match number with
  | infinite negative => (if negative then "-" else "") ++ "inf"
  | finite negative significand shift =>
      let (digits, exponent) :=
        if significand = 0 then (0, 0) else (interval significand shift).shortest
      (if negative then "-" else "") ++ positional digits exponent

end RadioLinks.Binary64
