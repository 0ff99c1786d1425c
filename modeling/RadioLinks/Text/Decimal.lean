/-!
# Whole numbers in decimal

Digits are those from 0 to 9. Zeros in front do not matter.
-/

namespace RadioLinks.Text

/-- Read digits. There must be one at least. -/
def decimal? (digits : List Char) : Option Nat :=
  if !digits.isEmpty && digits.all Char.isDigit then
    some (digits.foldl (fun value c => value * 10 + (c.toNat - '0'.toNat)) 0)
  else none

/-- Read a whole number of at most 64 bits, perhaps with a plus in front. -/
def natural64? (text : String) : Option Nat :=
  let digits := match text.toList with
    | '+' :: digits => digits
    | digits => digits
  (decimal? digits).filter (· ≤ 18446744073709551615)

end RadioLinks.Text
