import RadioLinks.Binary64.Basic
import RadioLinks.Text.Decimal
/-!
# Reading a binary number

A number is written in decimal: a sign, digits with a point among them or at one
end, and a power of ten. The words for infinity may be in letters of either case.
-/

namespace RadioLinks.Binary64

/-- Take a sign. The answer says whether it is a minus. -/
def sign : List Char → Bool × List Char
  | '-' :: rest => (true, rest)
  | '+' :: rest => (false, rest)
  | cs => (false, cs)

/-- Read the power of ten behind a number, to the end of the text. -/
def exponent? : List Char → Option Int
  | [] => some 0
  | mark :: rest =>
      if mark = 'e' || mark = 'E' then
        let (negative, digits) := sign rest
        (Text.decimal? digits).map fun (size : Nat) => if negative then -size else size
      else none

/-- Read a number without its sign. There must be a digit before or after the
point. -/
def unsigned? (negative : Bool) (cs : List Char) : Option Binary64 := do
  let whole := cs.takeWhile Char.isDigit
  let rest := cs.dropWhile Char.isDigit
  let (fraction, rest) := match rest with
    | '.' :: rest => (rest.takeWhile Char.isDigit, rest.dropWhile Char.isDigit)
    | rest => ([], rest)
  let digits ← Text.decimal? (whole ++ fraction)
  let exponent ← exponent? rest
  pure (ofDecimal negative digits (exponent - (fraction.length : Nat)))

def ofText? (text : String) : Option Binary64 :=
  let (negative, cs) := sign text.toList
  if ["inf", "infinity"].contains (String.ofList (cs.map Char.toLower)) then
    some (infinite negative)
  else unsigned? negative cs

end RadioLinks.Binary64
