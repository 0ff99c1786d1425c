import RadioLinks.Binary64.Reading
import RadioLinks.Binary64.Shortest
import RadioLinks.Pattern.Reading
/-!
# Values of fields

The value that a field must have is a truth value or a number if it reads as
one, and otherwise a pattern that must be matched.
-/

namespace RadioLinks.LogFilter

/-- What a field must have. -/
inductive Value where
  | truth (value : Bool)
  | real (value : Binary64)
  | notANumber
  | unsigned (value : Nat)
  | signed (value : Int)
  | pattern (text : String)
  deriving DecidableEq, Repr, Inhabited

namespace Value

/-- Read a whole number of 64 bits with a minus in front. -/
def signed? (text : String) : Option Int :=
  match text.toList with
  | '-' :: digits =>
      ((Text.decimal? digits).filter (· ≤ 9223372036854775808)).map fun size => -(size : Int)
  | _ => none

/-- Whether a text says that it is not a number. -/
def isNotANumber (text : String) : Bool :=
  String.ofList ((Binary64.sign text.toList).2.map Char.toLower) = "nan"

def ofText? (text : String) : Option Value :=
  if text = "true" then some (truth true)
  else if text = "false" then some (truth false)
  else if isNotANumber text then some notANumber
  else
    ((Text.natural64? text).map unsigned).or <|
    ((signed? text).map signed).or <|
    ((Binary64.ofText? text).map real).or <|
    if Pattern.isPattern text then some (pattern text) else none

def text : Value → String
  | truth value => if value then "true" else "false"
  | real value => value.text
  | notANumber => "NaN"
  | unsigned value => toString value
  | signed value => toString value
  | pattern text => text

def rank : Value → Nat
  | truth _ => 0
  | real _ => 1
  | notANumber => 2
  | unsigned _ => 3
  | signed _ => 4
  | pattern _ => 5

/-- Values are ordered by their kinds first. -/
def order : Value → Value → Ordering
  | truth a, truth b => compare a b
  | real a, real b => a.order b
  | unsigned a, unsigned b => compare a b
  | signed a, signed b => compare a b
  | pattern a, pattern b => compare a b
  | a, b => compare a.rank b.rank

end Value

end RadioLinks.LogFilter
