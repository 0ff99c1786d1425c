/-!
# Values of a configuration document

A document is a table of values. Numbers with a fraction and points in time are
recognised, but nothing here reads them further: they keep their text.
-/

namespace RadioLinks.Toml

/-- A value. The entries of a table are in the order in which they were written. -/
inductive Value where
  | text (value : String)
  | integer (value : Int)
  | float (written : String)
  | boolean (value : Bool)
  | moment (written : String)
  | array (items : List Value)
  | table (entries : List (String × Value))
  deriving Repr, Inhabited

/-- A reader takes what it can from the front of the characters and gives the
rest, or refuses them. -/
abbrev Reader (α : Type) := List Char → Option (α × List Char)

/-- The deepest nesting of arrays and inline tables, and the longest dotted
key. -/
def depthLimit : Nat := 79

end RadioLinks.Toml
