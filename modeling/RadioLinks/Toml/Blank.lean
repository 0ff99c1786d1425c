import RadioLinks.Toml.Value
/-!
# Blanks, comments and line ends

A line ends with a line feed, alone or after a carriage return. A comment runs
to the end of its line and may not hold control characters other than tabs.
-/

namespace RadioLinks.Toml

def isBlank (c : Char) : Bool := c == ' ' || c == '\t'

/-- A character that may stand in a comment or a string: no control character
but the tab. -/
def isPrintable (c : Char) : Bool := c == '\t' || (' ' ≤ c && c != '\x7f')

def skipBlanks (cs : List Char) : List Char := cs.dropWhile isBlank

def lineEnd? : List Char → Option (List Char)
  | '\n' :: rest => some rest
  | '\r' :: '\n' :: rest => some rest
  | _ => none

def skipComment : List Char → List Char
  | '#' :: rest => rest.dropWhile isPrintable
  | cs => cs

/-- What may follow a statement on its line: blanks, a comment, and the end of
the line or of the document. -/
def statementEnd? (cs : List Char) : Option (List Char) :=
  match skipComment (skipBlanks cs) with
  | [] => some []
  | rest => lineEnd? rest

/-- Skip blanks, comments and line ends between the items of an array. Each
round takes a line end, so `rounds` never runs out when it starts at the number
of characters. A comment there must end with its line. -/
def skipLinesFor : Nat → List Char → Option (List Char)
  | 0, cs => some cs
  | rounds + 1, cs =>
      match skipBlanks cs with
      | '#' :: rest => do skipLinesFor rounds (← lineEnd? (rest.dropWhile isPrintable))
      | '\n' :: rest => skipLinesFor rounds rest
      | '\r' :: rest => do skipLinesFor rounds (← lineEnd? ('\r' :: rest))
      | rest => some rest

def skipLines? (cs : List Char) : Option (List Char) := skipLinesFor cs.length cs

end RadioLinks.Toml
