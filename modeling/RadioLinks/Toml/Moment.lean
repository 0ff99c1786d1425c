import RadioLinks.Text.Decimal
import RadioLinks.Toml.Value
/-!
# Points in time

A moment is a date, a time of day, or a date with a time and perhaps an offset.
Every part has a fixed number of digits, and the day must exist in its month.
-/

namespace RadioLinks.Toml

/-- Read a number of exactly `count` digits that lies between two bounds. -/
def fixedDigits (count low high : Nat) : Reader Nat := fun cs =>
  let digits := cs.take count
  if digits.length = count then do
    let value ← Text.decimal? digits
    if low ≤ value && value ≤ high then some (value, cs.drop count) else none
  else none

def mark (expected : Char) : List Char → Option (List Char)
  | c :: rest => if c = expected then some rest else none
  | [] => none

/-- Every fourth year, but of the full centuries only every fourth. -/
def isLeapYear (year : Nat) : Bool :=
  year % 4 == 0 && (year % 100 != 0 || year % 400 == 0)

def daysInMonth (year month : Nat) : Nat :=
  if month = 2 then if isLeapYear year then 29 else 28
  else if month = 4 ∨ month = 6 ∨ month = 9 ∨ month = 11 then 30
  else 31

def date? (cs : List Char) : Option (List Char) := do
  let (year, cs) ← fixedDigits 4 0 9999 cs
  let cs ← mark '-' cs
  let (month, cs) ← fixedDigits 2 1 12 cs
  let cs ← mark '-' cs
  let (_, cs) ← fixedDigits 2 1 (daysInMonth year month) cs
  pure cs

def skipFraction : List Char → List Char
  | '.' :: c :: rest => if c.isDigit then rest.dropWhile Char.isDigit else '.' :: c :: rest
  | cs => cs

def hoursMinutes? (cs : List Char) : Option (List Char) := do
  let (_, cs) ← fixedDigits 2 0 23 cs
  let cs ← mark ':' cs
  let (_, cs) ← fixedDigits 2 0 59 cs
  pure cs

/-- Take a time of day. A minute may have a leap second. -/
def time? (cs : List Char) : Option (List Char) := do
  let cs ← mark ':' (← hoursMinutes? cs)
  let (_, cs) ← fixedDigits 2 0 60 cs
  pure (skipFraction cs)

/-- Take an offset from universal time, if there is one. A sign without an
offset behind it is refused. -/
def offset? : List Char → Option (List Char)
  | 'Z' :: rest | 'z' :: rest => some rest
  | '+' :: rest | '-' :: rest => hoursMinutes? rest
  | cs => some cs

/-- Take a time and an offset behind a date, if they are there. -/
def timeAfterDate? (cs : List Char) : Option (List Char) :=
  match cs with
  | c :: rest =>
      if c == 'T' || c == 't' || c == ' ' then
        match time? rest with
        | some rest => offset? rest
        | none => some cs
      else some cs
  | [] => some cs

def moment : Reader String := fun cs =>
  let read := match date? cs with
    | some rest => timeAfterDate? rest
    | none => time? cs
  read.map fun rest => (String.ofList (cs.take (cs.length - rest.length)), rest)

end RadioLinks.Toml
