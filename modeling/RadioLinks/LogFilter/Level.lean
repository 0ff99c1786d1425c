import RadioLinks.Text.Decimal
/-!
# Log levels

A level lets through the messages that are at least as important as it says.
It is written as a word, in letters of either case, or as its number.
-/

namespace RadioLinks.LogFilter

/-- How much is let through, from nothing to everything. -/
inductive Level where
  | off
  | error
  | warn
  | info
  | debug
  | trace
  deriving DecidableEq, Repr, Inhabited

namespace Level

/-- The levels in the order of their numbers. -/
def all : List Level := [.off, .error, .warn, .info, .debug, .trace]

def name : Level → String
  | .off => "off"
  | .error => "error"
  | .warn => "warn"
  | .info => "info"
  | .debug => "debug"
  | .trace => "trace"

/-- A text with the letters from A to Z in lower case. Other letters stay. -/
def lowered (text : String) : String := String.ofList (text.toList.map Char.toLower)

/-- The level that a text stands for. Numbers may have zeros or a plus in
front. -/
def ofText? (text : String) : Option Level :=
  match Text.natural64? text with
  | some number => all[number]?
  | none => all.find? (·.name = lowered text)

end Level

end RadioLinks.LogFilter
