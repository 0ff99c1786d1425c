import RadioLinks.Pattern.Flags
/-!
# Escapes in a pattern

A backslash takes the meaning from a sign, and gives a meaning to some letters.
-/

namespace RadioLinks.Pattern

/-- A character that stands for itself. `byte` says that it was written as a
byte, in two hexadecimal digits. -/
structure Literal where
  char : Char
  byte : Bool
  deriving DecidableEq, Repr, Inhabited

/-- What stands in a pattern without parts of its own. -/
inductive Atom where
  | literal (literal : Literal)
  /-- A named class of digits, blanks or letters. -/
  | named (negated : Bool)
  /-- The start or the end of the text. -/
  | edge
  /-- The border of a word. -/
  | border
  deriving DecidableEq, Repr, Inhabited

def hexDigit? (c : Char) : Option Nat :=
  if c.isDigit then some (c.toNat - '0'.toNat)
  else if 'a' ≤ c && c ≤ 'f' then some (c.toNat - 'a'.toNat + 10)
  else if 'A' ≤ c && c ≤ 'F' then some (c.toNat - 'A'.toNat + 10)
  else none

def readHex (flags : Flags) : Nat → Nat → List Char → Option (Nat × List Char)
  | 0, value, cs => some (value, cs)
  | count + 1, value, cs =>
      match flags.skip cs with
      | [] => none
      | c :: rest => do readHex flags count (value * 16 + (← hexDigit? c)) rest

/-- Read a character that is written as its code point. -/
def readCodePoint (flags : Flags) (count : Nat) (cs : List Char) :
    Option (Atom × List Char) := do
  let (code, rest) ← readHex flags count 0 cs
  if code.isValidChar then some (.literal ⟨Char.ofNat code, count = 2⟩, rest) else none

/-- The characters that some letters stand for. -/
def controls : List (Char × Char) :=
  [('a', '\x07'), ('f', '\x0c'), ('t', '\t'), ('n', '\n'), ('r', '\r'), ('v', '\x0b')]

/-- Whether a backslash makes a sign stand for itself. -/
def isEscapable (c : Char) : Bool :=
  c.toNat < 128 && !c.isAlphanum && c ≠ '<' && c ≠ '>'

/-- Read an escape from behind its backslash. References to groups and named
properties are refused. -/
def readEscape (flags : Flags) : List Char → Option (Atom × List Char)
  | [] => none
  | c :: rest =>
      match c with
      | 'x' => readCodePoint flags 2 rest
      | 'u' => readCodePoint flags 4 rest
      | 'U' => readCodePoint flags 8 rest
      | 'd' | 's' | 'w' => some (.named false, rest)
      | 'D' | 'S' | 'W' => some (.named true, rest)
      | 'A' | 'z' => some (.edge, rest)
      | 'b' | 'B' | '<' | '>' => some (.border, rest)
      | _ =>
          if isEscapable c then some (.literal ⟨c, false⟩, rest)
          else (controls.lookup c).map fun control => (.literal ⟨control, false⟩, rest)

def Flags.allows (flags : Flags) : Atom → Bool
  | .literal literal =>
      if flags.unicode then !flags.ignoreCase else !literal.byte || literal.char.toNat < 128
  | .named negated => !flags.unicode && !negated
  | .edge => true
  | .border => !flags.unicode

end RadioLinks.Pattern
