import RadioLinks.Toml.Quoted
/-!
# Numbers

Whole numbers are decimal, or hexadecimal, octal or binary behind a prefix, and
lie within 64 bits with a sign. Single underscores may stand between digits. A
decimal number other than zero has no leading zero. A number with a fraction or
an exponent is refused when it is too large for double precision.
-/

namespace RadioLinks.Toml

/-- The value of a digit in a base of at most sixteen. -/
def digitIn? (base : Nat) (c : Char) : Option Nat := (hexDigit? c).filter (· < base)

/-- Read digits behind a digit. An underscore must be followed by a digit. -/
def moreDigits (base : Nat) : Reader (List Nat)
  | '_' :: c :: rest => do
      let digit ← digitIn? base c
      let (digits, rest) ← moreDigits base rest
      pure (digit :: digits, rest)
  | ['_'] => none
  | c :: rest =>
      match digitIn? base c with
      | none => some ([], c :: rest)
      | some digit => do
          let (digits, rest) ← moreDigits base rest
          pure (digit :: digits, rest)
  | [] => some ([], [])

def someDigits (base : Nat) : Reader (List Nat)
  | [] => none
  | c :: rest => do
      let digit ← digitIn? base c
      let (digits, rest) ← moreDigits base rest
      pure (digit :: digits, rest)

def ofDigits (base : Nat) (digits : List Nat) : Nat :=
  digits.foldl (fun value digit => value * base + digit) 0

/-- Read a sign. The answer says whether it is a minus. -/
def sign : List Char → Bool × List Char
  | '-' :: rest => (true, rest)
  | '+' :: rest => (false, rest)
  | cs => (false, cs)

/-- Read the digits of a decimal number. A zero stands alone. -/
def wholeDigits : Reader (List Nat)
  | '0' :: rest => some ([0], rest)
  | cs => someDigits 10 cs

/-- Accept a whole number that fits into 64 bits with a sign. -/
def inRange? (value : Int) : Option Value :=
  if -9223372036854775808 ≤ value ∧ value ≤ 9223372036854775807 then some (.integer value)
  else none

/-- Read a whole number behind the prefix of its base. -/
def prefixed (base : Nat) : Reader Value := fun cs => do
  let (digits, rest) ← someDigits base cs
  pure (← inRange? (ofDigits base digits), rest)

/-- Read the digits of a fraction, if there is one. A point must be followed by
a digit. -/
def fraction : Reader (List Nat)
  | '.' :: rest => someDigits 10 rest
  | cs => some ([], cs)

def exponent : Reader Int
  | 'e' :: rest | 'E' :: rest => do
      let (negative, rest) := sign rest
      let (digits, rest) ← someDigits 10 rest
      let size : Int := ofDigits 10 digits
      pure (if negative then -size else size, rest)
  | cs => some (0, cs)

/-- Whether `mantissa * 10 ^ exponent` is nearer to infinity than to the
largest double. Exponents far from the bound are decided by the number of
digits. -/
def overflows (mantissa : Nat) (exponent : Int) : Bool :=
  let bound := Nat.pow 2 1024 - Nat.pow 2 970
  let magnitude : Int := exponent + (Nat.toDigits 10 mantissa).length
  if mantissa = 0 ∨ magnitude < 300 then false
  else if 320 < magnitude then true
  else if 0 ≤ exponent then bound ≤ mantissa * Nat.pow 10 exponent.toNat
  else bound * Nat.pow 10 (-exponent).toNat ≤ mantissa

/-- Read a decimal number of either kind behind its sign. A negative number
without bound is let through. -/
def decimal (negative : Bool) : Reader Value := fun cs => do
  let (whole, rest) ← wholeDigits cs
  match rest with
  | '.' :: _ | 'e' :: _ | 'E' :: _ =>
      let (part, rest) ← fraction rest
      let (power, rest) ← exponent rest
      if !negative && overflows (ofDigits 10 (whole ++ part)) (power - part.length) then none
      else pure (.float (String.ofList (cs.take (cs.length - rest.length))), rest)
  | rest =>
      let size : Int := ofDigits 10 whole
      pure (← inRange? (if negative then -size else size), rest)

/-- Read infinity or no number, by name. -/
def special : Reader Value
  | 'i' :: 'n' :: 'f' :: rest => some (.float "inf", rest)
  | 'n' :: 'a' :: 'n' :: rest => some (.float "nan", rest)
  | _ => none

def number : Reader Value
  | '0' :: 'x' :: rest => prefixed 16 rest
  | '0' :: 'o' :: rest => prefixed 8 rest
  | '0' :: 'b' :: rest => prefixed 2 rest
  | cs =>
      let (negative, rest) := sign cs
      match special rest with
      | some read => some read
      | none => decimal negative rest

end RadioLinks.Toml
