import RadioLinks.Toml.Blank
/-!
# Strings of a configuration document

A string stands between one or three quotation marks. Double quotes allow
escapes, single quotes do not. Between three quotes a string may run over
several lines; a line end right after the opening quotes is dropped, every
other one is a line feed, and up to two quotes may stand right before the
closing ones.
-/

namespace RadioLinks.Toml

def hexDigit? (c : Char) : Option Nat :=
  if '0' ≤ c && c ≤ '9' then some (c.toNat - '0'.toNat)
  else if 'a' ≤ c && c ≤ 'f' then some (c.toNat - 'a'.toNat + 10)
  else if 'A' ≤ c && c ≤ 'F' then some (c.toNat - 'A'.toNat + 10)
  else none

/-- The character of a code point written in hexadecimal, if there is one. -/
def codePoint? (digits : List Char) : Option Char := do
  let values ← digits.mapM hexDigit?
  let code := values.foldl (fun code digit => code * 16 + digit) 0
  if code.isValidChar then some (Char.ofNat code) else none

/-- Read an escape from behind its backslash. -/
def escape? : Reader Char
  | 'b' :: rest => some ('\x08', rest)
  | 't' :: rest => some ('\t', rest)
  | 'n' :: rest => some ('\n', rest)
  | 'f' :: rest => some ('\x0c', rest)
  | 'r' :: rest => some ('\r', rest)
  | '"' :: rest => some ('"', rest)
  | '\\' :: rest => some ('\\', rest)
  | 'u' :: rest =>
      if rest.length < 4 then none
      else (codePoint? (rest.take 4)).map (·, rest.drop 4)
  | 'U' :: rest =>
      if rest.length < 8 then none
      else (codePoint? (rest.take 8)).map (·, rest.drop 8)
  | _ => none

/-- Put a character in front of what a reader gave. -/
def consTo (c : Char) (read : Option (List Char × List Char)) :
    Option (List Char × List Char) :=
  read.map fun (text, rest) => (c :: text, rest)

/-- Read a string between double quotes from behind the opening one. Each round
takes a character, so `rounds` never runs out when it starts at the number of
characters; the same holds of the other readers here. -/
def basicFor : Nat → Reader (List Char)
  | 0, _ => none
  | rounds + 1, cs =>
      match cs with
      | '"' :: rest => some ([], rest)
      | '\\' :: rest => do
          let (c, rest) ← escape? rest
          consTo c (basicFor rounds rest)
      | c :: rest => if isPrintable c then consTo c (basicFor rounds rest) else none
      | [] => none

/-- Read a string between single quotes from behind the opening one. -/
def literal : Reader (List Char)
  | '\'' :: rest => some ([], rest)
  | c :: rest => if isPrintable c then consTo c (literal rest) else none
  | [] => none

/-- Close a string of several lines. Of a row of quotes the last three close
it, and at most two more belong to it. -/
def closing? (quote : Char) (cs : List Char) : Option (List Char × List Char) :=
  let row := min 5 (cs.takeWhile (· == quote)).length
  if row < 3 then none else some (List.replicate (row - 3) quote, cs.drop row)

def skipBlankLines : List Char → List Char
  | '\n' :: rest => skipBlankLines rest
  | '\r' :: '\n' :: rest => skipBlankLines rest
  | c :: rest => if isBlank c then skipBlankLines rest else c :: rest
  | [] => []

/-- Skip the line end behind a backslash and all blanks and line ends after it.
Nothing is skipped when something else stands on the line. -/
def foldedLine? (cs : List Char) : Option (List Char) :=
  (lineEnd? (skipBlanks cs)).map skipBlankLines

/-- Read a string between three double quotes from behind the opening ones. -/
def longBasicFor : Nat → Reader (List Char)
  | 0, _ => none
  | rounds + 1, cs =>
      match closing? '"' cs with
      | some closed => some closed
      | none =>
          match cs with
          | '\\' :: rest =>
              match foldedLine? rest with
              | some rest => longBasicFor rounds rest
              | none => do
                  let (c, rest) ← escape? rest
                  consTo c (longBasicFor rounds rest)
          | '\r' :: rest => do
              consTo '\n' (longBasicFor rounds (← lineEnd? ('\r' :: rest)))
          | '\n' :: rest => consTo '\n' (longBasicFor rounds rest)
          | c :: rest => if isPrintable c then consTo c (longBasicFor rounds rest) else none
          | [] => none

/-- Read a string between three single quotes from behind the opening ones. -/
def longLiteralFor : Nat → Reader (List Char)
  | 0, _ => none
  | rounds + 1, cs =>
      match closing? '\'' cs with
      | some closed => some closed
      | none =>
          match cs with
          | '\r' :: rest => do
              consTo '\n' (longLiteralFor rounds (← lineEnd? ('\r' :: rest)))
          | '\n' :: rest => consTo '\n' (longLiteralFor rounds rest)
          | c :: rest => if isPrintable c then consTo c (longLiteralFor rounds rest) else none
          | [] => none

/-- Drop a line end that stands right here. -/
def skipLineEnd (cs : List Char) : List Char := (lineEnd? cs).getD cs

/-- Read a string of one line, with either kind of quote. -/
def shortText : Reader String
  | '"' :: rest =>
      (basicFor (rest.length + 1) rest).map fun (text, rest) => (String.ofList text, rest)
  | '\'' :: rest => (literal rest).map fun (text, rest) => (String.ofList text, rest)
  | _ => none

def anyText : Reader String
  | '"' :: '"' :: '"' :: rest =>
      let body := skipLineEnd rest
      (longBasicFor (body.length + 1) body).map fun (text, rest) => (String.ofList text, rest)
  | '\'' :: '\'' :: '\'' :: rest =>
      let body := skipLineEnd rest
      (longLiteralFor (body.length + 1) body).map fun (text, rest) => (String.ofList text, rest)
  | cs => shortText cs

end RadioLinks.Toml
