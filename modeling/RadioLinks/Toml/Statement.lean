import RadioLinks.Toml.Moment
import RadioLinks.Toml.Number
import RadioLinks.Toml.Table
/-!
# Statements

A document is a sequence of statements: a key with its value, the header of a
table, or the header of an element of an array of tables.
-/

namespace RadioLinks.Toml

/-- A character of a key without quotes. -/
def isKeyChar (c : Char) : Bool := c.isAlphanum || c == '-' || c == '_'

def keyPart : Reader String := fun cs =>
  match cs with
  | '"' :: _ | '\'' :: _ => shortText cs
  | _ =>
      let part := cs.takeWhile isKeyChar
      if part.isEmpty then none else some (String.ofList part, cs.dropWhile isKeyChar)

/-- Read the parts of a dotted key with the blanks around them. Each round
takes a part. -/
def keyPartsFor : Nat → Reader (List String)
  | 0, _ => none
  | rounds + 1, cs => do
      let (part, cs) ← keyPart (skipBlanks cs)
      match skipBlanks cs with
      | '.' :: rest => do
          let (parts, rest) ← keyPartsFor rounds rest
          pure (part :: parts, rest)
      | rest => pure ([part], rest)

/-- Read a dotted key: the path it goes along and its last part. -/
def dottedKey : Reader (List String × String) := fun cs => do
  let (parts, rest) ← keyPartsFor cs.length cs
  if depthLimit < parts.length then none
  else
    let last ← parts.getLast?
    pure ((parts.dropLast, last), rest)

/-- Read the items of an array from behind its bracket. A comma may follow the
last one. -/
def arrayItemsFor (item : Reader Value) : Nat → Reader (List Value)
  | 0, _ => none
  | rounds + 1, cs => do
      match ← skipLines? cs with
      | ']' :: rest => pure ([], rest)
      | cs =>
          let (value, cs) ← item cs
          match ← skipLines? cs with
          | ']' :: rest => pure ([value], rest)
          | ',' :: rest =>
              let (values, rest) ← arrayItemsFor item rounds rest
              pure (value :: values, rest)
          | _ => none

/-- Read a key, the sign after it, and a value. -/
def assignment (item : Reader Value) : Reader ((List String × String) × Value) := fun cs => do
  let (key, cs) ← dottedKey cs
  let cs ← mark '=' cs
  let (value, cs) ← item (skipBlanks cs)
  pure ((key, value), cs)

/-- Read the entries of an inline table into `table`, at least one. No comma may
follow the last one. -/
def inlineEntriesFor (item : Reader Value) : Nat → Table → Reader Table
  | 0, _, _ => none
  | rounds + 1, table, cs => do
      let (((path, key), value), cs) ← assignment item cs
      let table ← table.insert path key value
      match skipBlanks cs with
      | '}' :: rest => pure (table, rest)
      | ',' :: rest => inlineEntriesFor item rounds table rest
      | _ => none

/-- Read an inline table from behind its brace. -/
def inlineTable (item : Reader Value) : Reader Table := fun cs =>
  match skipBlanks cs with
  | '}' :: rest => some (.opened, rest)
  | cs => inlineEntriesFor item cs.length .opened cs

/-- Read a value that holds no others. -/
def scalar : Reader Value := fun cs =>
  match cs with
  | '"' :: _ | '\'' :: _ => (anyText cs).map fun (text, rest) => (.text text, rest)
  | 't' :: 'r' :: 'u' :: 'e' :: rest => some (.boolean true, rest)
  | 'f' :: 'a' :: 'l' :: 's' :: 'e' :: rest => some (.boolean false, rest)
  | _ =>
      match moment cs with
      | some (written, rest) => some (.moment written, rest)
      | none => number cs

/-- Read a value with at most `depth` levels of arrays and inline tables. -/
def value : Nat → Reader Value
  | 0, cs => scalar cs
  | depth + 1, cs =>
      match cs with
      | '[' :: rest =>
          (arrayItemsFor (value depth) (rest.length + 1) rest).map fun (items, rest) =>
            (.array items, rest)
      | '{' :: rest =>
          (inlineTable (value depth) rest).map fun (table, rest) => (table.toValue, rest)
      | cs => scalar cs

/-- An assignment or a header, with its key taken apart into the way to a table and the last
part. -/
inductive Statement where
  | assign (path : List String) (key : String) (value : Value)
  | header (path : List String) (key : String)
  | element (path : List String) (key : String)

/-- Read a header's key and the bracket behind it. -/
def headerKey : Reader (List String × String) := fun cs => do
  let (key, cs) ← dottedKey cs
  pure (key, ← mark ']' cs)

/-- Read a statement and the end of its line. -/
def statement : Reader Statement := fun cs => do
  let (read, rest) ← match cs with
    | '[' :: '[' :: rest => do
        let ((path, key), rest) ← headerKey rest
        pure (Statement.element path key, ← mark ']' rest)
    | '[' :: rest => do
        let ((path, key), rest) ← headerKey rest
        pure (Statement.header path key, rest)
    | cs => do
        let (((path, key), value), rest) ← assignment (value depthLimit) cs
        pure (Statement.assign path key value, rest)
  pure (read, ← statementEnd? rest)

end RadioLinks.Toml
