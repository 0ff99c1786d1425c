import RadioLinks.Toml.Statement
/-!
# Documents

Reading a document takes its statements one by one and lets each of them change
the table that the document becomes. A header says where the assignments after
it go.
-/

namespace RadioLinks.Toml

/-- A document that has been read up to some point. -/
structure Progress where
  root : Table := .opened
  /-- Where assignments go, as the path and the key of the last header. -/
  place : Option (List String × String) := none

/-- Let a statement take effect. -/
def Progress.apply (progress : Progress) : Statement → Option Progress
  | .assign path key value =>
      match progress.place with
      | none => do pure { progress with root := ← progress.root.insert path key value }
      | some (place, last) => do
          let root ← progress.root.changeAt false (Table.insert path key value) (place ++ [last])
          pure { progress with root := root }
  | .header path key => do
      pure ⟨← progress.root.openTable path key, some (path, key)⟩
  | .element path key => do
      pure ⟨← progress.root.addTable path key, some (path, key)⟩

/-- Read the statements of a document. Each round takes a line. -/
def linesFor : Nat → Progress → List Char → Option Progress
  | 0, _, _ => none
  | rounds + 1, progress, cs => do
      match skipBlanks cs with
      | [] => pure progress
      | '\n' :: rest => linesFor rounds progress rest
      | '\r' :: rest => linesFor rounds progress (← lineEnd? ('\r' :: rest))
      | '#' :: rest => linesFor rounds progress (← statementEnd? ('#' :: rest))
      | cs =>
          let (read, rest) ← statement cs
          linesFor rounds (← progress.apply read) rest

/-- The mark that may stand in front of a document. -/
def skipMark : List Char → List Char
  | '\ufeff' :: rest => rest
  | cs => cs

/-- Read a document. The answer is a table. -/
def parse? (text : String) : Option Value :=
  let cs := skipMark text.toList
  (linesFor (cs.length + 1) {} cs).map (·.root.toValue)

end RadioLinks.Toml
