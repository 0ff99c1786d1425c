import RadioLinks.Pattern.Brackets
import RadioLinks.Text.Letter
/-!
# Reading a pattern

Only whether a text is a pattern is decided here. A pattern is made of branches,
and a branch of parts, each of which may be repeated. Groups may have names, no
two the same, and nothing is nested more than 250 levels deep.
-/

namespace RadioLinks.Pattern

/-- What a parenthesis opens. -/
inductive Opening where
  /-- A group, with its name if it has one, and the flags inside. -/
  | group (name : Option String) (flags : Flags)
  /-- Flags for the rest of the group around them. -/
  | switch (flags : Flags)
  deriving DecidableEq, Repr, Inhabited

/-- Whether a character may stand in the name of a group. -/
def isNameCharacter (c : Char) : Bool :=
  c = '_' || c = '.' || c = '[' || c = ']' || Text.isLetterOrNumber c

/-- Read the name of a group up to its angle bracket. -/
def readName (cs : List Char) : Option (String × List Char) :=
  let name := cs.takeWhile (· ≠ '>')
  match name, cs.dropWhile (· ≠ '>') with
  | first :: others, _ :: rest =>
      if (first = '_' || Text.isLetter first) && others.all isNameCharacter then
        some (String.ofList name, rest)
      else none
  | _, _ => none

/-- Read what follows an opening parenthesis. Looking around is refused. -/
def readOpening (flags : Flags) (cs : List Char) : Option (Opening × List Char) :=
  match flags.skip cs with
  | '?' :: 'P' :: '<' :: rest | '?' :: '<' :: rest =>
      (readName rest).map fun (name, rest) => (.group (some name) flags, rest)
  | '?' :: rest =>
      (readFlags false false [] rest).map fun (found, rest) =>
        if found.opens then (.group none (flags.apply found.changes), rest)
        else (.switch (flags.apply found.changes), rest)
  | rest => some (.group none flags, rest)

/-- What branches have come to so far: the depth of each part of the last
branch, which is missing for flags, and the depth of each branch before. -/
structure Branches where
  parts : List (Option Nat) := []
  before : List Nat := []
  deriving DecidableEq, Repr, Inhabited

namespace Branches

def add (branches : Branches) (depth : Option Nat) : Branches :=
  { branches with parts := depth :: branches.parts }

/-- Repeat the last part. There must be one, and it may not be flags. -/
def repeated (branches : Branches) : Option Branches :=
  match branches.parts with
  | some depth :: others => some { branches with parts := some (depth + 1) :: others }
  | _ => none

def next (branches : Branches) : Branches :=
  ⟨[], joinedDepth (branches.parts.map (·.getD 0)) :: branches.before⟩

/-- How deep the branches are nested. -/
def depth (branches : Branches) : Nat := joinedDepth branches.next.before

end Branches

/-- Read branches up to the end of the text or of their group. The answer has
their depth, the names of groups up to there, and what follows. Each round takes
a character at least, so `rounds` never runs out when it starts above the number
of characters. -/
def readBranches : Nat → Flags → List String → Branches → List Char →
    Option (Nat × List String × List Char)
  | 0, _, _, _, _ => none
  | rounds + 1, flags, names, branches, cs =>
      match flags.skip cs with
      | [] => some (branches.depth, names, [])
      | ')' :: rest => some (branches.depth, names, ')' :: rest)
      | '|' :: rest => readBranches rounds flags names branches.next rest
      | '(' :: rest => do
          match ← readOpening flags rest with
          | (.switch flags, rest) => readBranches rounds flags names (branches.add none) rest
          | (.group name inner, rest) =>
              guard (name.all fun name => !names.contains name)
              let found ← readBranches rounds inner (name.toList ++ names) {} rest
              match found with
              | (depth, names, ')' :: rest) =>
                  readBranches rounds flags names (branches.add (some (depth + 1))) rest
              | _ => none
      | '[' :: rest => do
          let (items, rest) ← openClass flags rest
          let (depth, rest) ← readClass flags rounds none items rest
          readBranches rounds flags names (branches.add (some depth)) rest
      | '?' :: rest | '*' :: rest | '+' :: rest => do
          let repeated ← branches.repeated
          match rest with
          | '?' :: rest => readBranches rounds flags names repeated rest
          | rest => readBranches rounds flags names repeated rest
      | '{' :: _ => none
      | '.' :: rest =>
          if flags.unicode then readBranches rounds flags names (branches.add (some 0)) rest
          else none
      | '^' :: rest | '$' :: rest =>
          readBranches rounds flags names (branches.add (some 0)) rest
      | '\\' :: rest => do
          let (atom, rest) ← readEscape flags rest
          guard (flags.allows atom)
          readBranches rounds flags names (branches.add (some 0)) rest
      | c :: rest =>
          if flags.allows (.literal ⟨c, false⟩) then
            readBranches rounds flags names (branches.add (some 0)) rest
          else none

def depthLimit : Nat := 250

/-- Whether a text without closing braces is a pattern. Without them an opening
brace outside brackets counts no repetitions and is refused. -/
def isPattern (text : String) : Bool :=
  let cs := text.toList
  match readBranches (cs.length + 1) {} [] {} cs with
  | some (depth, _, []) => depth ≤ depthLimit
  | _ => false

end RadioLinks.Pattern
