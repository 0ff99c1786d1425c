import RadioLinks.Pattern.Escape
/-!
# Bracketed classes in a pattern

Brackets hold characters, ranges, named classes and further brackets, and join
sets of them by operators of two equal signs. What is read is measured by how
deep it is nested.
-/

namespace RadioLinks.Pattern

def Flags.allowsInside (flags : Flags) : Atom → Bool
  | .literal literal => if flags.unicode then !flags.ignoreCase else literal.char.toNat < 128
  | .named negated => !flags.unicode && !negated
  | .edge | .border => false

/-- How deep parts are nested that follow each other. One part alone adds no
level. -/
def joinedDepth : List Nat → Nat
  | [] => 0
  | [depth] => depth
  | depths => 1 + depths.foldl max 0

/-- How deep a set is nested, with what stands left of it. -/
def setDepth (left : Option Nat) (items : List Nat) : Nat :=
  match left with
  | none => joinedDepth items
  | some depth => 1 + max depth (joinedDepth items)

/-- Read one atom in brackets. Most signs stand for themselves there. -/
def readMember (flags : Flags) : List Char → Option (Atom × List Char)
  | [] => none
  | '\\' :: rest => readEscape flags rest
  | c :: rest => some (.literal ⟨c, false⟩, rest)

/-- The next character that is neither a blank nor the first number sign. -/
def afterBlanks (marked : Bool) : List Char → Option Char
  | [] => none
  | c :: rest =>
      if Text.isBlank c then afterBlanks marked rest
      else if !marked && c = '#' then afterBlanks true rest
      else some c

/-- Look at what follows a dash. -/
def Flags.peek? (flags : Flags) (cs : List Char) : Option Char :=
  if flags.verbose then (afterBlanks false cs).or cs.head? else cs.head?

/-- Read an atom, or a range with both of its ends. A dash in front of a closing
bracket or another dash makes no range. -/
def readRange (flags : Flags) (cs : List Char) : Option (List Char) := do
  let (first, rest) ← readMember flags cs
  let alone := (flags.allowsInside first, flags.skip rest)
  match flags.skip rest with
  | '-' :: after =>
      if flags.peek? after = some ']' || flags.peek? after = some '-' then
        guard alone.1
        pure alone.2
      else
        let (last, rest) ← readMember flags (flags.skip after)
        match first, last with
        | .literal low, .literal high =>
            guard (low.char ≤ high.char)
            guard (flags.allowsInside first && flags.allowsInside last)
            pure rest
        | _, _ => none
  | _ =>
      guard alone.1
      pure alone.2

def classNames : List String :=
  ["alnum", "alpha", "ascii", "blank", "cntrl", "digit", "graph", "lower", "print", "punct",
    "space", "upper", "word", "xdigit"]

/-- Read a named class from behind its bracket. The answer says whether it is
negated. -/
def readNamedClass : List Char → Option (Bool × List Char)
  | ':' :: rest =>
      let (negated, rest) := match rest with
        | '^' :: rest => (true, rest)
        | rest => (false, rest)
      match rest.dropWhile (· ≠ ':') with
      | ':' :: ']' :: after =>
          if classNames.contains (String.ofList (rest.takeWhile (· ≠ ':'))) then
            some (negated, after)
          else none
      | _ => none
  | _ => none

def Flags.allowsNamedClass (flags : Flags) (negated : Bool) : Bool :=
  if flags.unicode then !flags.ignoreCase else !negated

/-- Take the dashes at the start of a class, which stand for themselves. Each
round takes one. -/
def leadingDashes (flags : Flags) : Nat → List Char → List Nat × List Char
  | rounds + 1, '-' :: rest =>
      let (dashes, rest) := leadingDashes flags rounds (flags.skip rest)
      (0 :: dashes, rest)
  | _, cs => ([], cs)

/-- Read the start of a class from behind its bracket: whether it is negated,
and what stands for itself only there. -/
def openClass (flags : Flags) (cs : List Char) : Option (List Nat × List Char) := do
  let (negated, cs) := match flags.skip cs with
    | '^' :: rest => (true, flags.skip rest)
    | rest => (false, rest)
  let (items, cs) := match leadingDashes flags cs.length cs with
    | ([], ']' :: rest) => ([0], flags.skip rest)
    | found => found
  guard (flags.unicode || !negated)
  guard (items.isEmpty || flags.allowsInside (.literal ⟨'-', false⟩))
  pure (items, cs)

/-- Read the rest of a class, up to and with its closing bracket. The answer has
the depth of the class. Each round takes a character at least, so `rounds` never
runs out when it starts above the number of characters. -/
def readClass (flags : Flags) : Nat → Option Nat → List Nat → List Char → Option (Nat × List Char)
  | 0, _, _, _ => none
  | rounds + 1, left, items, cs =>
      match flags.skip cs with
      | [] => none
      | ']' :: rest => some (1 + setDepth left items, rest)
      | '&' :: '&' :: rest | '-' :: '-' :: rest | '~' :: '~' :: rest =>
          readClass flags rounds (some (setDepth left items)) [] rest
      | '[' :: rest =>
          match readNamedClass rest with
          | some (negated, rest) =>
              if flags.allowsNamedClass negated then readClass flags rounds left (0 :: items) rest
              else none
          | none => do
              let (first, rest) ← openClass flags rest
              let (depth, rest) ← readClass flags rounds none first rest
              readClass flags rounds left (depth :: items) rest
      | cs => do readClass flags rounds left (0 :: items) (← readRange flags cs)

end RadioLinks.Pattern
