import RadioLinks.Text.Trimmed
/-!
# Flags of a pattern

A pattern is a regular expression that is matched by a finite automaton. The
matcher has no tables of letters. So where a pattern speaks of characters and
not of bytes, it may not ignore case, use the named classes of letters, digits
and blanks, or ask for the borders of words. Where it speaks of bytes, it may
not match a part of a character.

Flags stand in a group, as in `(?x-u)`, and last until that group ends.
-/

namespace RadioLinks.Pattern

/-- The flags that decide what is accepted. -/
structure Flags where
  /-- The pattern speaks of characters, not of bytes. -/
  unicode : Bool := true
  /-- Upper and lower case are the same. -/
  ignoreCase : Bool := false
  /-- Blanks and comments do not count. -/
  verbose : Bool := false
  deriving DecidableEq, Repr, Inhabited

/-- What stands between a question mark and the end of its flags. -/
structure FlagGroup where
  /-- Every flag once, the last one first, and whether it is switched on. -/
  changes : List (Char × Bool)
  /-- Whether the flags are for a group of their own. -/
  opens : Bool
  deriving DecidableEq, Repr, Inhabited

/-- The flags there are. -/
def flagNames : List Char := ['i', 'm', 's', 'U', 'u', 'R', 'x']

/-- Read flags up to a colon or a closing parenthesis. Those after a minus are
switched off. A minus may stand once and not at the end. -/
def readFlags (negated dangling : Bool) (changes : List (Char × Bool)) :
    List Char → Option (FlagGroup × List Char)
  | [] => none
  | c :: rest =>
      if c = ':' then if dangling then none else some (⟨changes, true⟩, rest)
      else if c = ')' then
        if dangling || changes.isEmpty then none else some (⟨changes, false⟩, rest)
      else if c = '-' then if negated then none else readFlags true true changes rest
      else if flagNames.contains c && !changes.any (·.1 == c) then
        readFlags negated false ((c, !negated) :: changes) rest
      else none

namespace Flags

def apply (flags : Flags) (changes : List (Char × Bool)) : Flags where
  unicode := (changes.lookup 'u').getD flags.unicode
  ignoreCase := (changes.lookup 'i').getD flags.ignoreCase
  verbose := (changes.lookup 'x').getD flags.verbose

/-- Drop blanks, and comments from a number sign to the end of the line. -/
def dropIgnored (inComment : Bool) : List Char → List Char
  | [] => []
  | c :: rest =>
      if inComment then dropIgnored (c ≠ '\n') rest
      else if c = '#' then dropIgnored true rest
      else if Text.isBlank c then dropIgnored false rest
      else c :: rest

def skip (flags : Flags) (cs : List Char) : List Char :=
  if flags.verbose then dropIgnored false cs else cs

end Flags

end RadioLinks.Pattern
