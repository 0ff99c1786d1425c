/-!
# Text in columns

A text is first cut to a number of characters, then filled up with blanks to a
width. When a text is centred and the number of blanks is odd, the extra blank
goes to the right.
-/

namespace RadioLinks

/-- Where a text stands in a column that is wider than it. -/
inductive Alignment where
  | left
  | right
  | center
  deriving DecidableEq, Repr, Inhabited

namespace Text

/-- Blanks before and after a text that is `missing` characters short. -/
def margins (alignment : Alignment) (missing : Nat) : Nat × Nat :=
  match alignment with
  | .left => (0, missing)
  | .right => (missing, 0)
  | .center => (missing / 2, missing - missing / 2)

theorem margins_add (alignment : Alignment) (missing : Nat) :
    (margins alignment missing).1 + (margins alignment missing).2 = missing := by
  cases alignment with
  | left => simp [margins]
  | right => simp [margins]
  | center => simp only [margins]; omega

/-- Cut a text to at most `precision` characters, then fill it up to `width`. -/
def aligned (text : String) (width : Nat) (alignment : Alignment := .left)
    (precision : Option Nat := none) : String :=
  let chars := match precision with
    | none => text.toList
    | some count => text.toList.take count
  let (before, after) := margins alignment (width - chars.length)
  String.ofList (List.replicate before ' ' ++ chars ++ List.replicate after ' ')

end Text

end RadioLinks
