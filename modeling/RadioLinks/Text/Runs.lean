/-!
# Runs of equal lines

Equal lines that follow each other are shown once, with their number.
-/

namespace RadioLinks.Text

/-- Put a line in front of counted lines. -/
def addToRuns (line : String) : List (String × Nat) → List (String × Nat)
  | [] => [(line, 1)]
  | (first, count) :: rest =>
      if line = first then (first, count + 1) :: rest else (line, 1) :: (first, count) :: rest

/-- A line and its number, which is left out when it is one. -/
def runText (run : String × Nat) : String :=
  if run.2 = 1 then run.1 else run.1 ++ " *" ++ toString run.2

/-- Show equal neighbours once. -/
def runs (lines : List String) : List String :=
  (lines.foldr addToRuns []).map runText

end RadioLinks.Text
