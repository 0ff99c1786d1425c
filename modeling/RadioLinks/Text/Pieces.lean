/-!
# Pieces between marks

A text is cut at every place where a mark stands. There is always one more
piece than marks, and no piece holds a mark.
-/

namespace RadioLinks.Text

def pieces (mark : Char) : List Char → List (List Char)
  | [] => [[]]
  | c :: rest =>
      if c = mark then [] :: pieces mark rest
      else match pieces mark rest with
        | [] => [[c]]
        | piece :: others => (c :: piece) :: others

/-- Even an empty text is a piece. -/
theorem pieces_ne_nil (mark : Char) (cs : List Char) : pieces mark cs ≠ [] := by
  cases cs with
  | nil => simp [pieces]
  | cons c rest =>
    simp only [pieces]
    split
    · simp
    · split <;> simp

end RadioLinks.Text
