/-!
A text cut at all occurrences of a character. There is always one piece more than there are
separators.
-/

namespace SchemaDraft.Text

/-- A character put before the first of some pieces. -/
def consHead (c : Char) : List (List Char) → List (List Char)
  | [] => [[c]]
  | piece :: pieces => (c :: piece) :: pieces

/-- The pieces between all occurrences of a character. -/
def piecesAt (separator : Char) : List Char → List (List Char)
  | [] => [[]]
  | c :: cs =>
    if c = separator then [] :: piecesAt separator cs else consHead c (piecesAt separator cs)

def textLines (cs : List Char) : List (List Char) := piecesAt '\n' cs

/-- There is at least one piece. -/
theorem piecesAt_ne_nil (separator : Char) (cs : List Char) : piecesAt separator cs ≠ [] := by
  cases cs with
  | nil => simp [piecesAt]
  | cons c cs =>
    unfold piecesAt
    split
    · simp
    · cases piecesAt separator cs <;> simp [consHead]

end SchemaDraft.Text
