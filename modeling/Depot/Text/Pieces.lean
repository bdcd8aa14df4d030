import Depot.Text.Blank

namespace Depot.Text

/-- The pieces between the characters that end one; there is always one more than there are ends. -/
def pieces (ends : Char → Bool) : List Char → List (List Char)
  | [] => [[]]
  | c :: rest =>
    if ends c then [] :: pieces ends rest
    else match pieces ends rest with
      | [] => [[c]]
      | p :: ps => (c :: p) :: ps

theorem pieces_ne_nil (ends : Char → Bool) (cs : List Char) : pieces ends cs ≠ [] := by
  cases cs with
  | nil => simp [pieces]
  | cons c rest =>
    simp only [pieces]
    split
    · simp
    · split <;> simp

def words (s : String) : List (List Char) := (pieces isBlank s.toList).filter (!·.isEmpty)

end Depot.Text
