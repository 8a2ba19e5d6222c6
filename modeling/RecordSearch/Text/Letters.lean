/-!
# ASCII letter case

Words are compared without regard to the case of the letters A to Z. Other characters have no case
here.
-/

namespace RecordSearch.Text

/-- The characters with the letters A to Z in lower case. -/
def lowerCase (s : String) : List Char := s.toList.map Char.toLower

/-- Whether two words differ at most in the case of their ASCII letters. -/
def sameLetters (left right : String) : Bool := lowerCase left == lowerCase right

theorem sameLetters_iff {left right : String} :
    sameLetters left right = true ↔ lowerCase left = lowerCase right := by
  simp [sameLetters]

end RecordSearch.Text
