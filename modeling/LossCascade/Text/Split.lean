/-!
# Splitting texts

A text is split at every place where a character stands. The pieces are what stands between; there
is always one more of them than there are such places.
-/

namespace LossCascade.Text

/-- The runs of characters between the places where `mark` stands. -/
def pieces (mark : Char) : List Char → List (List Char)
  | [] => [[]]
  | c :: rest =>
    if c == mark then [] :: pieces mark rest
    else
      match pieces mark rest with
      | first :: more => (c :: first) :: more
      | [] => [[c]]

/-- The texts between the places where `mark` stands. -/
def split (mark : Char) (s : String) : List String :=
  (pieces mark s.toList).map String.ofList

end LossCascade.Text
