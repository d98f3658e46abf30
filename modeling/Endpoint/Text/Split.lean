/-!
Pieces of text between separators.
-/

namespace Endpoint.Text

/-- Splits at every separator. -/
def splitAt (isSeparator : Char → Bool) : List Char → List (List Char)
  | [] => [[]]
  | c :: rest =>
    if isSeparator c then [] :: splitAt isSeparator rest
    else
      match splitAt isSeparator rest with
      | first :: more => (c :: first) :: more
      | [] => [[c]]

end Endpoint.Text
