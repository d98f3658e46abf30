import Endpoint.Source.Token
import Endpoint.Text.Split

/-!
Short rows of tokens from text in which they stand apart.
-/

namespace Endpoint.Source.Token

/-- The tokens of one word of a phrase: a lifetime, an identifier, or an operator. -/
def ofWord : List Char → Tokens
  | [] => []
  | c :: rest =>
    if c == Text.apostrophe then lifetime (.plain (String.ofList rest))
    else if c.isAlpha || c == '_' then [.word (String.ofList (c :: rest))]
    else operatorChars (c :: rest)

/-- The tokens of words with spaces between them. -/
def phrase (text : String) : Tokens := (Text.splitAt (· == ' ') text.toList).flatMap ofWord

end Endpoint.Source.Token
