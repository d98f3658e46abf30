import Endpoint.Text.Quoted

/-!
Token trees of source text: identifiers, punctuation characters, literals, and groups of tokens
between two delimiters, together with their printed form.
-/

namespace Endpoint.Source

/-- An identifier; a raw one is written with `r#` in front. -/
structure Ident where
  text : String
  raw : Bool
deriving DecidableEq, Repr, Inhabited

/-- An identifier without the raw mark. -/
def Ident.plain (text : String) : Ident := ⟨text, false⟩

/-- The identifier as written. -/
def Ident.written (ident : Ident) : String :=
  if ident.raw then "r#" ++ ident.text else ident.text

/-- The two ends of a group. -/
inductive Delimiter
  | paren
  | brace
  | bracket
deriving DecidableEq, Repr, Inhabited

/-- One token tree. A joint punctuation character is followed directly by another one and may
form an operator with it. A literal is kept as written. -/
inductive Token
  | ident (name : Ident)
  | punct (char : Char) (joint : Bool)
  | literal (text : String)
  | group (delimiter : Delimiter) (inner : List Token)
deriving Repr, Inhabited

abbrev Tokens := List Token

namespace Token

/-- A word: a plain identifier or a keyword. -/
def word (text : String) : Token := .ident (.plain text)

/-- A string literal with the given value. -/
def string (value : String) : Token := .literal (Text.quote value)

/-- The characters of an operator; all but the last are joint. -/
def operatorChars : List Char → Tokens
  | [] => []
  | [c] => [.punct c false]
  | c :: rest => .punct c true :: operatorChars rest

/-- An operator such as `::` or `->`. -/
def operator (text : String) : Tokens := operatorChars text.toList

/-- A lifetime: a joint apostrophe and a name. -/
def lifetime (name : Ident) : Tokens := [.punct Text.apostrophe true, .ident name]

def paren (inner : Tokens) : Token := .group .paren inner

def brace (inner : Tokens) : Token := .group .brace inner

def bracket (inner : Tokens) : Token := .group .bracket inner

/-- The tokens of several lists with a comma between neighbours. -/
def commaSeparated : List Tokens → Tokens
  | [] => []
  | [last] => last
  | first :: rest => first ++ .punct ',' false :: commaSeparated rest

/-- Whether no space may follow the token. -/
def clings : Token → Bool
  | .punct _ joint => joint
  | _ => false

mutual

/-- The printed form of one token tree. -/
def text : Token → String
  | .ident name => name.written
  | .punct char _ => char.toString
  | .literal written => written
  | .group .paren inner => "(" ++ listText inner ++ ")"
  | .group .bracket inner => "[" ++ listText inner ++ "]"
  | .group .brace inner =>
    "\x7b " ++ listText inner ++ (if inner.isEmpty then "\x7d" else " \x7d")

/-- The printed form of a row of token trees: one space between neighbours, none after a joint
punctuation character. -/
def listText : List Token → String
  | [] => ""
  | [last] => text last
  | first :: second :: rest =>
    text first ++ (if first.clings then "" else " ") ++ listText (second :: rest)

end

end Token

end Endpoint.Source
