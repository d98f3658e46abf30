import Endpoint.Source.Token

/-!
Parsers over rows of tokens. A parser takes tokens from the front of one group and leaves the
rest, or says why it cannot; a parser that failed has taken nothing. Tokens left over inside a
group are a fault as well, but one that is only told if no other is met.
-/

namespace Endpoint.Source

/-- Why tokens are not what a rule asks for. -/
inductive Fault
  | expected (choices : List String) (atEnd : Bool)
  | keyword (word : String)
  | here (text : String) (atEnd : Bool)
  | leftOver (within : Option Delimiter)
  | rule (text : String)
deriving DecidableEq, Repr, Inhabited

/-- The choices that were open, in the order in which they were tried. -/
def Fault.choicesText : List String → String
  | [] => "unexpected token"
  | [only] => "expected " ++ only
  | [first, second] => "expected " ++ first ++ " or " ++ second
  | many => "expected one of: " ++ ", ".intercalate many

/-- The words for tokens behind all that the group between these delimiters should hold. -/
def Fault.leftOverText : Option Delimiter → String
  | none => "unexpected token"
  | some .paren => "unexpected token, expected `)`"
  | some .brace => "unexpected token, expected `\x7d`"
  | some .bracket => "unexpected token, expected `]`"

def Fault.message : Fault → String
  | .expected [] true => "unexpected end of input"
  | .expected choices true => "unexpected end of input, " ++ choicesText choices
  | .expected choices false => choicesText choices
  | .keyword word => s!"expected identifier, found keyword `{word}`"
  | .here text true => "unexpected end of input, " ++ text
  | .here text false => text
  | .leftOver within => leftOverText within
  | .rule text => text

/-- A parser. Beside the tokens it carries the first group whose tokens were not all taken. -/
abbrev Parser (α : Type) := StateT Tokens (StateT (Option Delimiter) (Except Fault)) α

instance {α : Type} : Inhabited (Parser α) := ⟨throw (.leftOver none)⟩

/-- Words that no plain identifier can be. -/
def keywords : List String :=
  ["_", "abstract", "as", "async", "await", "become", "box", "break", "const", "continue",
    "crate", "do", "dyn", "else", "enum", "extern", "false", "final", "fn", "for", "if", "impl",
    "in", "let", "loop", "macro", "match", "mod", "move", "mut", "override", "priv", "pub",
    "ref", "return", "Self", "self", "static", "struct", "super", "trait", "true", "try",
    "type", "typeof", "unsafe", "unsized", "use", "virtual", "where", "while", "yield"]

/-- Whether the identifier may stand where a name is asked for. -/
def Ident.isName (ident : Ident) : Bool := ident.raw || !keywords.contains ident.text

/-! ### Looking at tokens -/

namespace Tokens

/-- Whether the tokens begin with the characters of an operator, all but the last joint. -/
def beginWithChars : List Char → Tokens → Bool
  | [], _ => true
  | [c], .punct d _ :: _ => c == d
  | c :: rest, .punct d true :: left => c == d && beginWithChars rest left
  | _, _ => false

def beginWith (operator : String) (tokens : Tokens) : Bool :=
  beginWithChars operator.toList tokens

/-- The identifier or keyword in front. -/
def ident? : Tokens → Option Ident
  | .ident name :: _ => some name
  | _ => none

/-- Whether a name stands in front. -/
def beginWithName (tokens : Tokens) : Bool :=
  match tokens.ident? with
  | some name => name.isName
  | none => false

/-- Whether the keyword stands in front. -/
def beginWithWord (word : String) (tokens : Tokens) : Bool :=
  tokens.ident? == some (.plain word)

/-- Whether a lifetime stands in front. -/
def beginWithLifetime : Tokens → Bool
  | .punct c true :: .ident _ :: _ => c == Text.apostrophe
  | _ => false

/-- Whether a group with the delimiter stands in front. -/
def beginWithGroup (delimiter : Delimiter) : Tokens → Bool
  | .group found _ :: _ => found == delimiter
  | _ => false

/-- Whether the literal is a number. -/
def isNumber (literal : String) : Bool :=
  match literal.toList with
  | c :: _ => c.isDigit
  | [] => false

/-- Whether a literal stands in front: a literal token, `true` or `false`, or a number with a
minus sign. -/
def beginWithLiteral : Tokens → Bool
  | .literal _ :: _ => true
  | .ident name :: _ => name == .plain "true" || name == .plain "false"
  | .punct '-' _ :: .literal text :: _ => isNumber text
  | _ => false

/-- The tokens behind the first one; a lifetime and an operator of one character count as one
token each. -/
def afterOne : Tokens → Tokens
  | .punct c true :: .ident name :: rest =>
    if c == Text.apostrophe then rest else .ident name :: rest
  | _ :: rest => rest
  | [] => []

mutual

/-- The number of tokens, those inside groups included. -/
def sizeOne : Token → Nat
  | .group _ inner => size inner + 1
  | _ => 1

def size : Tokens → Nat
  | [] => 0
  | token :: rest => sizeOne token + size rest

end

end Tokens

/-! ### Taking tokens -/

namespace Parser

/-- Whether the tokens in front satisfy the test. -/
def sees (test : Tokens → Bool) : Parser Bool := return test (← get)

def seesWord (word : String) : Parser Bool := sees (Tokens.beginWithWord word)

def seesPunct (operator : String) : Parser Bool := sees (Tokens.beginWith operator)

def seesGroup (delimiter : Delimiter) : Parser Bool := sees (Tokens.beginWithGroup delimiter)

def atEnd : Parser Bool := sees List.isEmpty

/-- Gives up because none of the choices stands in front. -/
def failExpecting {α : Type} (choices : List String) : Parser α := do
  throw (.expected choices (← get).isEmpty)

/-- Gives up for the stated reason, wherever the tokens stand. -/
def refuse {α : Type} (text : String) : Parser α := throw (.rule text)

/-- Gives up for the stated reason because of what stands in front. -/
def refuseHere {α : Type} (text : String) : Parser α := do throw (.here text (← get).isEmpty)

/-- Runs the parser, or gives nothing and leaves the tokens alone if it fails. -/
def optional? {α : Type} (parser : Parser α) : Parser (Option α) := fun tokens left =>
  match parser tokens left with
  | .ok ((value, rest), left) => .ok ((some value, rest), left)
  | .error _ => .ok ((none, tokens), left)

/-- The value that the parser would give, without taking anything. -/
def ahead {α : Type} (parser : Parser α) : Parser (Option α) := fun tokens left =>
  match parser tokens left with
  | .ok ((value, _), _) => .ok ((some value, tokens), left)
  | .error _ => .ok ((none, tokens), left)

/-- The next identifier or keyword. -/
def anyIdent : Parser Ident := do
  match ← get with
  | .ident name :: rest => set rest; return name
  | _ => failExpecting ["identifier"]

/-- The next identifier, which must be a name. -/
def ident : Parser Ident := do
  match ← get with
  | .ident name :: rest =>
    if name.isName then
      set rest
      return name
    else throw (.keyword name.text)
  | _ => failExpecting ["identifier"]

/-- Takes the keyword. -/
def word (text : String) : Parser Unit := do
  if ← seesWord text then modify (List.drop 1) else failExpecting [s!"`{text}`"]

/-- Takes the keyword if it stands in front, and says whether it did. -/
def word? (text : String) : Parser Bool := do
  if ← seesWord text then
    modify (List.drop 1)
    return true
  else return false

/-- Takes the operator. The words for a missing one are the same at the end. -/
def punct (text : String) : Parser Unit := do
  if ← seesPunct text then modify (List.drop text.length) else refuse s!"expected `{text}`"

/-- Takes the operator if it stands in front, and says whether it did. -/
def punct? (text : String) : Parser Bool := do
  if ← seesPunct text then
    modify (List.drop text.length)
    return true
  else return false

/-- Takes the keyword if it may and does stand in front, and says whether it did. -/
def wordWhere? (allowed : Bool) (text : String) : Parser Bool :=
  if allowed then word? text else return false

/-- Takes the operator if it may and does stand in front, and says whether it did. -/
def punctWhere? (allowed : Bool) (text : String) : Parser Bool :=
  if allowed then punct? text else return false

/-- Takes a lifetime and gives its name. -/
def lifetime : Parser Ident := do
  match ← get with
  | .punct c true :: .ident name :: rest =>
    if c == Text.apostrophe then
      set rest
      return name
    else failExpecting ["lifetime"]
  | _ => failExpecting ["lifetime"]

/-- Takes a lifetime if one stands in front. -/
def lifetime? : Parser (Option Ident) := do
  if ← sees Tokens.beginWithLifetime then return some (← lifetime) else return none

/-- Takes a literal: one token, or a minus sign and a number. -/
def literal : Parser Tokens := do
  let tokens ← get
  if tokens.beginWithLiteral then
    match tokens with
    | .punct c _ :: number :: rest => set rest; return [.punct c false, number]
    | token :: rest => set rest; return [token]
    | [] => failExpecting ["literal"]
  else failExpecting ["literal"]

/-- Runs the parser on all the tokens of the row. -/
def whole {α : Type} (parser : Parser α) (tokens : Tokens) : Except Fault α :=
  match parser tokens none with
  | .ok ((value, []), none) => .ok value
  | .ok ((_, _ :: _), none) => .error (.leftOver none)
  | .ok (_, some within) => .error (.leftOver (some within))
  | .error fault => .error fault

/-- The words for a missing group. -/
def delimiterName : Delimiter → String
  | .paren => "parentheses"
  | .brace => "curly braces"
  | .bracket => "square brackets"

/-- Notes that tokens were left in a group, unless one was noted before. -/
def noteLeft (delimiter : Delimiter) : Parser Unit := fun tokens left =>
  .ok (((), tokens), left <|> some delimiter)

/-- Takes a group and runs the parser on all that it holds. -/
def group {α : Type} (delimiter : Delimiter) (parser : Parser α) : Parser α := do
  match ← get with
  | .group found inner :: rest =>
    if found == delimiter then
      set inner
      let value ← parser
      if !(← get).isEmpty then noteLeft found
      set rest
      return value
    else failExpecting [delimiterName delimiter]
  | _ => failExpecting [delimiterName delimiter]

/-- All tokens that are left. -/
def remaining : Parser Tokens := do
  let tokens ← get
  set ([] : Tokens)
  return tokens

/-- Repeats the step as long as it gives a value, at most once for each token that is left. -/
def repeatFor {α : Type} (step : Parser (Option α)) : Nat → Parser (List α)
  | 0 => return []
  | fuel + 1 => do
    match ← step with
    | none => return []
    | some value => return value :: (← repeatFor step fuel)

/-- Repeats the step until it gives nothing. -/
def many {α : Type} (step : Parser (Option α)) : Parser (List α) := do
  repeatFor step ((← get).length + 1)

/-- Values with a separator between them, up to where `stop` holds; the separator may also stand
behind the last. Gives the values and whether it did. -/
def separatedFor {α : Type} (separator : String) (stop : Parser Bool) (value : Parser α) :
    Nat → Parser (List α × Bool)
  | 0 => return ([], true)
  | fuel + 1 => do
    if ← stop then return ([], true)
    let first ← value
    if ← stop then return ([first], false)
    punct separator
    let (rest, trailing) ← separatedFor separator stop value fuel
    return (first :: rest, trailing)

/-- Values with commas between them, up to where `stop` holds. -/
def commas {α : Type} (stop : Parser Bool) (value : Parser α) : Parser (List α × Bool) := do
  let (values, trailing) ← separatedFor "," stop value ((← get).length + 1)
  return (values, trailing && !values.isEmpty)

/-- Values with commas between them, up to the end of the group. -/
def commasToEnd {α : Type} (value : Parser α) : Parser (List α × Bool) := commas atEnd value

/-- Values joined by plus signs: none if `stop` holds at once, else one after each plus sign
until no plus sign follows or `stop` holds behind one. -/
def plusesFor {α : Type} (stop : Parser Bool) (value : Parser α) : Nat → Parser (List α × Bool)
  | 0 => return ([], true)
  | fuel + 1 => do
    if ← stop then return ([], true)
    let first ← value
    if ← punct? "+" then
      let (rest, trailing) ← plusesFor stop value fuel
      return (first :: rest, trailing)
    else return ([first], false)

def pluses {α : Type} (stop : Parser Bool) (value : Parser α) : Parser (List α × Bool) := do
  let (values, trailing) ← plusesFor stop value ((← get).length + 1)
  return (values, trailing && !values.isEmpty)

end Parser

end Endpoint.Source
