import Endpoint.Source.Grammar.Item
import Endpoint.Source.Lexer

/-!
The rules tied together, and reading from text.
-/

namespace Endpoint.Source

/-- The rules, allowed to call one another down to the given depth. -/
def Grammar.level : Nat → Grammar
  | 0 => default
  | depth + 1 =>
    let g := level depth
    ⟨g.typeRule, g.parameterRule, g.exprRule, g.aloneRule, g.patternRule, g.stmtsRule,
      g.itemRule⟩

/-- The rules for given tokens: no rule calls itself deeper than there are tokens for. -/
def Grammar.covering (tokens : Tokens) : Grammar := .level (4 * tokens.size + 16)

/-- Reads all the tokens by a rule. -/
def Tokens.parse {α : Type} (rule : Grammar → Parser α) (tokens : Tokens) : Except Fault α :=
  Parser.whole (rule (.covering tokens)) tokens

/-- The fault of text that is no row of tokens. -/
def lexicalFault : Fault := .rule "cannot parse string into token stream"

/-- Reads text by a rule. -/
def parseText {α : Type} (rule : Grammar → Parser α) (text : String) : Except Fault α :=
  match Tokens.read? text with
  | some tokens => tokens.parse rule
  | none => .error lexicalFault

/-- Whether the text is one name. -/
def isNameText (text : String) : Bool :=
  match parseText (fun _ => Parser.ident) text with
  | .ok _ => true
  | .error _ => false

/-- The text of a source file without a first line that names an interpreter. -/
def withoutInterpreter (text : String) : String :=
  let cs := match text.toList with
    | c :: rest => if c.toNat == 0xfeff then rest else c :: rest
    | [] => []
  match cs with
  | '#' :: '!' :: rest =>
    match Lexer.skipBlanks (rest.length + 1) rest with
    | '[' :: _ => String.ofList cs
    | _ => String.ofList (cs.dropWhile (· != '\n'))
  | _ => String.ofList cs

/-- Reads a source file. -/
def File.read (text : String) : Except Fault File :=
  parseText Grammar.fileRule (withoutInterpreter text)

def Ty.read (text : String) : Except Fault Ty := parseText (·.typeRule true) text

def Path.read (text : String) : Except Fault Path :=
  parseText (fun g => g.fullPath false) text

def Visibility.read (text : String) : Except Fault Visibility :=
  parseText (fun _ => Grammar.visibility) text

/-- Reads a trait behind its attributes, with nothing else in front. -/
def Trait.rule (g : Grammar) : Parser Trait := do
  let attributes ← g.outerAttributes
  g.traitItemRest attributes (← Grammar.visibility)

def Enum.rule (g : Grammar) : Parser Enum := do
  let attributes ← g.outerAttributes
  g.enumRest attributes (← Grammar.visibility)

/-- Reads a method as it stands in a trait. -/
def Method.rule (g : Grammar) : Parser Method := do
  let attributes ← g.outerAttributes
  g.method attributes .inherited false

def Method.read (text : String) : Except Fault Method := parseText Method.rule text

end Endpoint.Source
