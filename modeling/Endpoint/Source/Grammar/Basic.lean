import Endpoint.Source.Expression
import Endpoint.Source.Parser

/-!
The rules of the source language refer to one another. Each rule is written over a `Grammar`,
the rules it may call on smaller parts; the grammar of depth `n + 1` is built from the one of
depth `n`, so that every rule ends.
-/

namespace Endpoint.Source

/-- The rules that others call on parts of their input. -/
structure Grammar where
  /-- A type; the flag says whether bounds joined by `+` may stand without parentheses. -/
  ty : Bool → Parser Ty
  /-- A parameter bound by `for<..>`. -/
  parameter : Parser GenericParameter
  /-- An expression; the flag says whether a struct literal may stand at its top. -/
  expr : Bool → Parser Expr
  /-- An expression as a statement or as the body of an arm. -/
  alone : Parser Expr
  /-- A pattern without alternatives at its top. -/
  pattern : Parser Pattern
  /-- The statements of a block, up to its end. -/
  stmts : Parser (List Stmt)
  item : Parser Item

instance : Inhabited Grammar :=
  ⟨⟨fun _ => default, default, fun _ => default, default, default, default, default⟩⟩

namespace Grammar

/-- The tokens between a former state and now. -/
def since (start : Tokens) : Parser Tokens := do
  return start.take (start.length - (← get).length)

/-- What the parser takes, and the tokens that its value is written back as. -/
def fragment {α : Type} (write : α → Tokens) (parser : Parser α) : Parser Fragment := do
  let start ← get
  let value ← parser
  return ⟨← since start, write value⟩

/-- An expression that is kept as tokens. -/
def constant (g : Grammar) : Parser Fragment := fragment Expr.tokens (g.expr true)

/-- The statements between braces. -/
def block (g : Grammar) : Parser Block := Block.plain <$> Parser.group .brace g.stmts

end Grammar

end Endpoint.Source
