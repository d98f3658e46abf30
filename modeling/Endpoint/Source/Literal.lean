import Endpoint.Source.Grammar

/-!
Values in the arguments of attributes.
-/

namespace Endpoint.Source

/-- The value of a string literal token. -/
def Token.stringValue? : Token → Option String
  | .literal text => Text.unquote? text
  | _ => none

/-- Takes a string literal, and gives it as written and its value. -/
def Parser.stringLiteral : Parser (Token × String) := do
  match ← get with
  | token :: rest =>
    match token.stringValue? with
    | some value => set rest; return (token, value)
    | none => Parser.failExpecting ["string literal"]
  | [] => Parser.failExpecting ["string literal"]

/-- An attribute as far as its path, the way messages name it. -/
def Attribute.shown (held : Attribute) : String :=
  let names := "::".intercalate held.path.names
  (if held.inner then "#![" else "#[") ++ (if held.path.leading then "::" else "") ++ names

/-- Runs the parser on the arguments of an attribute, which must stand in a group. -/
def Attribute.parseArguments {α : Type} (held : Attribute) (parser : Parser α) :
    Except Fault α :=
  match held.content with
  | .list _ inner => Parser.whole parser inner
  | .none =>
    .error (.rule ("expected attribute arguments in parentheses: " ++ held.shown ++ "(...)]"))
  | .value _ => .error (.rule ("expected parentheses: " ++ held.shown ++ "(...)]"))

/-- The value of the one string literal that the arguments of an attribute are. -/
def Attribute.stringArgument? (held : Attribute) : Option String :=
  match held.parseArguments Parser.stringLiteral with
  | .ok (_, value) => some value
  | .error _ => none

/-- An argument `path = value`. -/
structure NamedValue where
  path : Path
  value : Expr

/-- Reads an argument `path = value`. -/
def NamedValue.rule (g : Grammar) : Parser NamedValue := do
  let path ←
    if ← Parser.seesWord "unsafe" then Path.ofIdent <$> Parser.anyIdent else Grammar.plainPath
  Parser.punct "="
  if ← Parser.sees fun tokens =>
      tokens.beginWith "#" && Tokens.beginWithGroup .bracket (tokens.drop 1) then
    Parser.refuseHere "unexpected attribute inside of attribute"
  return ⟨path, ← g.exprRule true⟩

/-- The value of an expression that is a string literal. -/
def Expr.stringValue? : Expr → Option String
  | .literal token => token.stringValue?
  | _ => none

/-- An identifier as written, raw or not. It is none if the text is not exactly one. -/
def Ident.ofWritten? (text : String) : Option Ident :=
  let (raw, bare) := if text.startsWith "r#" then (true, (text.drop 2).toString) else (false, text)
  let isIdent := match bare.toList with
    | first :: rest => Text.isIdentifierStart first && rest.all Text.isIdentifierContinue
    | [] => false
  if isIdent && !(raw && ["_", "super", "self", "Self", "crate"].contains bare) then
    some ⟨bare, raw⟩
  else none

end Endpoint.Source
