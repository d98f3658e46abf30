import Endpoint.Source.Grammar.Basic

/-!
Rules for attributes, paths, generic arguments and bounds.
-/

namespace Endpoint.Source.Grammar

open Source.Parser

/-- Words that may stand for a path segment although they are keywords. -/
def pathWords : List String := ["super", "self", "Self", "crate"]

/-- Whether a name or one of the path keywords stands in front. -/
def seesPathStart : Parser Bool :=
  sees fun tokens =>
    tokens.beginWithName || pathWords.any fun word => tokens.beginWithWord word

/-- A path without generic arguments, as attributes, visibilities and macro calls have it. -/
def plainPath : Parser Path := do
  let leading ← punct? "::"
  let names ← segments ((← get).length + 1)
  return .mk leading (names.map fun name => .mk name .none)
where
  segments : Nat → Parser (List Ident)
    | 0 => failExpecting ["identifier"]
    | fuel + 1 => do
      if !(← seesPathStart) then
        return [← ident]
      let first ← anyIdent
      if ← punct? "::" then
        if !(← seesPathStart) then refuseHere "expected path segment after `::`"
        return first :: (← segments fuel)
      else return [first]

/-! ### Attributes -/

/-- A group of any delimiters, as what follows the path of an attribute. -/
def attributeGroup? : Parser (Option AttributeContent) := do
  match ← get with
  | .group delimiter inner :: rest =>
    set rest
    return some (.list delimiter inner)
  | _ => return none

/-- The path and content of an attribute, between its brackets. -/
def attributeBody (g : Grammar) : Parser (Path × AttributeContent) := do
  let path ← if ← seesWord "unsafe" then Path.ofIdent <$> anyIdent else plainPath
  match ← attributeGroup? with
  | some content => return (path, content)
  | none =>
    if ← sees fun tokens =>
        tokens.beginWith "=" && !tokens.beginWith "==" && !tokens.beginWith "=>" then
      punct "="
      if ← sees fun tokens =>
          tokens.beginWith "#" && Tokens.beginWithGroup .bracket (tokens.drop 1) then
        refuseHere "unexpected attribute inside of attribute"
      return (path, .value (← g.constant))
    else return (path, .none)

/-- Attributes in front of what they belong to. -/
def outerAttributes (g : Grammar) : Parser Attributes := many do
  if ← punct? "#" then
    let (path, content) ← group .bracket (attributeBody g)
    return some ⟨false, path, content⟩
  else return none

/-- Attributes at the beginning of what encloses them. -/
def innerAttributes (g : Grammar) : Parser Attributes := many do
  if ← sees fun tokens =>
      tokens.beginWith "#" && Tokens.beginWith "!" (tokens.drop 1) then
    punct "#"
    punct "!"
    let (path, content) ← group .bracket (attributeBody g)
    return some ⟨true, path, content⟩
  else return none

/-- The statements between braces, behind the attributes that the braces enclose. -/
def attributedBlock (g : Grammar) : Parser Block :=
  group .brace do
    let attributes ← innerAttributes g
    return ⟨attributes, ← g.stmts⟩

/-! ### Generic arguments -/

/-- What `for<..>` binds, if it stands in front. -/
def binder? (g : Grammar) : Parser (Option Binder) := do
  if ← word? "for" then
    punct "<"
    let (parameters, comma) ← commas (seesPunct ">") g.parameter
    punct ">"
    return some ⟨parameters, comma⟩
  else return none

/-- A constant argument: a literal, a name, or a block. -/
def constantArgument (g : Grammar) : Parser Fragment := do
  if ← sees Tokens.beginWithLiteral then fragment id literal
  else if ← sees Tokens.beginWithName then fragment (fun name => [.ident name]) ident
  else if ← seesGroup .brace then fragment (fun body => [body.token]) (attributedBlock g)
  else failExpecting []

/-- The type behind `->`, if the arrow stands in front. -/
def result? (g : Grammar) (plus : Bool) : Parser (Option Ty) := do
  if ← punct? "->" then return some (← g.ty plus) else return none

/-- The arguments `(a, b) -> c` of a function trait. -/
def parenArguments (g : Grammar) : Parser Arguments := do
  let (inputs, comma) ← group .paren (commasToEnd (g.ty true))
  return .paren inputs comma (← result? g false)

/-- Whether parentheses stand in front, or behind `::`. -/
def seesParenArguments : Parser Bool :=
  sees fun tokens =>
    tokens.beginWithGroup .paren ||
      (tokens.beginWith "::" && Tokens.beginWithGroup .paren (tokens.drop 2))

/-- Gives the last segment parenthesised arguments, if such stand in front and it has none. -/
def withParenArguments (g : Grammar) (found : Path) : Parser Path := do
  match found.segments.getLast? with
  | some (.mk name .none) =>
    if ← seesParenArguments then
      let _ ← punct? "::"
      let arguments ← parenArguments g
      return .mk found.leading (found.segments.dropLast ++ [.mk name arguments])
    else return found
  | _ => return found

/-- The names between the brackets of `use<..>`, and whether a comma stands behind the last. -/
def capturedNames : Nat → Parser (List Tokens × Bool)
  | 0 => failExpecting []
  | fuel + 1 => do
    if ← seesPunct ">" then return ([], true)
    let first ←
      if ← sees Tokens.beginWithLifetime then pure (Token.lifetime (← lifetime))
      else if ← sees fun tokens => tokens.beginWithName || tokens.beginWithWord "Self" then
        pure [Token.ident (← anyIdent)]
      else failExpecting ["lifetime", "identifier", "`>`"]
    if ← seesPunct ">" then return ([first], false)
    if !(← punct? ",") then failExpecting ["`,`", "`>`"]
    let (rest, comma) ← capturedNames fuel
    return (first :: rest, comma)

/-- The generic parameters that an `impl` type captures. -/
def capture : Parser Bound := do
  word "use"
  punct "<"
  let (names, comma) ← capturedNames ((← get).length + 1)
  punct ">"
  return .capture names (comma && !names.isEmpty)

/-- The mark that a bound holds in constant evaluation, if it stands in front: `const`, or the same
in brackets where it may hold. Some kinds of types do not allow it. -/
def constness? (allowed : Bool) : Parser Bool := do
  if ← seesGroup .bracket then
    group .bracket (word "const")
    if !allowed then refuse "`[const]` is not allowed here"
    return true
  else if ← word? "const" then
    if !allowed then refuse "`const` is not allowed here"
    return true
  else return false

mutual

/-- Arguments between angle brackets. The number in this and the next rules bounds how deep
they may call one another. -/
def angleArguments (g : Grammar) : Nat → Parser Arguments
  | 0 => failExpecting []
  | fuel + 1 => do
    let turbofish ← punct? "::"
    punct "<"
    let (arguments, comma) ← commas (seesPunct ">") (argument g fuel)
    punct ">"
    return .angle turbofish arguments comma

/-- One generic argument. -/
def argument (g : Grammar) : Nat → Parser Argument
  | 0 => failExpecting []
  | fuel + 1 => do
    if ← sees fun tokens =>
        tokens.beginWithLifetime && !Tokens.beginWith "+" tokens.afterOne then
      return .lifetime (← lifetime)
    if ← sees fun tokens => tokens.beginWithLiteral || tokens.beginWithGroup .brace then
      return .constant (← constantArgument g)
    match ← g.ty true with
    | .path (.mk false [.mk name arguments]) =>
      let plain := match arguments with
        | .paren .. => false
        | _ => true
      if ← punctWhere? plain "=" then
        if ← sees fun tokens => tokens.beginWithLiteral || tokens.beginWithGroup .brace then
          return .associatedConstant name arguments (← constantArgument g)
        else return .associatedType name arguments (← g.ty true)
      else if ← punctWhere? plain ":" then
        let (bounds, plus) ← pluses
          (sees fun tokens => tokens.beginWith "," || tokens.beginWith ">")
          (bound g false true fuel)
        return .constraint name arguments bounds plus
      else return .type (.path (.mk false [.mk name arguments]))
    | ty => return .type ty

/-- One path segment; in an expression `<` opens arguments only behind `::`. -/
def segment (g : Grammar) (inExpr : Bool) : Nat → Parser Segment
  | 0 => failExpecting []
  | fuel + 1 => do
    if ← sees fun tokens =>
        ["super", "self", "crate", "try"].any fun word => tokens.beginWithWord word then
      return .mk (← anyIdent) .none
    let name ← if ← seesWord "Self" then anyIdent else ident
    if ← sees fun tokens =>
        (!inExpr && tokens.beginWith "<" && !tokens.beginWith "<=") ||
          (tokens.beginWith "::" && Tokens.beginWith "<" (tokens.drop 2)) then
      return .mk name (← angleArguments g fuel)
    else return .mk name .none

/-- The further segments of a path, each behind `::`. -/
def furtherSegments (g : Grammar) (inExpr : Bool) : Nat → Parser (List Segment)
  | 0 => return []
  | fuel + 1 => do
    if ← sees fun tokens =>
        tokens.beginWith "::" && !Tokens.beginWithGroup .paren (tokens.drop 2) then
      punct "::"
      let first ← segment g inExpr fuel
      return first :: (← furtherSegments g inExpr fuel)
    else return []

/-- A path with generic arguments. -/
def path (g : Grammar) (inExpr : Bool) : Nat → Parser Path
  | 0 => failExpecting []
  | fuel + 1 => do
    let leading ← punct? "::"
    let first ← segment g inExpr fuel
    return .mk leading (first :: (← furtherSegments g inExpr fuel))

/-- A bound on a type. Captured parameters and constness are allowed in some places only. -/
def bound (g : Grammar) (captures constness : Bool) : Nat → Parser Bound
  | 0 => failExpecting []
  | fuel + 1 => do
    if ← sees Tokens.beginWithLifetime then return .lifetime (← lifetime)
    if ← seesWord "use" then
      let found ← capture
      if captures then return found
      else refuse "`use<...>` precise capturing syntax is not allowed here"
    let start ← get
    let found ←
      if ← seesGroup .paren then group .paren (traitBound g true constness fuel)
      else traitBound g false constness fuel
    match found with
    | some held => return held
    | none => return .verbatim (← since start)

/-- A trait as a bound, relaxed by `?` or under `for<..>`; nothing if it is marked as holding in
constant evaluation. -/
def traitBound (g : Grammar) (paren constness : Bool) : Nat → Parser (Option Bound)
  | 0 => failExpecting []
  | fuel + 1 => do
    let outer ← binder? g
    let marked ← constness? constness
    let relaxed ← punct? "?"
    let binder ← if relaxed && outer.isNone then binder? g else pure outer
    let found ← path g false fuel
    let found ← withParenArguments g found
    if relaxed && binder.isSome then
      refuse "`for<...>` binder not allowed with `?` trait polarity modifier"
    return if marked then none else some (.trait paren relaxed binder found)

end

end Endpoint.Source.Grammar
