import Endpoint.Source.Grammar.Path

/-!
Rules for types, generic parameters, where clauses and visibilities.
-/

namespace Endpoint.Source.Grammar

open Source.Parser

/-- More steps than the rules for paths can take on the tokens in front. -/
def steps : Parser Nat := return 8 * (← get).length + 16

/-- A path with generic arguments. -/
def fullPath (g : Grammar) (inExpr : Bool) : Parser Path := do path g inExpr (← steps)

/-- A bound on a type, without constness. -/
def plainBound (g : Grammar) : Parser Bound := do bound g false false (← steps)

/-- A bound on a type, with constness. -/
def anyBound (g : Grammar) : Parser Bound := do bound g false true (← steps)

/-- The segments behind a qualified self, each but the first behind `::`. -/
def qualifiedSegments (g : Grammar) (inExpr : Bool) : Nat → Parser (List Segment)
  | 0 => failExpecting []
  | fuel + 1 => do
    let first ← segment g inExpr (← steps)
    if ← punct? "::" then return first :: (← qualifiedSegments g inExpr fuel)
    else return [first]

/-- A path that may begin with a qualified self. -/
def qualifiedPath (g : Grammar) (inExpr : Bool) : Parser QualifiedPath := do
  if ← punct? "<" then
    let ty ← g.ty true
    let trait ← if ← word? "as" then some <$> fullPath g false else pure none
    punct ">"
    punct "::"
    let rest ← qualifiedSegments g inExpr ((← get).length + 1)
    match trait with
    | some outer =>
      return ⟨some (ty, outer.segments.length), .mk outer.leading (outer.segments ++ rest)⟩
    | none => return ⟨some (ty, 0), .mk true rest⟩
  else return ⟨none, ← fullPath g inExpr⟩

/-! ### Bounds of types -/

/-- Whether another bound can begin here. -/
def seesBoundStart (constness : Bool) : Parser Bool :=
  sees fun tokens =>
    tokens.ident?.isSome || tokens.beginWith "::" || tokens.beginWith "?" ||
      tokens.beginWithLifetime || tokens.beginWithGroup .paren ||
      (constness && tokens.beginWithGroup .bracket)

/-- Bounds behind a plus sign, as long as another one can begin. -/
def furtherBounds (g : Grammar) (captures constness : Bool) : Parser (List Bound × Bool) := do
  let (rest, trailing) ← pluses (return !(← seesBoundStart constness)) do
    bound g captures constness (← steps)
  return (rest, trailing || rest.isEmpty)

/-- Bounds of an `impl` or `dyn` type: one, and more behind plus signs if they are allowed. -/
def typeBounds (g : Grammar) (plus captures constness : Bool) :
    Parser (List Bound × Bool) := do
  let first ← bound g captures constness (← steps)
  if ← punctWhere? plus "+" then
    let (rest, trailing) ← furtherBounds g captures constness
    return (first :: rest, trailing)
  else return ([first], false)

/-- Whether a bound is a trait. -/
def isTrait : Bound → Bool
  | .trait .. => true
  | .verbatim _ => true
  | _ => false

/-- The bounds of a trait object, one of which must be a trait. -/
def objectBounds (g : Grammar) (plus : Bool) : Parser (List Bound × Bool) := do
  let (bounds, trailing) ← typeBounds g plus false false
  if bounds.any isTrait then return (bounds, trailing)
  else refuse "at least one trait is required for an object type"

/-! ### Pointers to functions -/

/-- Whether a literal is a string, raw or not. -/
def isStringLiteral (text : String) : Bool :=
  match text.toList with
  | '"' :: _ => true
  | 'r' :: c :: _ => c == '"' || c == '#'
  | _ => false

/-- The keyword `extern` and the string behind it, if they stand in front. -/
def linkage? : Parser (Option Linkage) := do
  if ← word? "extern" then
    match ← get with
    | .literal text :: rest =>
      if isStringLiteral text then
        set rest
        return some (some text)
      else return some none
    | _ => return some none
  else return none

/-- The name in front of the colon of an input, if there is one. Only the first may be `self`. -/
def inputName? (first : Bool) : Parser (Option Ident) := do
  let named ← sees fun tokens =>
    (tokens.beginWithName || tokens.beginWithWord "_" ||
      (first && tokens.beginWithWord "self")) &&
      Tokens.beginWith ":" (tokens.drop 1) && !Tokens.beginWith "::" (tokens.drop 1)
  if named then
    let name ← anyIdent
    punct ":"
    return some name
  else return none

/-- Whether `mut self` stands in front. -/
def seesMutableSelf : Parser Bool :=
  sees fun tokens => tokens.beginWithWord "mut" && Tokens.beginWithWord "self" (tokens.drop 1)

/-- One input of a function pointer behind its attributes. The first may be written as a receiver
with `mut`, which is kept as it stands. -/
def functionInput (g : Grammar) (first : Bool) (attributes : Attributes) :
    Parser FunctionInput := do
  let start ← get
  if first && (← seesMutableSelf) then
    word "mut"
    match ← inputName? true with
    | some _ => let _ ← g.ty true
    | none => word "self"
    return ⟨attributes, none, .verbatim (← since start)⟩
  let isSelf ← seesWord "self"
  let name ← inputName? first
  if first && !(isSelf && name.isSome) && (← seesMutableSelf) then
    word "mut"
    word "self"
    return ⟨attributes, none, .verbatim (← since start)⟩
  return ⟨attributes, name, ← g.ty true⟩

/-- The inputs of a function pointer, and its variadic end if it has one. -/
def functionInputs (g : Grammar) (first : Bool) :
    Nat → Parser (List FunctionInput × Bool × Option FunctionVariadic)
  | 0 => failExpecting []
  | fuel + 1 => do
    if ← atEnd then return ([], true, none)
    let attributes ← outerAttributes g
    let variadic ← sees fun tokens =>
      tokens.beginWith "..." ||
        ((tokens.beginWithName || tokens.beginWithWord "_") &&
          Tokens.beginWith ":" (tokens.drop 1) && Tokens.beginWith "..." (tokens.drop 2))
    if variadic then
      let name ← inputName? false
      punct "..."
      return ([], true, some ⟨attributes, name, ← punct? ","⟩)
    let input ← functionInput g first attributes
    if ← atEnd then return ([input], false, none)
    punct ","
    let (rest, comma, variadic) ← functionInputs g false fuel
    return (input :: rest, comma, variadic)

/-- A pointer to a function. -/
def functionTy (g : Grammar) (binder : Option Binder) : Parser Ty := do
  let isUnsafe ← word? "unsafe"
  let linkage ← linkage?
  word "fn"
  let (inputs, comma, variadic) ←
    group .paren (do functionInputs g true ((← get).length + 1))
  let output ← result? g false
  return .function ⟨binder, isUnsafe, linkage, inputs, comma && !inputs.isEmpty, variadic, output⟩

/-! ### Types -/

/-- The group behind the `!` of a macro call. -/
def invocationGroup : Parser (Delimiter × Tokens) := do
  match ← get with
  | .group delimiter inner :: rest =>
    set rest
    return (delimiter, inner)
  | _ => refuseHere "expected delimiter"

/-- Bounds behind a first one that stood in parentheses. -/
def moreBounds (g : Grammar) (first : Bound) : Parser Ty := do
  let rest ← many do
    if ← punct? "+" then return some (← plainBound g) else return none
  return .traitObject false (first :: rest) false

/-- The first bound of a trait object that begins with a type in parentheses, if that type can
be one. -/
def parenthesisedBound : Ty → Option Bound
  | .path path => some (.trait true false none path)
  | .traitObject false [.trait _ relaxed binder path] false =>
    some (.trait true relaxed binder path)
  | .traitObject false [bound] false => some bound
  | _ => none

/-- What stands between the parentheses that a type begins with: a whole type, a bound with `?`,
or a type alone. -/
inductive Parenthesised
  | whole (ty : Ty)
  | relaxed (first : Bound)
  | alone (ty : Ty)

/-- What begins with a parenthesis: the unit, a tuple, a type in parentheses, or bounds of which
the first stands in parentheses. -/
def parenTy (g : Grammar) (plus : Bool) : Parser Ty := do
  let found ← group .paren do
    if ← atEnd then return Parenthesised.whole (.tuple [] false)
    if ← sees Tokens.beginWithLifetime then
      let (bounds, trailing) ← objectBounds g true
      return .whole (.paren (.traitObject false bounds trailing))
    if ← seesPunct "?" then
      match ← traitBound g true false (← steps) with
      | some first => return .relaxed first
      | none => failExpecting []
    let first ← g.ty true
    if ← punct? "," then
      let (rest, comma) ← commasToEnd (g.ty true)
      return .whole (.tuple (first :: rest) (comma || rest.isEmpty))
    return .alone first
  match found with
  | .whole ty => return ty
  | .relaxed first => moreBounds g first
  | .alone first =>
    if plus && (← seesPunct "+") then
      match parenthesisedBound first with
      | some bound => moreBounds g bound
      | none => return .paren first
    else return .paren first

/-- What begins with a path: the path, a macro call, or the bounds of a trait object. -/
def pathTy (g : Grammar) (plus : Bool) (binder : Option Binder) : Parser Ty := do
  let found ← qualifiedPath g false
  match found.self with
  | some (ty, position) => return .qualified ty position found.path
  | none =>
    if (← seesPunct "!") && !(← seesPunct "!=") && found.path.isPlain then
      punct "!"
      let (delimiter, inner) ← invocationGroup
      return .invocation found.path delimiter inner
    if binder.isSome || (plus && (← seesPunct "+")) then
      let first := Bound.trait false false binder found.path
      if ← punctWhere? plus "+" then
        let (rest, trailing) ← furtherBounds g false false
        return .traitObject false (first :: rest) trailing
      else return .traitObject false [first] false
    return .path found.path

/-- The words that a type under `for<..>` can begin with, beside a name. -/
def boundTypeWords : List String := ["fn", "unsafe", "extern", "super", "self", "Self", "crate"]

/-- A type; `plus` says whether bounds joined by `+` may stand without parentheses. -/
def typeRule (g : Grammar) (plus : Bool) : Parser Ty := do
  let start ← get
  let binder ← binder? g
  if binder.isSome then
    let fits ← sees fun tokens =>
      tokens.beginWithName || boundTypeWords.any fun word => tokens.beginWithWord word
    if !fits then failExpecting ("identifier" :: boundTypeWords.map fun word => s!"`{word}`")
  if ← seesGroup .paren then parenTy g plus
  else if ← sees fun tokens => ["fn", "unsafe", "extern"].any fun word =>
      tokens.beginWithWord word then
    functionTy g binder
  else if ← sees fun tokens =>
      tokens.beginWithName || tokens.beginWith "::" || tokens.beginWith "<" ||
        pathWords.any fun word => tokens.beginWithWord word then
    pathTy g plus binder
  else if ← word? "dyn" then
    let star ← punct? "*"
    let (bounds, trailing) ← objectBounds g plus
    if star then return .verbatim (← since start) else return .traitObject true bounds trailing
  else if ← seesGroup .bracket then
    group .bracket do
      let element ← g.ty true
      if ← punct? ";" then return .array element (← g.constant) else return .slice element
  else if ← punct? "*" then
    if ← word? "const" then return .pointer false (← g.ty false)
    else if ← word? "mut" then return .pointer true (← g.ty false)
    else failExpecting ["`const`", "`mut`"]
  else if ← punct? "&" then
    let name ← lifetime?
    let mutable ← word? "mut"
    return .reference name mutable (← g.ty false)
  else if ← punct? "!" then return .never
  else if ← word? "impl" then
    let (bounds, trailing) ← typeBounds g plus true true
    if bounds.any isTrait then return .implTrait bounds trailing
    else refuse "at least one trait must be specified"
  else if ← word? "_" then return .infer
  else if ← sees Tokens.beginWithLifetime then
    let (bounds, trailing) ← objectBounds g true
    return .traitObject false bounds trailing
  else
    failExpecting ["`for`", "parentheses", "`fn`", "`unsafe`", "`extern`", "identifier", "`::`",
      "`<`", "`dyn`", "square brackets", "`*`", "`&`", "`!`", "`impl`", "`_`", "lifetime"]

/-! ### Generic parameters -/

/-- A lifetime parameter behind its attributes. -/
def lifetimeParameter (attributes : Attributes) : Parser GenericParameter := do
  let name ← lifetime
  if ← punct? ":" then
    let (bounds, plus) ← pluses
      (sees fun tokens => tokens.isEmpty || tokens.beginWith "," || tokens.beginWith ">") lifetime
    return .lifetime attributes name bounds plus
  else return .lifetime attributes name [] false

/-- A type parameter behind its attributes. -/
def typeParameter (g : Grammar) (attributes : Attributes) : Parser GenericParameter := do
  let name ← ident
  let (bounds, plus) ←
    if ← punct? ":" then
      pluses (sees fun tokens => tokens.isEmpty || tokens.beginWith "," ||
        tokens.beginWith ">" || tokens.beginWith "=") (anyBound g)
    else pure ([], false)
  let default ← if ← punct? "=" then some <$> g.ty true else pure none
  return .type attributes name bounds plus default

/-- A constant parameter behind its attributes. -/
def constantParameter (g : Grammar) (attributes : Attributes) : Parser GenericParameter := do
  word "const"
  let name ← ident
  punct ":"
  let ty ← g.ty true
  let default ← if ← punct? "=" then some <$> constantArgument g else pure none
  return .constant attributes name ty default

/-- A parameter bound by `for<..>`. -/
def parameterRule (g : Grammar) : Parser GenericParameter := do
  let attributes ← outerAttributes g
  if ← sees Tokens.beginWithName then typeParameter g attributes
  else if ← sees Tokens.beginWithLifetime then lifetimeParameter attributes
  else if ← seesWord "const" then constantParameter g attributes
  else failExpecting ["identifier", "lifetime", "`const`"]

/-- A generic parameter of an item. -/
def genericParameter (g : Grammar) : Parser GenericParameter := do
  let attributes ← outerAttributes g
  if ← sees Tokens.beginWithLifetime then lifetimeParameter attributes
  else if ← sees Tokens.beginWithName then typeParameter g attributes
  else if ← seesWord "const" then constantParameter g attributes
  else if ← seesWord "_" then return .type attributes (← anyIdent) [] false none
  else failExpecting ["lifetime", "identifier", "`const`"]

/-- Generic parameters between angle brackets, if they stand in front. -/
def genericParameters (g : Grammar) : Parser Generics := do
  if ← punct? "<" then
    let (parameters, comma) ← commas (seesPunct ">") (genericParameter g)
    punct ">"
    return ⟨parameters, comma, none⟩
  else return ⟨[], false, none⟩

/-- Whether generic parameters rather than a qualified path begin with the `<` in front. -/
def beginsParameters (tokens : Tokens) : Bool :=
  let second := tokens.drop 1
  let third := Tokens.afterOne second
  tokens.beginWith "<" &&
    (Tokens.beginWith ">" second || Tokens.beginWith "#" second ||
      ((Tokens.beginWithLifetime second || Tokens.beginWithName second) &&
        (Tokens.beginWith ">" third || Tokens.beginWith "," third ||
          (Tokens.beginWith ":" third && !Tokens.beginWith "::" third) ||
          Tokens.beginWith "=" third)) ||
      Tokens.beginWithWord "const" second)

/-! ### Where clauses -/

/-- Where the conditions of a where clause end. -/
def endsClause : Parser Bool :=
  sees fun tokens =>
    tokens.isEmpty || tokens.beginWithGroup .brace || tokens.beginWith "," ||
      tokens.beginWith ";" || (tokens.beginWith ":" && !tokens.beginWith "::") ||
      tokens.beginWith "="

/-- One condition of a where clause. -/
def condition (g : Grammar) : Parser Condition := do
  if ← sees fun tokens => tokens.beginWithLifetime && Tokens.beginWith ":" tokens.afterOne then
    let name ← lifetime
    punct ":"
    let (bounds, plus) ← pluses endsClause lifetime
    return .lifetime name bounds plus
  else
    let binder ← binder? g
    let ty ← g.ty true
    punct ":"
    let (bounds, plus) ← pluses endsClause (anyBound g)
    return .type binder ty bounds plus

/-- Conditions with commas between them. -/
def conditions (g : Grammar) : Nat → Parser (List Condition × Bool)
  | 0 => return ([], true)
  | fuel + 1 => do
    if ← endsClause then return ([], true)
    let first ← condition g
    if ← punct? "," then
      let (rest, comma) ← conditions g fuel
      return (first :: rest, comma)
    else return ([first], false)

/-- A where clause, if one stands in front. -/
def whereClause? (g : Grammar) : Parser (Option WhereClause) := do
  if ← word? "where" then
    if ← sees beginsParameters then
      refuseHere "generic parameters on `where` clauses are reserved for future use"
    let (found, comma) ← conditions g ((← get).length + 1)
    return some ⟨found, comma && !found.isEmpty⟩
  else return none

/-! ### Visibilities -/

/-- A visibility, which may be absent. -/
def visibility : Parser Visibility := do
  if ← word? "pub" then
    match ← get with
    | .group .paren inner :: rest =>
      let short := ["crate", "self", "super"].any fun word => Tokens.beginWithWord word inner
      if short then
        match inner with
        | [.ident name] => set rest; return .restricted false (.ofIdent name)
        | _ => return .all
      else if Tokens.beginWithWord "in" inner then
        group .paren do
          word "in"
          return .restricted true (← plainPath)
      else return .all
    | _ => return .all
  else return .inherited

end Endpoint.Source.Grammar
