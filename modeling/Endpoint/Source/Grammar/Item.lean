import Endpoint.Source.Grammar.Expression

/-!
Rules for signatures and items.
-/

namespace Endpoint.Source.Grammar

open Source.Parser

/-! ### Signatures -/

/-- A receiver: `self` behind a reference sign, `mut` or both, and a written type. -/
def receiver (g : Grammar) (attributes : Attributes) : Parser Receiver := do
  let reference ← if ← punct? "&" then some <$> lifetime? else pure none
  let mutable ← word? "mut"
  word "self"
  let ty ← if ← punctWhere? reference.isNone ":" then some <$> g.ty true else pure none
  return ⟨attributes, reference, mutable, ty⟩

/-- The comma behind a variadic end. -/
def variadicComma : Parser Bool := do
  if ← atEnd then return false
  punct ","
  return true

/-- The inputs of a function. A receiver may only stand first; the flags say whether any input
stands in front, and whether a receiver does. -/
def inputsFor (g : Grammar) (first received : Bool) :
    Nat → Parser (List Input × Bool × Option Variadic)
  | 0 => failExpecting []
  | fuel + 1 => do
    if ← atEnd then return ([], true, none)
    let attributes ← outerAttributes g
    if ← punct? "..." then
      return ([], true, some ⟨attributes, none, ← variadicComma⟩)
    match ← optional? (receiver g attributes) with
    | some found =>
      if received then refuse "unexpected second method receiver"
      if !first then refuse "unexpected method receiver"
      goOn fuel true (.receiver found)
    | none =>
      if ← sees fun tokens => tokens.beginWithName && Tokens.beginWith "<" (tokens.drop 1) then
        goOn fuel received (.typed attributes .wild (← g.ty true))
      else
        let pattern ← g.pattern
        punct ":"
        if ← punct? "..." then
          return ([], true, some ⟨attributes, some pattern, ← variadicComma⟩)
        goOn fuel received (.typed attributes pattern (← g.ty true))
where
  goOn (fuel : Nat) (received : Bool) (input : Input) :
      Parser (List Input × Bool × Option Variadic) := do
    if ← atEnd then return ([input], false, none)
    punct ","
    let (rest, comma, variadic) ← inputsFor g false received fuel
    return (input :: rest, comma, variadic)

/-- The words in front of `fn`, and whether the word `safe`, which only some places allow, stands
among them. -/
structure SignatureWords where
  isConst : Bool
  isAsync : Bool
  safety : Option Ident
  isSafe : Bool
  linkage : Option Linkage

def signatureWords (allowSafe : Bool) : Parser SignatureWords := do
  let isConst ← word? "const"
  let isAsync ← word? "async"
  let safety ← if ← seesWord "unsafe" then some <$> anyIdent else pure none
  let isSafe ← if allowSafe && safety.isNone then word? "safe" else pure false
  return ⟨isConst, isAsync, safety, isSafe, ← linkage?⟩

/-- Whether a signature stands in front. -/
def seesSignature (allowSafe : Bool) : Parser Bool := do
  let found ← ahead do
    let _ ← signatureWords allowSafe
    word "fn"
  return found.isSome

/-- A signature, and whether it is marked with the word `safe`. -/
def signature (g : Grammar) (allowSafe : Bool) : Parser (Signature × Bool) := do
  let words ← signatureWords allowSafe
  word "fn"
  let name ← ident
  let generics ← genericParameters g
  let (inputs, comma, variadic) ←
    group .paren (do inputsFor g true false ((← get).length + 1))
  let output ← result? g true
  let clause ← whereClause? g
  return (⟨words.isConst, words.isAsync, words.safety, words.linkage, name,
    { generics with clause }, inputs, comma && !inputs.isEmpty, variadic, output⟩, words.isSafe)

/-- The body of a function: its inner attributes and its statements. -/
def body (g : Grammar) : Parser (Attributes × Fragment) :=
  group .brace do
    let inner ← innerAttributes g
    return (inner, ← fragment stmtRows g.stmts)

/-- A function with a body. -/
def bodied (g : Grammar) (attributes : Attributes) (visibility : Visibility)
    (isDefault : Bool) (signature : Signature) : Parser Method := do
  let (inner, statements) ← body g
  return ⟨attributes ++ inner, visibility, isDefault, signature, some statements⟩

/-- A function as a trait may hold it: with a body, or one that ends in a semicolon. -/
def method (g : Grammar) (attributes : Attributes) (visibility : Visibility)
    (isDefault : Bool) : Parser Method := do
  let (signature, _) ← signature g false
  if ← seesGroup .brace then bodied g attributes visibility isDefault signature
  else if ← punct? ";" then return ⟨attributes, visibility, isDefault, signature, none⟩
  else failExpecting ["curly braces", "`;`"]

/-! ### Members of items -/

/-- A field with a name. One without may have a struct or union as its type that is declared on
the spot; the number bounds how deep these nest. -/
def namedField (g : Grammar) : Nat → Parser Field
  | 0 => failExpecting []
  | fuel + 1 => do
    let attributes ← outerAttributes g
    let visibility ← visibility
    let unnamed ← seesWord "_"
    let name ← if unnamed then anyIdent else ident
    punct ":"
    let start ← get
    let declares ← sees fun tokens =>
      tokens.beginWithWord "struct" ||
        (tokens.beginWithWord "union" && Tokens.beginWithGroup .brace (tokens.drop 1))
    if unnamed && declares then
      let _ ← anyIdent
      let _ ← group .brace (commasToEnd (namedField g fuel))
      return ⟨attributes, visibility, some name, .verbatim (← since start)⟩
    return ⟨attributes, visibility, some name, ← g.ty true⟩

def positionalField (g : Grammar) : Parser Field := do
  let attributes ← outerAttributes g
  let visibility ← visibility
  return ⟨attributes, visibility, none, ← g.ty true⟩

def namedFields (g : Grammar) : Parser Fields := do
  let depth := Tokens.size (← get) + 1
  let (fields, comma) ← group .brace (commasToEnd (namedField g depth))
  return .named fields comma

def positionalFields (g : Grammar) : Parser Fields := do
  let (fields, comma) ← group .paren (commasToEnd (positionalField g))
  return .positional fields comma

/-- A variant of an enum; a visibility in front of it is read past. -/
def variant (g : Grammar) : Parser Variant := do
  let attributes ← outerAttributes g
  let _ ← visibility
  let name ← ident
  let fields ←
    if ← seesGroup .brace then namedFields g
    else if ← seesGroup .paren then positionalFields g
    else pure .unit
  let discriminant ← if ← punct? "=" then some <$> g.constant else pure none
  return ⟨attributes, name, fields, discriminant⟩

/-- What follows the name and parameters of a struct. -/
def structBody (g : Grammar) : Parser (Option WhereClause × Fields) := do
  let clause ← whereClause? g
  if clause.isNone && (← seesGroup .paren) then
    let fields ← positionalFields g
    let clause ← whereClause? g
    if ← punct? ";" then return (clause, fields)
    else failExpecting (if clause.isNone then ["`where`", "`;`"] else ["`;`"])
  else if ← seesGroup .brace then return (clause, ← namedFields g)
  else if ← punct? ";" then return (clause, .unit)
  else
    failExpecting (if clause.isNone then ["`where`", "parentheses", "curly braces", "`;`"]
      else ["curly braces", "`;`"])

def structRest (g : Grammar) (attributes : Attributes) (visibility : Visibility) :
    Parser Struct := do
  word "struct"
  let name ← ident
  let generics ← genericParameters g
  let (clause, fields) ← structBody g
  return ⟨attributes, visibility, name, { generics with clause }, fields⟩

def unionRest (g : Grammar) (attributes : Attributes) (visibility : Visibility) :
    Parser Struct := do
  word "union"
  let name ← ident
  let generics ← genericParameters g
  let clause ← whereClause? g
  return ⟨attributes, visibility, name, { generics with clause }, ← namedFields g⟩

def enumRest (g : Grammar) (attributes : Attributes) (visibility : Visibility) :
    Parser Enum := do
  word "enum"
  let name ← ident
  let generics ← genericParameters g
  let clause ← whereClause? g
  let (variants, comma) ← group .brace (commasToEnd (variant g))
  return ⟨attributes, visibility, name, { generics with clause }, variants, comma⟩

/-- A struct, an enum or a union. -/
def dataType (g : Grammar) : Parser DataType := do
  let attributes ← outerAttributes g
  let visibility ← visibility
  if ← seesWord "struct" then return .struct (← structRest g attributes visibility)
  else if ← seesWord "enum" then return .enum (← enumRest g attributes visibility)
  else if ← seesWord "union" then return .union (← unionRest g attributes visibility)
  else failExpecting ["`struct`", "`enum`", "`union`"]

/-- Whether an item that is called like a function begins here. -/
def seesInvocation : Parser Bool :=
  sees fun tokens =>
    tokens.beginWithName || tokens.beginWith "::" ||
      ["self", "super", "crate"].any fun word => tokens.beginWithWord word

/-- A macro call as an item, with its semicolon unless it ends in a brace. -/
def invocationItem (named : Bool) (attributes : Attributes) : Parser Invocation := do
  let path ← plainPath
  punct "!"
  let name ←
    if named && (← sees fun tokens => tokens.beginWithName || tokens.beginWithWord "try") then
      some <$> anyIdent
    else pure none
  let (delimiter, inner) ← invocationGroup
  if delimiter == .brace then return ⟨attributes, path, name, delimiter, inner, false⟩
  else
    punct ";"
    return ⟨attributes, path, name, delimiter, inner, true⟩

/-- Whether a name or an underscore stands in front. -/
def seesNameOrUnderscore : Parser Bool :=
  sees fun tokens => tokens.beginWithName || tokens.beginWithWord "_"

/-- A constant behind its keyword; nothing in its place if it has parameters or conditions, which
the language does not have yet. -/
def constantRest (g : Grammar) (attributes : Attributes) (visibility : Visibility)
    (isDefault : Bool) : Parser (Option Constant) := do
  if !(← seesNameOrUnderscore) then failExpecting ["identifier", "`_`"]
  let name ← anyIdent
  let bracketed ← seesPunct "<"
  let generics ← genericParameters g
  punct ":"
  let ty ← g.ty true
  let value ← if ← punct? "=" then some <$> g.constant else pure none
  let clause ← whereClause? g
  punct ";"
  if bracketed || clause.isSome then return none
  else
    return some ⟨attributes, visibility, isDefault, name, { generics with clause }, ty, value⟩

/-- Where the conditions of a type alias may stand: before its equals sign, behind its type, or in
either place. -/
inductive ClausePlace
  | before
  | behind
  | either
deriving DecidableEq

/-- A type alias behind its keyword, and whether it has a colon for bounds. -/
def aliasRest (g : Grammar) (attributes : Attributes) (visibility : Visibility)
    (isDefault : Bool) (place : ClausePlace) : Parser (AliasItem × Bool) := do
  let name ← ident
  let generics ← genericParameters g
  let colon ← punct? ":"
  let (bounds, plus) ←
    if colon then
      separatedFor "+" (sees fun tokens => tokens.beginWithWord "where" ||
        tokens.beginWith "=" || tokens.beginWith ";") (anyBound g) ((← get).length + 1)
    else pure ([], false)
  let before ← if place != .behind then whereClause? g else pure none
  let ty ← if ← punct? "=" then some <$> g.ty true else pure none
  let behind ← if place != .before && before.isNone then whereClause? g else pure none
  punct ";"
  return (⟨attributes, visibility, isDefault, name, { generics with clause := before <|> behind },
    bounds, plus && !bounds.isEmpty, ty⟩, colon)

/-- What an item inside another one may begin with where a macro call can stand. -/
def invocationStarts : List String := ["identifier", "`self`", "`super`", "`crate`", "`::`"]

/-- A constant of a trait, or a function that is constant. -/
def traitConstant (g : Grammar) (start : Tokens) (attributes : Attributes) (shown : Visibility)
    (isDefault : Bool) : Parser Associated := do
  word "const"
  if ← seesNameOrUnderscore then
    match ← constantRest g attributes shown isDefault with
    | some held => return .constant held
    | none => return .verbatim (← since start)
  else failExpecting ["identifier", "`_`", "`async`", "`unsafe`", "`extern`", "`fn`"]

/-- An item of a trait. One with a visibility or `default` in front is kept as it stands. -/
def traitItem (g : Grammar) : Parser Associated := do
  let start ← get
  let attributes ← outerAttributes g
  let shown ← visibility
  let isDefault ← word? "default"
  let bare := !isDefault && match shown with
    | .inherited => true
    | _ => false
  let item ←
    if ← seesSignature false then pure (Associated.method (← method g attributes shown isDefault))
    else if ← seesWord "const" then traitConstant g start attributes shown isDefault
    else if ← word? "type" then
      pure (.alias (← aliasRest g attributes shown isDefault .behind).1)
    else if bare && (← seesInvocation) then
      pure (.invocation (← invocationItem false attributes))
    else failExpecting (["`fn`", "`const`", "`type`"] ++ if bare then invocationStarts else [])
  if bare then return item else return .verbatim (← since start)

/-- The items between the braces of a trait, with its inner attributes. -/
def associatedItems (g : Grammar) (item : Parser Associated) :
    Parser (Attributes × List Associated) :=
  group .brace do
    let inner ← innerAttributes g
    let items ← many do
      if ← atEnd then return none
      return some (← item)
    return (inner, items)

/-- What follows the name and parameters of a trait. -/
def traitRest (g : Grammar) (attributes : Attributes) (visibility : Visibility)
    (isUnsafe isAuto : Bool) (name : Ident) (generics : Generics) : Parser Trait := do
  let ends := sees fun tokens => tokens.beginWithWord "where" || tokens.beginWithGroup .brace
  let (bounds, trailing) ←
    if ← punct? ":" then
      separatedFor "+" ends (anyBound g) ((← get).length + 1)
    else pure ([], false)
  let clause ← whereClause? g
  let (inner, items) ← associatedItems g (traitItem g)
  return ⟨attributes ++ inner, visibility, isUnsafe, isAuto, name, { generics with clause },
    bounds, trailing && !bounds.isEmpty, items⟩

/-- A trait behind its attributes and visibility. -/
def traitItemRest (g : Grammar) (attributes : Attributes) (visibility : Visibility) :
    Parser Trait := do
  let isUnsafe ← word? "unsafe"
  let isAuto ← word? "auto"
  word "trait"
  let name ← ident
  let generics ← genericParameters g
  traitRest g attributes visibility isUnsafe isAuto name generics

/-- A trait, or the name of a combination of bounds. -/
def traitOrAlias (g : Grammar) (attributes : Attributes) (visibility : Visibility) :
    Parser Item := do
  word "trait"
  let name ← ident
  let generics ← genericParameters g
  if ← sees fun tokens => tokens.beginWith ":" || tokens.beginWithWord "where" ||
      tokens.beginWithGroup .brace then
    return .trait (← traitRest g attributes visibility false false name generics)
  else if ← punct? "=" then
    let (bounds, plus) ← separatedFor "+"
      (sees fun tokens => tokens.beginWithWord "where" || tokens.beginWith ";")
      (anyBound g) ((← get).length + 1)
    let clause ← whereClause? g
    punct ";"
    return .traitAlias attributes visibility name { generics with clause } bounds
      (plus && !bounds.isEmpty)
  else failExpecting ["curly braces", "`:`", "`where`", "`=`"]

/-- An item of an implementation. -/
def implementationItem (g : Grammar) : Parser Associated := do
  let start ← get
  let attributes ← outerAttributes g
  let shown ← visibility
  let isDefault ←
    if ← sees fun tokens => !Tokens.beginWith "!" (tokens.drop 1) then word? "default"
    else pure false
  let bare := !isDefault && match shown with
    | .inherited => true
    | _ => false
  if ← seesSignature false then
    let (signature, _) ← signature g false
    if ← punct? ";" then return .verbatim (← since start)
    else return .method (← bodied g attributes shown isDefault signature)
  else if ← word? "const" then
    match ← constantRest g attributes shown isDefault with
    | some held =>
      if held.value.isSome then return .constant held else return .verbatim (← since start)
    | none => return .verbatim (← since start)
  else if ← word? "type" then
    let (found, colon) ← aliasRest g attributes shown isDefault .behind
    if !colon && found.ty.isSome then return .alias found
    else return .verbatim (← since start)
  else if bare && (← seesInvocation) then return .invocation (← invocationItem false attributes)
  else
    failExpecting ((if isDefault then [] else ["`default`"]) ++ ["`fn`", "`const`", "`type`"] ++
      if bare then invocationStarts else [])

def implementation (g : Grammar) (start : Tokens) (attributes : Attributes)
    (visibility : Visibility) : Parser Item := do
  let isDefault ← word? "default"
  let isUnsafe ← word? "unsafe"
  word "impl"
  let generics ←
    if ← sees beginsParameters then genericParameters g else pure ⟨[], false, none⟩
  let isConst ← sees fun tokens => tokens.beginWithWord "const" ||
    (tokens.beginWith "?" && Tokens.beginWithWord "const" (tokens.drop 1))
  if isConst then
    let _ ← punct? "?"
    word "const"
  let negative ←
    if ← sees fun tokens => tokens.beginWith "!" &&
        !Tokens.beginWithGroup .brace (tokens.drop 1) then punct? "!"
    else pure false
  let first ← g.ty true
  let isFor ← word? "for"
  if negative && !isFor then refuse "inherent impls cannot be negative"
  let self ← if isFor then g.ty true else pure first
  let clause ← whereClause? g
  let (inner, items) ← associatedItems g (implementationItem g)
  let trait := match first with
    | .path path => if isFor then some (negative, path) else none
    | _ => none
  let hidden := match visibility with
    | .inherited => true
    | _ => false
  if !hidden || isConst || (isFor && trait.isNone) then
    return .verbatim (← since start)
  else
    return .implementation ⟨attributes ++ inner, isDefault, isUnsafe,
      { generics with clause }, trait, self, items⟩

/-- A function of a block of foreign declarations. One with a body, or marked as safe, is kept as
it stands. -/
def foreignFunction (g : Grammar) (start : Tokens) (attributes : Attributes)
    (shown : Visibility) : Parser Foreign := do
  let (signature, isSafe) ← signature g true
  let hasBody ← seesGroup .brace
  if hasBody then
    let _ ← body g
  else punct ";"
  if isSafe || hasBody then return .verbatim (← since start)
  else return .method ⟨attributes, shown, false, signature, none⟩

/-- Whether a static stands in front, perhaps behind `unsafe` or `safe`. -/
def seesForeignStatic : Parser Bool :=
  sees fun tokens =>
    tokens.beginWithWord "static" ||
      ((tokens.beginWithWord "unsafe" || tokens.beginWithWord "safe") &&
        Tokens.beginWithWord "static" (tokens.drop 1))

/-- A static of a block of foreign declarations. One with a value, or marked as safe or not, is
kept as it stands. -/
def foreignStatic (g : Grammar) (start : Tokens) (attributes : Attributes)
    (shown : Visibility) : Parser Foreign := do
  let marked ← if ← word? "unsafe" then pure true else word? "safe"
  word "static"
  let mutable ← word? "mut"
  let name ← ident
  punct ":"
  let ty ← g.ty true
  let hasValue ← punct? "="
  if hasValue then
    let _ ← g.constant
  punct ";"
  if marked || hasValue then return .verbatim (← since start)
  return .static mutable ⟨attributes, shown, false, name, ⟨[], false, none⟩, ty, none⟩

/-- An item of a block of foreign declarations. -/
def foreignItem (g : Grammar) : Parser Foreign := do
  let start ← get
  let attributes ← outerAttributes g
  let shown ← visibility
  let bare := match shown with
    | .inherited => true
    | _ => false
  if ← seesSignature true then foreignFunction g start attributes shown
  else if ← seesForeignStatic then foreignStatic g start attributes shown
  else if ← word? "type" then
    let (found, colon) ← aliasRest g attributes shown false .either
    if !colon && found.ty.isNone then return .type found
    else return .verbatim (← since start)
  else if bare && (← seesInvocation) then return .invocation (← invocationItem false attributes)
  else
    failExpecting (["`fn`", "`static`", "`type`"] ++ if bare then invocationStarts else [])

def foreignBlock (g : Grammar) (attributes : Attributes) : Parser Item := do
  let isUnsafe ← word? "unsafe"
  match ← linkage? with
  | none => failExpecting ["`extern`"]
  | some linkage =>
  let (inner, items) ← group .brace do
    let inner ← innerAttributes g
    let items ← many do
      if ← atEnd then return none
      return some (← foreignItem g)
    return (inner, items)
  return .foreign (attributes ++ inner) isUnsafe linkage items

/-- A block of foreign declarations that begins with `extern`. It cannot have a visibility. -/
def foreignMod (g : Grammar) (attributes : Attributes) (hidden : Bool) : Parser Item := do
  let rest := (← get).drop 1
  let (named, behind) := match rest with
    | .literal text :: more => if isStringLiteral text then (true, more) else (false, rest)
    | _ => (false, rest)
  if !Tokens.beginWithGroup .brace behind then
    throw (.expected (if named then ["curly braces"]
      else ["`crate`", "curly braces", "string literal"]) behind.isEmpty)
  if hidden then foreignBlock g attributes else failExpecting ["`extern`"]

/-! ### Imports -/

/-- A tree of names to import; nothing if some part of it begins at the crate root inside
braces. -/
def useTree (rootAllowed : Bool) : Nat → Parser (Option UseTree)
  | 0 => failExpecting []
  | fuel + 1 => do
    if ← sees fun tokens => tokens.beginWithName ||
        ["self", "super", "crate", "try"].any fun word => tokens.beginWithWord word then
      let name ← anyIdent
      if ← punct? "::" then
        return (← useTree false fuel).map (.path name)
      else if ← word? "as" then
        if ← sees Tokens.beginWithName then return some (.rename name (← ident))
        else if ← seesWord "_" then return some (.rename name (← anyIdent))
        else refuseHere "expected identifier or underscore"
      else return some (.name name)
    else if ← punct? "*" then return some .glob
    else if ← seesGroup .brace then
      let (trees, comma) ← group .brace (commasToEnd do
        let rooted ← if rootAllowed then punct? "::" else pure false
        let tree ← useTree (rootAllowed && !rooted) fuel
        return if rooted then none else tree)
      if trees.all Option.isSome then return some (.group (trees.filterMap id) comma)
      else return none
    else failExpecting ["identifier", "`self`", "`super`", "`crate`", "`try`", "`*`",
      "curly braces"]

def useItem (start : Tokens) (attributes : Attributes) (visibility : Visibility) :
    Parser Item := do
  word "use"
  let leading ← punct? "::"
  let tree ← useTree (!leading) (Tokens.size (← get) + 1)
  punct ";"
  match tree with
  | some tree => return .use attributes visibility leading tree
  | none => return .verbatim (← since start)

/-! ### Items -/

/-- A static behind its keyword. -/
def staticRest (g : Grammar) (start : Tokens) (attributes : Attributes)
    (visibility : Visibility) : Parser Item := do
  let mutable ← word? "mut"
  let name ← ident
  if ← punct? "=" then
    let _ ← g.constant
    punct ";"
    return .verbatim (← since start)
  punct ":"
  let ty ← g.ty true
  if ← punct? ";" then return .verbatim (← since start)
  punct "="
  let value ← g.constant
  punct ";"
  return .static mutable
    ⟨attributes, visibility, false, name, ⟨[], false, none⟩, ty, some value⟩

/-- A module with the items inside its braces, or one that stands in another file. -/
def moduleRest (g : Grammar) (attributes : Attributes) (visibility : Visibility) :
    Parser Item := do
  let isUnsafe ← word? "unsafe"
  word "mod"
  let name ← if ← seesWord "try" then anyIdent else ident
  if ← punct? ";" then return .module attributes visibility isUnsafe name none
  else if ← seesGroup .brace then
    let (inner, items) ← group .brace do
      let inner ← innerAttributes g
      let items ← many do
        if ← atEnd then return none
        return some (← g.item)
      return (inner, items)
    return .module (attributes ++ inner) visibility isUnsafe name (some items)
  else failExpecting ["`;`", "curly braces"]

/-- An item whose attributes and visibility have been read. -/
def itemRest (g : Grammar) (start : Tokens) (attributes : Attributes)
    (visibility : Visibility) : Parser Item := do
  let hidden := match visibility with
    | .inherited => true
    | _ => false
  let second ← sees fun tokens => Tokens.beginWithWord "trait" (tokens.drop 1)
  let next := fun (word : String) => sees fun tokens => Tokens.beginWithWord word (tokens.drop 1)
  if ← seesSignature false then
    let (signature, _) ← signature g false
    if ← punct? ";" then return .verbatim (← since start)
    else return .function (← bodied g attributes visibility false signature)
  else if ← seesWord "extern" then
    if ← next "crate" then
      word "extern"
      word "crate"
      let name ← if ← seesWord "self" then anyIdent else ident
      let rename ←
        if ← word? "as" then
          if ← seesWord "_" then some <$> anyIdent else some <$> ident
        else pure none
      punct ";"
      return .externCrate attributes visibility name rename
    else foreignMod g attributes hidden
  else if ← seesWord "use" then useItem start attributes visibility
  else if ← word? "static" then staticRest g start attributes visibility
  else if ← word? "const" then
    match ← constantRest g attributes visibility false with
    | some held =>
      if held.value.isSome then return .constant held else return .verbatim (← since start)
    | none => return .verbatim (← since start)
  else if ← seesWord "unsafe" then
    let isAuto ← sees fun tokens => Tokens.beginWithWord "auto" (tokens.drop 1) &&
      Tokens.beginWithWord "trait" (tokens.drop 2)
    if second || isAuto then
      return .trait (← traitItemRest g attributes visibility)
    else if ← next "impl" then implementation g start attributes visibility
    else if ← next "extern" then
      if hidden then foreignBlock g attributes else failExpecting ["`extern`"]
    else if ← next "mod" then moduleRest g attributes visibility
    else failExpecting ["`trait`", "`auto`", "`impl`", "`extern`", "`mod`"]
  else if ← seesWord "mod" then moduleRest g attributes visibility
  else if ← word? "type" then
    let (found, colon) ← aliasRest g attributes visibility false .before
    if !colon && found.ty.isSome then return .alias found
    else return .verbatim (← since start)
  else if ← seesWord "struct" then return .struct (← structRest g attributes visibility)
  else if ← seesWord "enum" then return .enum (← enumRest g attributes visibility)
  else if (← seesWord "union") && (← sees fun tokens => Tokens.beginWithName (tokens.drop 1)) then
    return .union (← unionRest g attributes visibility)
  else if ← seesWord "trait" then traitOrAlias g attributes visibility
  else if (← seesWord "auto") && second then
    return .trait (← traitItemRest g attributes visibility)
  else if (← seesWord "impl") || ((← seesWord "default") &&
      !(← sees fun tokens => Tokens.beginWith "!" (tokens.drop 1))) then
    implementation g start attributes visibility
  else
    if ← word? "macro" then
      let _ ← ident
      let inputs ← seesGroup .paren
      if inputs then
        let _ ← invocationGroup
      if !(← seesGroup .brace) then
        failExpecting ((if inputs then [] else ["parentheses"]) ++ ["curly braces"])
      let _ ← invocationGroup
      return .verbatim (← since start)
    else if hidden && (← seesInvocation) then
      return .invocation (← invocationItem true attributes)
    else
      failExpecting (["`fn`", "`extern`", "`use`", "`static`", "`const`", "`unsafe`", "`mod`",
        "`type`", "`struct`", "`enum`", "`union`", "`trait`", "`auto`", "`impl`", "`default`",
        "`macro`"] ++ if hidden then invocationStarts else [])

def itemRule (g : Grammar) : Parser Item := do
  let start ← get
  let attributes ← outerAttributes g
  itemRest g start attributes (← visibility)

/-- The items of a file, behind its inner attributes. -/
def fileRule (g : Grammar) : Parser File := do
  let attributes ← innerAttributes g
  let items ← many do
    if ← atEnd then return none
    return some (← g.item)
  return ⟨attributes, items⟩

end Endpoint.Source.Grammar
