import Endpoint.Source.Grammar.Pattern
import Endpoint.Source.Precedence

/-!
Rules for expressions and statements.
-/

namespace Endpoint.Source

namespace Grammar

open Source.Parser

/-- The binary operator in front of the tokens. -/
def operator? (tokens : Tokens) : Option (String × Precedence) :=
  Precedence.operators.find? fun entry => tokens.beginWith entry.1

/-- The operator in front with its precedence, of those that go on with an expression. -/
def nextPrecedence : Parser Precedence := do
  let tokens ← get
  match operator? tokens with
  | some (_, found) => return found
  | none =>
    if tokens.beginWith "=" && !tokens.beginWith "=>" then return .assign
    else if tokens.beginWith ".." then return .range
    else if tokens.beginWithWord "as" then return .cast
    else return .jump

def isRange : Expr → Bool
  | .range .. => true
  | .attributed _ inner => isRange inner
  | _ => false

/-- Whether the expression is a comparison, which cannot be chained. -/
def isComparison : Expr → Bool
  | .binary _ operator _ => Precedence.ofOperator operator == .compare
  | _ => false

/-- The mark of a range in an expression, which has no old spelling. -/
def rangeSign : Parser RangeMark := do
  if (← seesPunct "...") && !(← seesPunct "..=") then failExpecting ["`..`", "`..=`"]
  match ← rangeMark? with
  | some mark => return mark
  | none => failExpecting ["`..`", "`..=`"]

/-- Whether a half-open range has no end here. -/
def endsRange (struct : Bool) : Parser Bool :=
  sees fun tokens =>
    tokens.isEmpty || tokens.beginWith "," || tokens.beginWith ";" ||
      (tokens.beginWith "." && !tokens.beginWith "..") || tokens.beginWith "?" ||
      tokens.beginWith "=>" || (!struct && tokens.beginWithGroup .brace) ||
      tokens.beginWith "=" || tokens.beginWith "+" || tokens.beginWith "/" ||
      tokens.beginWith "%" || tokens.beginWith "^" || tokens.beginWith ">" ||
      tokens.beginWith "<=" || tokens.beginWith "!=" || tokens.beginWith "-=" ||
      tokens.beginWith "*=" || tokens.beginWith "&=" || tokens.beginWith "|=" ||
      tokens.beginWith "<<=" || tokens.beginWithWord "as"

/-! ### Blocks and control flow -/

/-- An `if` with its branches; `else if` nests to the right. -/
def branch (g : Grammar) : Nat → Parser Expr
  | 0 => failExpecting []
  | fuel + 1 => do
    word "if"
    let condition ← g.expr false
    let body ← g.block
    if ← word? "else" then
      if ← seesWord "if" then return .branch condition body (some (← branch g fuel))
      else if ← seesGroup .brace then
        return .branch condition body (some (.block none (← g.block)))
      else failExpecting ["`if`", "curly braces"]
    else return .branch condition body none

/-- Whether an expression needs a comma behind it as the body of an arm. -/
def needsComma : Expr → Bool
  | .attributed _ inner => needsComma inner
  | .branch .. | .select .. | .block .. | .unsafeBlock .. | .whileLoop .. | .loop ..
  | .forLoop .. | .attemptBlock .. | .constant .. => false
  | _ => true

/-- Whether an expression needs a semicolon behind it as a statement. -/
def needsSemicolon : Expr → Bool
  | .attributed _ inner => needsSemicolon inner
  | .invocation _ delimiter _ => delimiter != .brace
  | value => needsComma value

/-- An expression with attributes in front, if there are any. One that is kept as tokens has no
place for them. -/
def withAttributes (attributes : Attributes) (value : Expr) : Expr :=
  if attributes.isEmpty then value
  else match value with
    | .attributed inner value => .attributed (attributes ++ inner) value
    | .verbatim tokens => .verbatim tokens
    | value => .attributed attributes value

/-- A loop or a block behind a label. -/
def labelled (g : Grammar) : Parser Expr := do
  let label ← lifetime
  punct ":"
  if ← seesWord "while" then whileLoop g (some label)
  else if ← seesWord "for" then forLoop g (some label)
  else if ← seesWord "loop" then endlessLoop g (some label)
  else if ← seesGroup .brace then return .block (some label) (← attributedBlock g)
  else refuseHere "expected loop or block expression"
where
  whileLoop (g : Grammar) (label : Option Ident) : Parser Expr := do
    word "while"
    let condition ← g.expr false
    return .whileLoop label condition (← attributedBlock g)
  forLoop (g : Grammar) (label : Option Ident) : Parser Expr := do
    word "for"
    let pattern ← alternatives g
    word "in"
    let source ← g.expr false
    return .forLoop label pattern source (← attributedBlock g)
  endlessLoop (g : Grammar) (label : Option Ident) : Parser Expr := do
    word "loop"
    return .loop label (← attributedBlock g)

/-! ### Trailers -/

/-- Whether the literal is a number that is not a whole one. -/
def isFraction (literal : String) : Bool :=
  Tokens.isNumber literal && (Numeral.read? literal).isNone

/-- The positions in a number that reads like a decimal fraction but names fields of fields. -/
def fieldPositions (text : String) : Parser (List Nat) :=
  let parts := text.splitOn "."
  (if text.endsWith "." then parts.dropLast else parts).mapM fieldPosition

/-- Calls, fields, indices and question marks behind an expression. -/
def trailers (g : Grammar) : Nat → Expr → Parser Expr
  | 0, base => return base
  | fuel + 1, base => do
    if ← seesGroup .paren then
      let (arguments, comma) ← group .paren (commasToEnd (g.expr true))
      trailers g fuel (.call base arguments comma)
    else if !isRange base && (← seesPunct ".") && !(← seesPunct "..") then
      punct "."
      match ← get with
      | .literal text :: rest =>
        if isFraction text then
          set rest
          let nested := (← fieldPositions text).foldl
            (fun inner position => Expr.field inner (.indexed position)) base
          if text.endsWith "." then named fuel nested else trailers g fuel nested
        else named fuel base
      | _ => named fuel base
    else if ← seesGroup .bracket then
      let position ← group .bracket (g.expr true)
      trailers g fuel (.index base position)
    else if ← punctWhere? (!isRange base) "?" then trailers g fuel (.attempt base)
    else return base
where
  named (fuel : Nat) (base : Expr) : Parser Expr := do
    if ← word? "await" then trailers g fuel (.await base)
    else
      match ← member with
      | .named name =>
        let turbofish ←
          if ← seesPunct "::" then angleArguments g (← steps) else pure Arguments.none
        if !turbofish.isEmpty || (← seesGroup .paren) then
          let (arguments, comma) ← group .paren (commasToEnd (g.expr true))
          trailers g fuel (.methodCall base name turbofish arguments comma)
        else trailers g fuel (.field base (.named name))
      | position => trailers g fuel (.field base position)

/-! ### Atoms -/

/-- An input of a closure: a pattern, with a type if a colon follows, behind its attributes. A
pattern that is kept as tokens has no place for attributes. -/
def closureInput (g : Grammar) : Parser Pattern := do
  let attributes ← outerAttributes g
  let pattern ← g.pattern
  let input ← if ← punct? ":" then pure (Pattern.typed pattern (← g.ty true)) else pure pattern
  if attributes.isEmpty then return input
  match input with
  | .verbatim tokens => return .verbatim tokens
  | _ => return .attributed attributes input

def closure (g : Grammar) (struct : Bool) : Parser Expr := do
  let binder ← binder? g
  let isConst ← word? "const"
  let isStatic ← word? "static"
  let isAsync ← word? "async"
  let moves ← word? "move"
  punct "|"
  let (inputs, comma) ← commas (seesPunct "|") (closureInput g)
  punct "|"
  let words : ClosureWords := ⟨binder, isConst, isStatic, isAsync, moves⟩
  if ← punct? "->" then
    let output ← g.ty true
    return .closure words inputs comma (some output) (.block none (← g.block))
  else return .closure words inputs comma none (← g.expr struct)

/-- The fields of a struct literal, and the value behind `..` that the others come from. -/
def fieldValues (g : Grammar) :
    Nat → Parser (List FieldValue × Bool × Option (Option Expr))
  | 0 => failExpecting []
  | fuel + 1 => do
    if ← atEnd then return ([], true, none)
    if ← punct? ".." then
      if ← atEnd then return ([], true, some none)
      return ([], true, some (some (← g.expr true)))
    let attributes ← outerAttributes g
    let name ← member
    let isName := match name with
      | .named _ => true
      | .indexed _ => false
    let value ←
      if (← seesPunct ":") || !isName then
        punct ":"
        some <$> g.expr true
      else pure none
    let first := FieldValue.mk attributes name value
    if ← atEnd then return ([first], false, none)
    punct ","
    let (rest, comma, base) ← fieldValues g fuel
    return (first :: rest, comma, base)

/-- A path, a macro call or a struct literal. -/
def pathExpr (g : Grammar) (struct : Bool) : Parser Expr := do
  let found ← qualifiedPath g true
  if found.self.isNone && (← seesPunct "!") && !(← seesPunct "!=") && found.path.isPlain then
    punct "!"
    let (delimiter, inner) ← invocationGroup
    return .invocation found.path delimiter inner
  if struct && (← seesGroup .brace) then
    let (fields, comma, rest) ← group .brace (do fieldValues g ((← get).length + 1))
    return .record found fields (comma && !fields.isEmpty) rest
  return .path found

/-- Whether an expression can begin with the tokens. -/
def beginsExpr (tokens : Tokens) : Bool :=
  match tokens with
  | .ident name :: _ => name != .plain "as"
  | .group .. :: _ | .literal _ :: _ => true
  | _ =>
    (tokens.beginWith "!" && !tokens.beginWith "!=") ||
      (tokens.beginWith "-" && !tokens.beginWith "-=" && !tokens.beginWith "->") ||
      (tokens.beginWith "*" && !tokens.beginWith "*=") ||
      (tokens.beginWith "|" && !tokens.beginWith "|=") ||
      (tokens.beginWith "&" && !tokens.beginWith "&=") || tokens.beginWith ".." ||
      (tokens.beginWith "<" && !tokens.beginWith "<=" && !tokens.beginWith "<<=") ||
      tokens.beginWith "::" || tokens.beginWithLifetime || tokens.beginWith "#"

/-- One arm of a `match`. -/
def arm (g : Grammar) : Parser (Option Arm) := do
  if ← atEnd then return none
  let attributes ← outerAttributes g
  let pattern ← alternatives g
  let guard ← if ← word? "if" then some <$> g.expr true else pure none
  punct "=>"
  let value ← g.alone
  let comma ←
    if needsComma value && !(← atEnd) then
      punct ","
      pure true
    else punct? ","
  return some (.mk attributes pattern guard value comma)

/-- The value behind `let pattern =` in a condition, which binds tighter than `&&`. -/
def letCondition (g : Grammar) (value : Parser Expr) : Parser Expr := do
  word "let"
  let pattern ← alternatives g
  punct "="
  return .letIn pattern (← value)

/-- What may stand in parentheses: the unit, a tuple, or one expression. -/
def parenExpr (g : Grammar) : Parser Expr :=
  group .paren do
    if ← atEnd then return .tuple [] false
    let first ← g.expr true
    if ← atEnd then return .paren first
    punct ","
    let (rest, comma) ← commasToEnd (g.expr true)
    return .tuple (first :: rest) (comma || rest.isEmpty)

/-- What may stand in square brackets: elements, or one element and a length. -/
def arrayExpr (g : Grammar) : Parser Expr :=
  group .bracket do
    if ← atEnd then return .array [] false
    let first ← g.expr true
    if ← punct? ";" then return .repeated first (← g.expr true)
    if ← atEnd then return .array [first] false
    if !(← punct? ",") then refuseHere "expected `,` or `;`"
    let (rest, comma) ← commasToEnd (g.expr true)
    return .array (first :: rest) (comma || rest.isEmpty)

/-- A label behind `break`, which cannot be the label of a loop that is the value. -/
def jumpLabel? (g : Grammar) : Parser (Option Ident) := do
  if ← sees fun tokens => tokens.beginWithLifetime && Tokens.beginWith ":" tokens.afterOne then
    let _ ← g.expr true
    refuse "parentheses required"
  lifetime?

/-- What the compiler knows by name: `builtin #`, a name and arguments. -/
def builtin : Parser Unit := do
  word "builtin"
  punct "#"
  let _ ← ident
  let _ ← group .paren remaining

/-- A tail call, which is kept as tokens like what the compiler knows by name. -/
def tailCall (g : Grammar) : Parser Unit := do
  word "become"
  let _ ← g.expr true

/-- Tokens kept as they were taken. -/
def verbatim (parser : Parser Unit) : Parser Expr := do
  let start ← get
  parser
  return .verbatim (← since start)

/-- Why a cast cannot be followed by what stands in front, if it cannot. -/
def castTrailer? (tokens : Tokens) : Option String :=
  let second := tokens.drop 1
  let third := tokens.drop 2
  if tokens.beginWith "." && !tokens.beginWith ".." then
    if Tokens.beginWithWord "await" second then some "`.await`"
    else if Tokens.beginWithName second &&
        (Tokens.beginWithGroup .paren third || Tokens.beginWith "::" third) then
      some "a method call"
    else some "a field access"
  else if tokens.beginWith "?" then some "`?`"
  else if tokens.beginWithGroup .bracket then some "indexing"
  else if tokens.beginWithGroup .paren then some "a function call"
  else none

/-! ### Operators -/

mutual

/-- The smallest expressions. The number bounds how deep these rules may call one another on
the tokens of one row. -/
def atom (g : Grammar) (struct : Bool) : Nat → Parser Expr
  | 0 => failExpecting []
  | fuel + 1 => do
    let tokens ← get
    let second := tokens.drop 1
    let third := tokens.drop 2
    match tokens with
    | .literal text :: rest =>
      set rest
      return .literal (.literal text)
    | _ =>
    if tokens.beginWithWord "true" || tokens.beginWithWord "false" then
      return .literal (.ident (← anyIdent))
    else if tokens.beginWithWord "async" && (Tokens.beginWithGroup .brace second ||
        (Tokens.beginWithWord "move" second && Tokens.beginWithGroup .brace third)) then
      word "async"
      let moves ← word? "move"
      return .async moves (← g.block)
    else if tokens.beginWithWord "try" && Tokens.beginWithGroup .brace second then
      word "try"
      return .attemptBlock (← g.block)
    else if tokens.beginWith "|" || tokens.beginWithWord "move" ||
        (tokens.beginWithWord "for" && beginsParameters second) ||
        (tokens.beginWithWord "const" && !Tokens.beginWithGroup .brace second) ||
        tokens.beginWithWord "static" ||
        (tokens.beginWithWord "async" &&
          (Tokens.beginWith "|" second || Tokens.beginWithWord "move" second)) then
      closure g struct
    else if tokens.beginWithWord "builtin" && Tokens.beginWith "#" second then verbatim builtin
    else if tokens.beginWithName || tokens.beginWith "::" || tokens.beginWith "<" ||
        (pathWords.any fun word => tokens.beginWithWord word) ||
        (tokens.beginWithWord "try" &&
          (Tokens.beginWith "!" second || Tokens.beginWith "::" second)) then
      pathExpr g struct
    else if tokens.beginWithGroup .paren then parenExpr g
    else if tokens.beginWithWord "break" then
      word "break"
      let label ← jumpLabel? g
      if ← sees fun tokens => beginsExpr tokens && (struct || !tokens.beginWithGroup .brace) then
        return .breakOut label (some (← expression g true fuel))
      else return .breakOut label none
    else if tokens.beginWithWord "continue" then
      word "continue"
      return .continueLoop (← lifetime?)
    else if tokens.beginWithWord "return" then
      word "return"
      if ← sees beginsExpr then return .returnWith (some (← expression g true fuel))
      else return .returnWith none
    else if tokens.beginWithWord "become" then verbatim (tailCall g)
    else if tokens.beginWithGroup .bracket then arrayExpr g
    else if tokens.beginWithWord "let" then
      letCondition g do
        let left ← unary g struct fuel
        climb g struct .compare fuel left
    else if tokens.beginWithWord "if" then branch g (tokens.length + 1)
    else if tokens.beginWithWord "while" then labelled.whileLoop g none
    else if tokens.beginWithWord "for" then labelled.forLoop g none
    else if tokens.beginWithWord "loop" then labelled.endlessLoop g none
    else if tokens.beginWithWord "match" then
      word "match"
      let subject ← g.expr false
      let (attributes, arms) ← group .brace do
        let attributes ← innerAttributes g
        return (attributes, ← many (arm g))
      return .select subject attributes arms
    else if tokens.beginWithWord "yield" then
      word "yield"
      if ← sees beginsExpr then return .yieldWith (some (← expression g true fuel))
      else return .yieldWith none
    else if tokens.beginWithWord "unsafe" then
      word "unsafe"
      return .unsafeBlock (← attributedBlock g)
    else if tokens.beginWithWord "const" then
      word "const"
      return .constant (← attributedBlock g)
    else if tokens.beginWithGroup .brace then return .block none (← attributedBlock g)
    else if tokens.beginWith ".." then
      let mark ← rangeSign
      if mark == .halfOpen && (← endsRange struct) then return .range none mark none
      else return .range none mark (some (← rightSide g struct .range fuel))
    else if tokens.beginWithWord "_" then
      word "_"
      return .infer
    else if tokens.beginWithLifetime then labelled g
    else refuseHere "expected an expression"

/-- Operators in front of an expression, or an atom with its trailers. -/
def unary (g : Grammar) (struct : Bool) : Nat → Parser Expr
  | 0 => failExpecting []
  | fuel + 1 => do
    let start ← get
    let attributes ← outerAttributes g
    if ← seesPunct "&" then
      punct "&"
      let raw ← sees fun tokens =>
        tokens.beginWithWord "raw" && (Tokens.beginWithWord "mut" (tokens.drop 1) ||
          Tokens.beginWithWord "const" (tokens.drop 1))
      if raw then
        word "raw"
        let mutable ← word? "mut"
        if !mutable then word "const"
        return withAttributes attributes (.rawAddress mutable (← unary g struct fuel))
      let mutable ← word? "mut"
      return withAttributes attributes (.reference mutable (← unary g struct fuel))
    else if ← punct? "*" then
      return withAttributes attributes (.unary "*" (← unary g struct fuel))
    else if ← punct? "!" then
      return withAttributes attributes (.unary "!" (← unary g struct fuel))
    else if ← punct? "-" then
      return withAttributes attributes (.unary "-" (← unary g struct fuel))
    else
      let base ← atom g struct fuel
      let whole ← trailers g ((← get).length + 1) base
      match whole with
      | .verbatim _ => return .verbatim (← since start)
      | .range .. =>
        if !attributes.isEmpty then
          refuse "attributes are not allowed on range expressions starting with `..`"
        return whole
      | _ => return withAttributes attributes whole

/-- Goes on with an expression through operators that bind at least as tightly as `least`. -/
def climb (g : Grammar) (struct : Bool) (least : Precedence) : Nat → Expr → Parser Expr
  | 0, left => return left
  | fuel + 1, left => do
    let tokens ← get
    if isRange left then return left
    match operator? tokens with
    | some (operator, found) =>
      if found < least then return left
      if found == .compare && isComparison left then
        refuseHere "comparison operators cannot be chained"
      punct operator
      let right ← rightSide g struct found fuel
      climb g struct least fuel (.binary left operator right)
    | none =>
      if least ≤ Precedence.assign && tokens.beginWith "=" && !tokens.beginWith "=>" then
        punct "="
        let right ← rightSide g struct .assign fuel
        climb g struct least fuel (.assign left right)
      else if least ≤ Precedence.range && tokens.beginWith ".." then
        let mark ← rangeSign
        if mark == .halfOpen && (← endsRange struct) then
          climb g struct least fuel (.range (some left) mark none)
        else
          let right ← rightSide g struct .range fuel
          climb g struct least fuel (.range (some left) mark (some right))
      else if least ≤ Precedence.cast && tokens.beginWithWord "as" then
        word "as"
        let target ← g.ty false
        match castTrailer? (← get) with
        | some kind => refuseHere s!"casts cannot be followed by {kind}"
        | none => pure ()
        climb g struct least fuel (.cast left target)
      else return left

/-- The right side of an operator: what binds tighter than it. -/
def rightSide (g : Grammar) (struct : Bool) (operator : Precedence) : Nat → Parser Expr
  | 0 => failExpecting []
  | fuel + 1 => do
    let first ← unary g struct fuel
    tighten g struct operator fuel first

/-- Lets tighter operators take the expression as their left side. -/
def tighten (g : Grammar) (struct : Bool) (operator : Precedence) : Nat → Expr → Parser Expr
  | 0, value => return value
  | fuel + 1, value => do
    let next ← nextPrecedence
    if operator < next || (next == operator && operator == .assign) then
      let before := (← get).length
      let wider ← climb g struct next fuel value
      if (← get).length == before then return wider
      else tighten g struct operator fuel wider
    else return value

/-- An expression; `struct` says whether a struct literal may stand at its top. -/
def expression (g : Grammar) (struct : Bool) : Nat → Parser Expr
  | 0 => failExpecting []
  | fuel + 1 => do
    let left ← unary g struct fuel
    climb g struct .jump fuel left

/-- An expression as a statement or as the body of an arm: one that ends in a block is not
taken as the left side of an operator, only of a trailing `.` or `?`. -/
def bounded (g : Grammar) : Nat → Parser Expr
  | 0 => failExpecting []
  | fuel + 1 => do
    let attributes ← outerAttributes g
    let tokens ← get
    let second := tokens.drop 1
    let blockLike :=
      tokens.beginWithWord "if" || tokens.beginWithWord "while" ||
        (tokens.beginWithWord "for" && !beginsParameters second) ||
        tokens.beginWithWord "loop" || tokens.beginWithWord "match" ||
        (tokens.beginWithWord "try" && Tokens.beginWithGroup .brace second) ||
        tokens.beginWithWord "unsafe" ||
        (tokens.beginWithWord "const" && Tokens.beginWithGroup .brace second) ||
        tokens.beginWithGroup .brace || tokens.beginWithLifetime
    if blockLike then
      let base ← atom g true fuel
      if ← sees fun tokens =>
          (tokens.beginWith "." && !tokens.beginWith "..") || tokens.beginWith "?" then
        let whole ← trailers g ((← get).length + 1) base
        climb g true .jump fuel (withAttributes attributes whole)
      else return withAttributes attributes base
    else
      let left ← unary g true fuel
      climb g true .jump fuel (withAttributes attributes left)

end

/-- More steps than the rules for expressions can take on the tokens in front. -/
def exprSteps : Parser Nat := return 8 * (← get).length + 24

def exprRule (g : Grammar) (struct : Bool) : Parser Expr := do
  expression g struct (← exprSteps)

def aloneRule (g : Grammar) : Parser Expr := do bounded g (← exprSteps)

/-! ### Statements -/

/-- Whether the last token is a group in braces. -/
def tokensEndInBrace (tokens : Tokens) : Bool :=
  match tokens.getLast? with
  | some (.group delimiter _) => delimiter == .brace
  | _ => false

mutual

/-- Whether a type ends in a brace. -/
def tyEndsInBrace : Ty → Bool
  | .function ⟨_, _, _, _, _, _, some output⟩ => tyEndsInBrace output
  | .implTrait bounds _ | .traitObject _ bounds _ => boundsEndInBrace bounds
  | .invocation _ delimiter _ => delimiter == .brace
  | .path ⟨_, segments⟩ | .qualified _ _ ⟨_, segments⟩ => segmentsEndInBrace segments
  | .pointer _ target | .reference _ _ target => tyEndsInBrace target
  | .verbatim tokens => tokensEndInBrace tokens
  | _ => false

def boundsEndInBrace : List Bound → Bool
  | [] => false
  | [.trait _ _ _ ⟨_, segments⟩] => segmentsEndInBrace segments
  | [.verbatim tokens] => tokensEndInBrace tokens
  | _ :: rest => boundsEndInBrace rest

def segmentsEndInBrace : List Segment → Bool
  | [] => false
  | [⟨_, .paren _ _ (some output)⟩] => tyEndsInBrace output
  | _ :: rest => segmentsEndInBrace rest

end

/-- Whether an expression ends in a brace, so that no `else` may follow it. -/
def endsInBrace : Expr → Bool
  | .attributed _ inner => endsInBrace inner
  | .async .. | .block .. | .constant .. | .forLoop .. | .branch .. | .loop .. | .select ..
  | .record .. | .attemptBlock .. | .unsafeBlock .. | .whileLoop .. => true
  | .assign _ value => endsInBrace value
  | .binary _ _ right => endsInBrace right
  | .breakOut _ (some value) | .returnWith (some value) | .yieldWith (some value) =>
    endsInBrace value
  | .cast _ ty => tyEndsInBrace ty
  | .closure _ _ _ _ body => endsInBrace body
  | .letIn _ value => endsInBrace value
  | .invocation _ delimiter _ => delimiter == .brace
  | .range _ _ (some high) => endsInBrace high
  | .rawAddress _ inner | .reference _ inner | .unary _ inner => endsInBrace inner
  | .verbatim tokens => tokensEndInBrace tokens
  | _ => false

/-- A `let` statement. -/
def letStatement (g : Grammar) (attributes : Attributes) : Parser Stmt := do
  word "let"
  let pattern ← g.pattern
  let pattern ← if ← punct? ":" then pure (.typed pattern (← g.ty true)) else pure pattern
  if ← punct? "=" then
    let value ← g.expr true
    let otherwise ←
      if ← wordWhere? (!endsInBrace value) "else" then some <$> g.block else pure none
    punct ";"
    return .binding attributes pattern (some value) otherwise
  else
    punct ";"
    return .binding attributes pattern none none

/-- Whether an item stands in front rather than an expression. -/
def seesItem : Parser Bool :=
  sees fun tokens =>
    let second := tokens.drop 1
    let third := tokens.drop 2
    let word := fun text => tokens.beginWithWord text
    let next := fun text => Tokens.beginWithWord text second
    let after := fun text => Tokens.beginWithWord text third
    word "pub" || (word "crate" && !Tokens.beginWith "::" second) || word "extern" ||
      word "use" || (word "static" && (next "mut" || Tokens.beginWithName second)) ||
      (word "const" && !(Tokens.beginWithGroup .brace second || next "static" ||
        (next "async" && !(after "unsafe" || after "extern" || after "fn")) || next "move" ||
        Tokens.beginWith "|" second)) ||
      (word "unsafe" && !Tokens.beginWithGroup .brace second) ||
      (word "async" && (next "unsafe" || next "extern" || next "fn")) || word "fn" ||
      word "mod" || word "type" || word "struct" || word "enum" ||
      (word "union" && Tokens.beginWithName second) || (word "auto" && next "trait") ||
      word "trait" || (word "default" && (next "unsafe" || next "impl")) || word "impl" ||
      word "macro"

/-- The path of a macro call in front, with the tokens behind its `!`. -/
def invocationAhead : Parser (Option (Path × Tokens)) := do
  match ← ahead (do return (← plainPath, ← get)) with
  | some (path, rest) => return if rest.beginWith "!" then some (path, rest.drop 1) else none
  | none => return none

/-- Puts the attributes of a statement on the expression that they stand in front of. -/
def attributeFirst (attributes : Attributes) : Expr → Expr
  | .assign target value => .assign (attributeFirst attributes target) value
  | .binary left operator right => .binary (attributeFirst attributes left) operator right
  | .cast inner ty => .cast (attributeFirst attributes inner) ty
  | value => withAttributes attributes value

/-- One statement. -/
def statement (g : Grammar) : Parser Stmt := do
  let start ← get
  let attributes ← outerAttributes g
  let call ← invocationAhead
  let isItemCall := match call with
    | some (_, rest) => Tokens.beginWithName rest || Tokens.beginWithWord "try" rest
    | none => false
  match call with
  | some (path, .group .brace inner :: rest) =>
    let goesOn := (Tokens.beginWith "." rest && !Tokens.beginWith ".." rest) ||
      Tokens.beginWith "?" rest
    if !goesOn then
      set rest
      let semicolon ← punct? ";"
      return .invocation attributes path .brace inner semicolon
  | _ => pure ()
  if ← seesWord "let" then letStatement g attributes
  else if isItemCall || (← seesItem) then
    set start
    return .item (← g.item)
  else
    let value ← g.alone
    let semicolon ← punct? ";"
    match value with
    | .invocation path delimiter inner =>
      if semicolon || delimiter == .brace then
        return .invocation attributes path delimiter inner semicolon
      else return .expression (withAttributes attributes value) false
    | _ => return .expression (attributeFirst attributes value) semicolon

/-- Whether a statement needs a semicolon before another one. -/
def lacksSemicolon : Stmt → Bool
  | .expression value false => needsSemicolon value
  | .invocation _ _ delimiter _ false => delimiter != .brace
  | _ => false

/-- The statements of a block, up to its end. -/
def stmtsFor (g : Grammar) : Nat → Parser (List Stmt)
  | 0 => failExpecting []
  | fuel + 1 => do
    if ← atEnd then return []
    if ← punct? ";" then return .expression (.verbatim []) true :: (← stmtsFor g fuel)
    let first ← statement g
    if lacksSemicolon first && !(← atEnd) then refuse "unexpected token, expected `;`"
    return first :: (← stmtsFor g fuel)

def stmtsRule (g : Grammar) : Parser (List Stmt) := do stmtsFor g ((← get).length + 1)

end Grammar

end Endpoint.Source
