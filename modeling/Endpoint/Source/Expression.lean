import Endpoint.Source.Declaration

/-!
Expressions and statements of the source language, and their tokens.
-/

namespace Endpoint.Source

/-- The words in front of a closure's bars, in the order in which they are written. -/
structure ClosureWords where
  binder : Option Binder
  isConst : Bool
  isStatic : Bool
  isAsync : Bool
  moves : Bool

mutual

inductive Expr
  | array (elements : List Expr) (comma : Bool)
  | assign (target value : Expr)
  | async (moves : Bool) (body : Block)
  | attributed (attributes : Attributes) (inner : Expr)
  | await (base : Expr)
  | binary (left : Expr) (operator : String) (right : Expr)
  | block (label : Option Ident) (body : Block)
  | breakOut (label : Option Ident) (value : Option Expr)
  | call (function : Expr) (arguments : List Expr) (comma : Bool)
  | cast (inner : Expr) (ty : Ty)
  | closure (words : ClosureWords) (inputs : List Pattern) (comma : Bool) (output : Option Ty)
      (body : Expr)
  | constant (body : Block)
  | continueLoop (label : Option Ident)
  | field (base : Expr) (member : Member)
  | forLoop (label : Option Ident) (pattern : Pattern) (source : Expr) (body : Block)
  | branch (condition : Expr) (body : Block) (otherwise : Option Expr)
  | index (base : Expr) (position : Expr)
  | infer
  | letIn (pattern : Pattern) (value : Expr)
  | literal (token : Token)
  | loop (label : Option Ident) (body : Block)
  | invocation (path : Path) (delimiter : Delimiter) (inner : Tokens)
  | select (subject : Expr) (attributes : Attributes) (arms : List Arm)
  | methodCall (base : Expr) (name : Ident) (turbofish : Arguments) (arguments : List Expr)
      (comma : Bool)
  | paren (inner : Expr)
  | path (path : QualifiedPath)
  | range (low : Option Expr) (mark : RangeMark) (high : Option Expr)
  | rawAddress (mutable : Bool) (inner : Expr)
  | reference (mutable : Bool) (inner : Expr)
  | repeated (element : Expr) (length : Expr)
  | returnWith (value : Option Expr)
  | record (path : QualifiedPath) (fields : List FieldValue) (comma : Bool)
      (rest : Option (Option Expr))
  | attempt (inner : Expr)
  | attemptBlock (body : Block)
  | tuple (elements : List Expr) (comma : Bool)
  | unary (operator : String) (inner : Expr)
  | unsafeBlock (body : Block)
  | verbatim (tokens : Tokens)
  | whileLoop (label : Option Ident) (condition : Expr) (body : Block)
  | yieldWith (value : Option Expr)

/-- Statements between braces, behind the attributes that belong to the braces. -/
structure Block where
  attributes : Attributes
  stmts : List Stmt

/-- An arm of a `match`. -/
inductive Arm
  | mk (attributes : Attributes) (pattern : Pattern) (guard : Option Expr) (body : Expr)
      (comma : Bool)

/-- A field of a struct literal; without a value it names a variable. -/
inductive FieldValue
  | mk (attributes : Attributes) (member : Member) (value : Option Expr)

inductive Stmt
  | binding (attributes : Attributes) (pattern : Pattern) (value : Option Expr)
      (otherwise : Option Block)
  | item (item : Item)
  | expression (value : Expr) (semicolon : Bool)
  | invocation (attributes : Attributes) (path : Path) (delimiter : Delimiter) (inner : Tokens)
      (semicolon : Bool)

end

instance : Inhabited Expr := ⟨.infer⟩

/-- Statements between braces without attributes of their own. -/
def Block.plain (stmts : List Stmt) : Block := ⟨[], stmts⟩

/-- A label with its colon. -/
def labelTokens : Option Ident → Tokens
  | none => []
  | some name => Token.lifetime name ++ [.punct ':' false]

/-- The name of a label where a jump mentions it. -/
def jumpTokens : Option Ident → Tokens
  | none => []
  | some name => Token.lifetime name

def ClosureWords.tokens (words : ClosureWords) : Tokens :=
  binderTokens words.binder ++ keywordIf words.isConst "const" ++
    keywordIf words.isStatic "static" ++ keywordIf words.isAsync "async" ++
    keywordIf words.moves "move"

mutual

def Expr.tokens : Expr → Tokens
  | .array elements comma => [.bracket (withCommas comma (exprRows elements))]
  | .assign target value => target.tokens ++ .punct '=' false :: value.tokens
  | .async moves body => .word "async" :: keywordIf moves "move" ++ [body.token]
  | .attributed attributes (.range low mark high) =>
    attributes.outer ++ [.paren (valueTokens low ++ Token.operator mark.text ++ valueTokens high)]
  | .attributed attributes inner => attributes.outer ++ inner.tokens
  | .await base => base.tokens ++ [.punct '.' false, .word "await"]
  | .binary left operator right => left.tokens ++ Token.operator operator ++ right.tokens
  | .block label body => labelTokens label ++ [body.token]
  | .breakOut label value => .word "break" :: jumpTokens label ++ valueTokens value
  | .call function arguments comma =>
    function.tokens ++ [.paren (withCommas comma (exprRows arguments))]
  | .cast inner ty => inner.tokens ++ .word "as" :: ty.tokens
  | .closure words inputs comma output body =>
    words.tokens ++ .punct '|' false :: (withCommas comma (inputs.map Pattern.tokens) ++
      .punct '|' false :: (returnTokens output ++ body.tokens))
  | .constant body => [.word "const", body.token]
  | .continueLoop label => .word "continue" :: jumpTokens label
  | .field base member => base.tokens ++ .punct '.' false :: member.tokens
  | .forLoop label pattern source body =>
    labelTokens label ++ .word "for" :: (pattern.tokens ++ .word "in" :: (source.tokens ++
      [body.token]))
  | .branch condition body otherwise =>
    .word "if" :: (condition.tokens ++ body.token :: otherwiseTokens otherwise)
  | .index base position => base.tokens ++ [.bracket position.tokens]
  | .infer => [.word "_"]
  | .letIn pattern value => .word "let" :: (pattern.tokens ++ .punct '=' false :: value.tokens)
  | .literal token => [token]
  | .loop label body => labelTokens label ++ [.word "loop", body.token]
  | .invocation path delimiter inner =>
    path.tokens ++ [.punct '!' false, .group delimiter inner]
  | .select subject attributes arms => .word "match" :: (subject.tokens ++
      [.brace (attributes.inner ++ armRows arms)])
  | .methodCall base name turbofish arguments comma =>
    base.tokens ++ [.punct '.' false, .ident name] ++ turbofish.tokens ++
      [.paren (withCommas comma (exprRows arguments))]
  | .paren inner => [.paren inner.tokens]
  | .path path => path.tokens
  | .range low mark high =>
    valueTokens low ++ Token.operator mark.text ++ valueTokens high
  | .rawAddress mutable inner =>
    [.punct '&' false, .word "raw", .word (if mutable then "mut" else "const")] ++ inner.tokens
  | .reference mutable inner =>
    .punct '&' false :: (keywordIf mutable "mut" ++ inner.tokens)
  | .repeated element length =>
    [.bracket (element.tokens ++ .punct ';' false :: length.tokens)]
  | .returnWith value => .word "return" :: valueTokens value
  | .record path fields comma rest =>
    path.tokens ++ [.brace (withCommas comma (valueRows fields) ++
      baseTokens (comma || fields.isEmpty) rest)]
  | .attempt inner => inner.tokens ++ [.punct '?' false]
  | .attemptBlock body => [.word "try", body.token]
  | .tuple elements comma =>
    [.paren (withCommas (comma || elements.length == 1) (exprRows elements))]
  | .unary operator inner => Token.operator operator ++ inner.tokens
  | .unsafeBlock body => [.word "unsafe", body.token]
  | .verbatim tokens => tokens
  | .whileLoop label condition body =>
    labelTokens label ++ .word "while" :: (condition.tokens ++ [body.token])
  | .yieldWith value => .word "yield" :: valueTokens value

def Block.token : Block → Token
  | ⟨attributes, stmts⟩ => .brace (attributes.inner ++ stmtRows stmts)

def valueTokens : Option Expr → Tokens
  | none => []
  | some value => value.tokens

def otherwiseTokens : Option Expr → Tokens
  | none => []
  | some value => .word "else" :: value.tokens

/-- The rest of a struct literal: two points and the value that the other fields come from. -/
def baseTokens (apart : Bool) : Option (Option Expr) → Tokens
  | none => []
  | some none => (if apart then [] else [.punct ',' false]) ++ Token.operator ".."
  | some (some value) =>
    (if apart then [] else [.punct ',' false]) ++ Token.operator ".." ++ value.tokens

def exprRows : List Expr → List Tokens
  | [] => []
  | value :: rest => value.tokens :: exprRows rest

def armRows : List Arm → Tokens
  | [] => []
  | .mk attributes pattern guard body comma :: rest =>
    attributes.outer ++ pattern.tokens ++
      (match guard with
        | none => []
        | some condition => .word "if" :: condition.tokens) ++
      Token.operator "=>" ++ body.tokens ++
      (if comma then [.punct ',' false] else []) ++ armRows rest

def valueRows : List FieldValue → List Tokens
  | [] => []
  | .mk attributes member value :: rest =>
    (attributes.outer ++ member.tokens ++
      (match value with
        | none => []
        | some value => .punct ':' false :: value.tokens)) :: valueRows rest

def Stmt.tokens : Stmt → Tokens
  | .binding attributes pattern value otherwise =>
    attributes.outer ++ .word "let" :: (pattern.tokens ++
      (match value with
        | none => []
        | some value => .punct '=' false :: value.tokens) ++
      (match otherwise with
        | none => []
        | some body => [.word "else", body.token]) ++ [.punct ';' false])
  | .item item => item.tokens
  | .expression value semicolon =>
    value.tokens ++ if semicolon then [.punct ';' false] else []
  | .invocation attributes path delimiter inner semicolon =>
    attributes.outer ++ path.tokens ++ [.punct '!' false, .group delimiter inner] ++
      if semicolon then [.punct ';' false] else []

def stmtRows : List Stmt → Tokens
  | [] => []
  | statement :: rest => statement.tokens ++ stmtRows rest

end

end Endpoint.Source
