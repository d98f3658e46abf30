import Endpoint.Source.Type

/-!
Patterns, where clauses, signatures and items of the source language. Bodies and constant
expressions are kept as tokens.
-/

namespace Endpoint.Source

/-! ### Paths with a qualified self -/

/-- A path, with the type in `<ty as a::b>` and the number of segments inside the brackets. -/
structure QualifiedPath where
  self : Option (Ty × Nat)
  path : Path

def QualifiedPath.tokens : QualifiedPath → Tokens
  | ⟨none, path⟩ => path.tokens
  | ⟨some (ty, position), path⟩ => (Ty.qualified ty position path).tokens

/-! ### Patterns -/

/-- The mark of a range: `..` without its upper end, `..=` with it. -/
inductive RangeMark
  | halfOpen
  | closed
deriving DecidableEq

def RangeMark.text : RangeMark → String
  | .halfOpen => ".."
  | .closed => "..="

/-- The tokens of one end of a range, if it has this end. -/
def endTokens (held : Option Fragment) : Tokens := (held.map Fragment.tokens).getD []

/-- The field that a pattern or expression names: by name or by position. -/
inductive Member
  | named (name : Ident)
  | indexed (position : Nat)

def Member.tokens : Member → Tokens
  | .named name => [.ident name]
  | .indexed position => [.literal (toString position)]

mutual

inductive Pattern
  | attributed (attributes : Attributes) (inner : Pattern)
  | constant (block : Fragment)
  | ident (reference mutable : Bool) (name : Ident) (sub : Option Pattern)
  | literal (held : Fragment)
  | invocation (path : Path) (delimiter : Delimiter) (inner : Tokens)
  | either (leading : Bool) (cases : List Pattern)
  | paren (inner : Pattern)
  | path (path : QualifiedPath)
  | range (low : Option Fragment) (mark : RangeMark) (high : Option Fragment)
  | reference (mutable : Bool) (target : Pattern)
  | rest
  | slice (elements : List Pattern) (comma : Bool)
  | record (path : QualifiedPath) (fields : List PatternField) (comma : Bool)
      (rest : Option Attributes)
  | tuple (elements : List Pattern) (comma : Bool)
  | tupleRecord (path : QualifiedPath) (elements : List Pattern) (comma : Bool)
  | typed (inner : Pattern) (ty : Ty)
  | wild
  | verbatim (tokens : Tokens)

inductive PatternField
  | mk (attributes : Attributes) (member : Option Member) (pattern : Pattern)

end

instance : Inhabited Pattern := ⟨.wild⟩

mutual

def Pattern.tokens : Pattern → Tokens
  | .attributed attributes inner => attributes.outer ++ inner.tokens
  | .constant block => block.tokens
  | .ident reference mutable name sub =>
    keywordIf reference "ref" ++ keywordIf mutable "mut" ++ .ident name :: subTokens sub
  | .literal held => held.tokens
  | .invocation path delimiter inner =>
    path.tokens ++ [.punct '!' false, .group delimiter inner]
  | .either leading cases =>
    (if leading then [.punct '|' false] else []) ++ barred (patternRows cases)
  | .paren inner => [.paren inner.tokens]
  | .path path => path.tokens
  | .range low mark high => endTokens low ++ Token.operator mark.text ++ endTokens high
  | .reference mutable target =>
    .punct '&' false :: (keywordIf mutable "mut" ++ target.tokens)
  | .rest => Token.operator ".."
  | .slice elements comma => [.bracket (withCommas comma (patternRows elements))]
  | .record path fields comma rest =>
    path.tokens ++ [.brace (withCommas comma (fieldRows fields) ++
      match rest with
      | none => []
      | some attributes =>
        (if comma || fields.isEmpty then [] else [.punct ',' false]) ++ attributes.outer ++
          Token.operator "..")]
  | .tuple elements comma =>
    [.paren (withCommas (comma || (elements.length == 1 && !onlyRest elements))
      (patternRows elements))]
  | .tupleRecord path elements comma =>
    path.tokens ++ [.paren (withCommas comma (patternRows elements))]
  | .typed inner ty => inner.tokens ++ .punct ':' false :: ty.tokens
  | .wild => [.word "_"]
  | .verbatim tokens => tokens

def subTokens : Option Pattern → Tokens
  | none => []
  | some pattern => .punct '@' false :: pattern.tokens

/-- Whether the patterns are the one pattern `..`, which needs no comma in a tuple. -/
def onlyRest : List Pattern → Bool
  | [.rest] => true
  | _ => false

/-- Rows of tokens joined by a bar. -/
def barred : List Tokens → Tokens
  | [] => []
  | [last] => last
  | first :: rest => first ++ .punct '|' false :: barred rest

def patternRows : List Pattern → List Tokens
  | [] => []
  | pattern :: rest => pattern.tokens :: patternRows rest

def fieldRows : List PatternField → List Tokens
  | [] => []
  | .mk attributes member pattern :: rest =>
    (attributes.outer ++
      (match member with
        | some member => member.tokens ++ [.punct ':' false]
        | none => []) ++ pattern.tokens) :: fieldRows rest

end

/-! ### Visibility and generic parameters -/

/-- Who may name an item: its own module only, everyone, or those in the path; the path is
written after `in` unless it is one of `crate`, `self`, `super`. -/
inductive Visibility
  | inherited
  | all
  | restricted (within : Bool) (path : Path)

def Visibility.tokens : Visibility → Tokens
  | .inherited => []
  | .all => [.word "pub"]
  | .restricted within path => [.word "pub", .paren (keywordIf within "in" ++ path.tokens)]

/-- One condition of a where clause. -/
inductive Condition
  | lifetime (name : Ident) (bounds : List Ident) (plus : Bool)
  | type (binder : Option Binder) (ty : Ty) (bounds : List Bound) (plus : Bool)

/-- A where clause: its conditions, and whether a comma stands behind the last. -/
structure WhereClause where
  conditions : List Condition
  comma : Bool

structure Generics where
  parameters : List GenericParameter
  comma : Bool
  clause : Option WhereClause
deriving Inhabited

def GenericParameter.isLifetime : GenericParameter → Bool
  | .lifetime .. => true
  | _ => false

def Condition.tokens : Condition → Tokens
  | .lifetime name bounds plus =>
    Token.lifetime name ++ .punct ':' false :: withPluses plus (bounds.map Token.lifetime)
  | .type binder ty bounds plus =>
    binderTokens binder ++ ty.tokens ++
      .punct ':' false :: withPluses plus (bounds.map Bound.tokens)

/-- The parameters between angle brackets, lifetimes first, or nothing if there are none. -/
def Generics.tokens (generics : Generics) : Tokens :=
  if generics.parameters.isEmpty then []
  else
    .punct '<' false ::
      (orderedArguments generics.comma
        (generics.parameters.map fun parameter => (parameter.isLifetime, parameter.tokens)) ++
      [.punct '>' false])

/-- The where clause, or nothing if it has no condition. -/
def Generics.clauseTokens (generics : Generics) : Tokens :=
  match generics.clause with
  | some clause =>
    if clause.conditions.isEmpty then []
    else .word "where" :: withCommas clause.comma (clause.conditions.map Condition.tokens)
  | none => []

/-! ### Signatures -/

/-- How `self` is taken: the reference sign with its lifetime, `mut`, and a written type. -/
structure Receiver where
  attributes : Attributes
  reference : Option (Option Ident)
  mutable : Bool
  ty : Option Ty

inductive Input
  | receiver (receiver : Receiver)
  | typed (attributes : Attributes) (pattern : Pattern) (ty : Ty)

/-- The three points of a function that takes further arguments, with a name for them. -/
structure Variadic where
  attributes : Attributes
  name : Option Pattern
  comma : Bool

structure Signature where
  isConst : Bool
  isAsync : Bool
  safety : Option Ident
  linkage : Option Linkage
  name : Ident
  generics : Generics
  inputs : List Input
  comma : Bool
  variadic : Option Variadic
  output : Option Ty

def Receiver.tokens (receiver : Receiver) : Tokens :=
  receiver.attributes.outer ++
    (match receiver.reference with
      | some lifetime => .punct '&' false :: (lifetime.map Token.lifetime).getD []
      | none => []) ++
    keywordIf receiver.mutable "mut" ++ [.word "self"] ++
    match receiver.ty with
    | some ty => .punct ':' false :: ty.tokens
    | none => []

def Input.tokens : Input → Tokens
  | .receiver taken => taken.tokens
  | .typed attributes pattern ty =>
    attributes.outer ++ pattern.tokens ++ .punct ':' false :: ty.tokens

def Variadic.tokens (variadic : Variadic) : Tokens :=
  variadic.attributes.outer ++
    (match variadic.name with
      | some pattern => pattern.tokens ++ [.punct ':' false]
      | none => []) ++
    Token.operator "..." ++ if variadic.comma then [.punct ',' false] else []

namespace Signature

/-- The first input, if it is a receiver. -/
def receiver? (signature : Signature) : Option Receiver :=
  match signature.inputs with
  | .receiver taken :: _ => some taken
  | _ => none

def tokens (signature : Signature) : Tokens :=
  keywordIf signature.isConst "const" ++ keywordIf signature.isAsync "async" ++
    (signature.safety.map fun word => [Token.ident word]).getD [] ++
    linkageTokens signature.linkage ++ [.word "fn", .ident signature.name] ++
    signature.generics.tokens ++
    [.paren (withCommas signature.comma (signature.inputs.map Input.tokens) ++
      match signature.variadic with
      | none => []
      | some variadic =>
        (if signature.inputs.isEmpty || signature.comma then [] else [.punct ',' false]) ++
          variadic.tokens)] ++
    returnTokens signature.output ++ signature.generics.clauseTokens

end Signature

/-! ### Items -/

/-- What a `use` declaration brings into scope. -/
inductive UseTree
  | path (name : Ident) (rest : UseTree)
  | name (name : Ident)
  | rename (name : Ident) (shown : Ident)
  | glob
  | group (trees : List UseTree) (comma : Bool)

mutual

def UseTree.tokens : UseTree → Tokens
  | .path name rest => .ident name :: (Token.operator "::" ++ rest.tokens)
  | .name name => [.ident name]
  | .rename name shown => [.ident name, .word "as", .ident shown]
  | .glob => [.punct '*' false]
  | .group trees comma => [.brace (withCommas comma (useRows trees))]

def useRows : List UseTree → List Tokens
  | [] => []
  | tree :: rest => tree.tokens :: useRows rest

end

structure Field where
  attributes : Attributes
  visibility : Visibility
  name : Option Ident
  ty : Ty

/-- The fields of a struct or variant. -/
inductive Fields
  | named (fields : List Field) (comma : Bool)
  | positional (fields : List Field) (comma : Bool)
  | unit

structure Variant where
  attributes : Attributes
  name : Ident
  fields : Fields
  discriminant : Option Fragment

/-- A call of a macro as it stands in a list of items. -/
structure Invocation where
  attributes : Attributes
  path : Path
  name : Option Ident
  delimiter : Delimiter
  inner : Tokens
  semicolon : Bool

structure Method where
  attributes : Attributes
  visibility : Visibility
  isDefault : Bool
  signature : Signature
  body : Option Fragment

/-- A constant or static: what stands between its visibility and the end. -/
structure Constant where
  attributes : Attributes
  visibility : Visibility
  isDefault : Bool
  name : Ident
  generics : Generics
  ty : Ty
  value : Option Fragment

/-- A type alias or associated type. -/
structure AliasItem where
  attributes : Attributes
  visibility : Visibility
  isDefault : Bool
  name : Ident
  generics : Generics
  bounds : List Bound
  plus : Bool
  ty : Option Ty

/-- An item inside a trait or an implementation. -/
inductive Associated
  | method (method : Method)
  | constant (constant : Constant)
  | alias (item : AliasItem)
  | invocation (call : Invocation)
  | verbatim (tokens : Tokens)

structure Trait where
  attributes : Attributes
  visibility : Visibility
  isUnsafe : Bool
  isAuto : Bool
  name : Ident
  generics : Generics
  bounds : List Bound
  plus : Bool
  items : List Associated

structure Enum where
  attributes : Attributes
  visibility : Visibility
  name : Ident
  generics : Generics
  variants : List Variant
  comma : Bool

structure Struct where
  attributes : Attributes
  visibility : Visibility
  name : Ident
  generics : Generics
  fields : Fields

/-- The items that declare a type with fields or variants. -/
inductive DataType
  | struct (item : Struct)
  | enum (item : Enum)
  | union (item : Struct)

structure Implementation where
  attributes : Attributes
  isDefault : Bool
  isUnsafe : Bool
  generics : Generics
  trait : Option (Bool × Path)
  self : Ty
  items : List Associated

/-- An item of a block of foreign declarations. -/
inductive Foreign
  | method (method : Method)
  | static (mutable : Bool) (constant : Constant)
  | type (item : AliasItem)
  | invocation (call : Invocation)
  | verbatim (tokens : Tokens)

inductive Item
  | constant (constant : Constant)
  | enum (item : Enum)
  | externCrate (attributes : Attributes) (visibility : Visibility) (name : Ident)
      (rename : Option Ident)
  | function (method : Method)
  | foreign (attributes : Attributes) (isUnsafe : Bool) (linkage : Linkage)
      (items : List Foreign)
  | implementation (item : Implementation)
  | invocation (call : Invocation)
  | module (attributes : Attributes) (visibility : Visibility) (isUnsafe : Bool) (name : Ident)
      (items : Option (List Item))
  | static (mutable : Bool) (constant : Constant)
  | struct (item : Struct)
  | trait (item : Trait)
  | traitAlias (attributes : Attributes) (visibility : Visibility) (name : Ident)
      (generics : Generics) (bounds : List Bound) (plus : Bool)
  | alias (item : AliasItem)
  | union (item : Struct)
  | use (attributes : Attributes) (visibility : Visibility) (leading : Bool) (tree : UseTree)
  | verbatim (tokens : Tokens)

/-- A source file: its inner attributes and its items. -/
structure File where
  attributes : Attributes
  items : List Item

/-! ### Tokens of items -/

def Field.tokens (field : Field) : Tokens :=
  field.attributes.outer ++ field.visibility.tokens ++
    (match field.name with
      | some name => [.ident name, .punct ':' false]
      | none => []) ++ field.ty.tokens

/-- The fields between their delimiters; nothing for a unit. -/
def Fields.tokens : Fields → Tokens
  | .named fields comma => [.brace (withCommas comma (fields.map Field.tokens))]
  | .positional fields comma => [.paren (withCommas comma (fields.map Field.tokens))]
  | .unit => []

def Variant.tokens (variant : Variant) : Tokens :=
  variant.attributes.outer ++ .ident variant.name :: (variant.fields.tokens ++
    match variant.discriminant with
    | some value => .punct '=' false :: value.tokens
    | none => [])

/-- The token that ends an item without braces. -/
def itemEnd : Tokens := [.punct ';' false]

def Invocation.tokens (call : Invocation) : Tokens :=
  call.attributes.outer ++ call.path.tokens ++ [.punct '!' false] ++
    (call.name.map fun name => [Token.ident name]).getD [] ++
    [.group call.delimiter call.inner] ++ if call.semicolon then itemEnd else []

def Method.tokens (method : Method) : Tokens :=
  method.attributes.outer ++ method.visibility.tokens ++ keywordIf method.isDefault "default" ++
    method.signature.tokens ++
    match method.body with
    | some body => [.brace (method.attributes.inner ++ body.tokens)]
    | none => itemEnd

def Constant.tokens (lead : Tokens) (constant : Constant) : Tokens :=
  constant.attributes.outer ++ constant.visibility.tokens ++
    keywordIf constant.isDefault "default" ++ lead ++ [.ident constant.name] ++
    constant.generics.tokens ++ .punct ':' false :: (constant.ty.tokens ++
    (match constant.value with
      | some value => .punct '=' false :: value.tokens
      | none => []) ++ constant.generics.clauseTokens ++ itemEnd)

/-- A type alias; where its clause stands differs between a free and an associated one only in
written form, here it follows the type. -/
def AliasItem.tokens (item : AliasItem) (clauseFirst : Bool) : Tokens :=
  item.attributes.outer ++ item.visibility.tokens ++ keywordIf item.isDefault "default" ++
    [.word "type", .ident item.name] ++ item.generics.tokens ++
    boundsTokens item.plus (item.bounds.map Bound.tokens) ++
    (if clauseFirst then item.generics.clauseTokens else []) ++
    (match item.ty with
      | some ty => .punct '=' false :: ty.tokens
      | none => []) ++
    (if clauseFirst then [] else item.generics.clauseTokens) ++ itemEnd

def Associated.tokens : Associated → Tokens
  | .method item => item.tokens
  | .constant held => held.tokens [.word "const"]
  | .alias item => item.tokens false
  | .invocation call => call.tokens
  | .verbatim tokens => tokens

def Trait.tokens (item : Trait) : Tokens :=
  item.attributes.outer ++ item.visibility.tokens ++ keywordIf item.isUnsafe "unsafe" ++
    keywordIf item.isAuto "auto" ++ [.word "trait", .ident item.name] ++ item.generics.tokens ++
    boundsTokens item.plus (item.bounds.map Bound.tokens) ++ item.generics.clauseTokens ++
    [.brace (item.attributes.inner ++ (item.items.map Associated.tokens).flatten)]

def Enum.tokens (item : Enum) : Tokens :=
  item.attributes.outer ++ item.visibility.tokens ++ [.word "enum", .ident item.name] ++
    item.generics.tokens ++ item.generics.clauseTokens ++
    [.brace (withCommas item.comma (item.variants.map Variant.tokens))]

/-- The fields of a struct, its where clause and its semicolon, in the order that the kind of
fields asks for. -/
def Struct.tokens (keyword : String) (item : Struct) : Tokens :=
  item.attributes.outer ++ item.visibility.tokens ++ [.word keyword, .ident item.name] ++
    item.generics.tokens ++
    match item.fields with
    | .named .. => item.generics.clauseTokens ++ item.fields.tokens
    | .positional .. => item.fields.tokens ++ item.generics.clauseTokens ++ itemEnd
    | .unit => item.generics.clauseTokens ++ itemEnd

def Implementation.tokens (item : Implementation) : Tokens :=
  item.attributes.outer ++ keywordIf item.isDefault "default" ++
    keywordIf item.isUnsafe "unsafe" ++ [.word "impl"] ++ item.generics.tokens ++
    (match item.trait with
      | some (negative, path) =>
        (if negative then [.punct '!' false] else []) ++ path.tokens ++ [.word "for"]
      | none => []) ++
    item.self.tokens ++ item.generics.clauseTokens ++
    [.brace (item.attributes.inner ++ (item.items.map Associated.tokens).flatten)]

def Foreign.tokens : Foreign → Tokens
  | .method item => item.tokens
  | .static mutable held =>
    held.tokens (.word "static" :: keywordIf mutable "mut")
  | .type item => item.tokens true
  | .invocation call => call.tokens
  | .verbatim tokens => tokens

mutual

def Item.tokens : Item → Tokens
  | .constant held => held.tokens [.word "const"]
  | .enum item => item.tokens
  | .externCrate attributes visibility name rename =>
    attributes.outer ++ visibility.tokens ++ [.word "extern", .word "crate", .ident name] ++
      (match rename with
        | some shown => [.word "as", .ident shown]
        | none => []) ++ itemEnd
  | .function method => method.tokens
  | .foreign attributes isUnsafe linkage items =>
    attributes.outer ++ keywordIf isUnsafe "unsafe" ++ linkageTokens (some linkage) ++
      [.brace (attributes.inner ++ (items.map Foreign.tokens).flatten)]
  | .implementation item => item.tokens
  | .invocation call => call.tokens
  | .module attributes visibility isUnsafe name items =>
    attributes.outer ++ visibility.tokens ++ keywordIf isUnsafe "unsafe" ++
      [.word "mod", .ident name] ++ moduleTokens attributes items
  | .static mutable held =>
    held.tokens (.word "static" :: keywordIf mutable "mut")
  | .struct item => item.tokens "struct"
  | .trait item => item.tokens
  | .traitAlias attributes visibility name generics bounds plus =>
    attributes.outer ++ visibility.tokens ++ [.word "trait", .ident name] ++ generics.tokens ++
      [.punct '=' false] ++ withPluses plus (bounds.map Bound.tokens) ++
      generics.clauseTokens ++ itemEnd
  | .alias item => item.tokens true
  | .union item => item.tokens "union"
  | .use attributes visibility leading tree =>
    attributes.outer ++ visibility.tokens ++ [.word "use"] ++
      (if leading then Token.operator "::" else []) ++ tree.tokens ++ itemEnd
  | .verbatim tokens => tokens

/-- The body of a module, or the semicolon of one that stands elsewhere. -/
def moduleTokens (attributes : Attributes) : Option (List Item) → Tokens
  | none => itemEnd
  | some items => [.brace (attributes.inner ++ itemRows items)]

def itemRows : List Item → Tokens
  | [] => []
  | item :: rest => item.tokens ++ itemRows rest

end

end Endpoint.Source
