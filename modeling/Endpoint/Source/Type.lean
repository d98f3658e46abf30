import Endpoint.Source.Token

/-!
Types, paths and bounds of the source language. An expression inside a type (an array length, a
constant argument) is kept as the tokens that were read for it.
-/

namespace Endpoint.Source

/-- The linkage of a function: `extern` alone, or with the literal that names it. -/
abbrev Linkage := Option String

/-- A piece of source that is kept as tokens: those that were read for it, and those that it is
written back as. -/
structure Fragment where
  source : Tokens
  tokens : Tokens

/-- What follows the path of an attribute: nothing, a group, or `=` and an expression. -/
inductive AttributeContent
  | none
  | list (delimiter : Delimiter) (inner : Tokens)
  | value (held : Fragment)

mutual

/-- A type. In a qualified path `<self as a::b>::c` the position counts the segments inside the
angle brackets; it is zero when there is no `as`. -/
inductive Ty
  | array (element : Ty) (length : Fragment)
  | function (shape : FunctionTy)
  | implTrait (bounds : List Bound) (plus : Bool)
  | infer
  | invocation (path : Path) (delimiter : Delimiter) (inner : Tokens)
  | never
  | paren (inner : Ty)
  | path (path : Path)
  | qualified (self : Ty) (position : Nat) (path : Path)
  | pointer (mutable : Bool) (target : Ty)
  | reference (lifetime : Option Ident) (mutable : Bool) (target : Ty)
  | slice (element : Ty)
  | traitObject (keyword : Bool) (bounds : List Bound) (plus : Bool)
  | tuple (elements : List Ty) (comma : Bool)
  | verbatim (tokens : Tokens)

/-- A pointer to a function. -/
structure FunctionTy where
  binder : Option Binder
  isUnsafe : Bool
  linkage : Option Linkage
  inputs : List FunctionInput
  comma : Bool
  variadic : Option FunctionVariadic
  output : Option Ty

/-- One input of a pointer to a function, with its name if it has one. -/
structure FunctionInput where
  attributes : List Attribute
  name : Option Ident
  ty : Ty

/-- The three points of a pointer to a function that takes further arguments. -/
structure FunctionVariadic where
  attributes : List Attribute
  name : Option Ident
  comma : Bool

structure Path where
  leading : Bool
  segments : List Segment

structure Segment where
  name : Ident
  arguments : Arguments

/-- The generic arguments of a path segment: none, `<a, b>` (with `::` in front when `turbofish`
is set), or `(a, b) -> c`. -/
inductive Arguments
  | none
  | angle (turbofish : Bool) (arguments : List Argument) (comma : Bool)
  | paren (inputs : List Ty) (comma : Bool) (output : Option Ty)

inductive Argument
  | lifetime (name : Ident)
  | type (ty : Ty)
  | constant (value : Fragment)
  | associatedType (name : Ident) (arguments : Arguments) (ty : Ty)
  | associatedConstant (name : Ident) (arguments : Arguments) (value : Fragment)
  | constraint (name : Ident) (arguments : Arguments) (bounds : List Bound) (plus : Bool)

inductive Bound
  | lifetime (name : Ident)
  | trait (paren : Bool) (relaxed : Bool) (binder : Option Binder) (path : Path)
  | capture (names : List Tokens) (comma : Bool)
  | verbatim (tokens : Tokens)

/-- The parameters that `for<..>` binds. -/
structure Binder where
  parameters : List GenericParameter
  comma : Bool

inductive GenericParameter
  | lifetime (attributes : List Attribute) (name : Ident) (bounds : List Ident) (plus : Bool)
  | type (attributes : List Attribute) (name : Ident) (bounds : List Bound) (plus : Bool)
      (default : Option Ty)
  | constant (attributes : List Attribute) (name : Ident) (ty : Ty) (default : Option Fragment)

/-- An attribute. An inner one is written `#![..]` and belongs to what encloses it. -/
structure Attribute where
  inner : Bool
  path : Path
  content : AttributeContent

end

abbrev Attributes := List Attribute

instance : Inhabited Ty := ⟨.infer⟩
instance : Inhabited Path := ⟨.mk false []⟩

def Arguments.isEmpty : Arguments → Bool
  | .none => true
  | _ => false

namespace Path

/-- The names of the segments as written. -/
def names (path : Path) : List String := path.segments.map (·.name.written)

/-- A path of one segment without arguments. -/
def ofIdent (name : Ident) : Path := .mk false [.mk name .none]

/-- The identifier that the path is, if it is one alone. -/
def ident? : Path → Option Ident
  | .mk false [.mk name .none] => some name
  | _ => none

/-- Whether no segment has arguments. -/
def isPlain (path : Path) : Bool := path.segments.all (·.arguments.isEmpty)

end Path

/-! ### Tokens -/

/-- Rows of tokens joined by a comma, with a comma behind the last one if asked for. -/
def withCommas (comma : Bool) (rows : List Tokens) : Tokens :=
  Token.commaSeparated rows ++ (if comma && !rows.isEmpty then [.punct ',' false] else [])

/-- Rows of tokens joined by a plus sign, with one behind the last if asked for. -/
def withPluses (plus : Bool) : List Tokens → Tokens
  | [] => []
  | [last] => last ++ (if plus then [.punct '+' false] else [])
  | first :: rest => first ++ .punct '+' false :: withPluses plus rest

/-- A colon and rows joined by plus signs, or nothing if there are no rows. -/
def boundsTokens (plus : Bool) (rows : List Tokens) : Tokens :=
  if rows.isEmpty then [] else .punct ':' false :: withPluses plus rows

/-- The keyword `extern` with the literal behind it, if there is one. -/
def linkageTokens : Option Linkage → Tokens
  | none => []
  | some none => [.word "extern"]
  | some (some name) => [.word "extern", .literal name]

/-- A keyword that stands or does not. -/
def keywordIf (stands : Bool) (word : String) : Tokens :=
  if stands then [.word word] else []

/-- Rows of tokens joined by `::`. -/
def joinColons : List Tokens → Tokens
  | [] => []
  | [last] => last
  | first :: rest => first ++ Token.operator "::" ++ joinColons rest

/-- A path with a qualified self: the segments up to the position stand inside the brackets. -/
def qualifiedTokens (self : Tokens) (position : Nat) (leading : Bool) (rows : List Tokens) :
    Tokens :=
  .punct '<' false :: (self ++
    (if position = 0 then .punct '>' false :: (Token.operator "::" ++ joinColons rows)
    else
      .word "as" :: ((if leading then Token.operator "::" else []) ++
        joinColons (rows.take position) ++ .punct '>' false :: Token.operator "::" ++
        joinColons (rows.drop position))))

/-- Writes argument rows; `apart` says that no comma is needed before the first. -/
def writeArguments : Bool → List (Bool × Tokens × Bool) → Tokens
  | _, [] => []
  | apart, (_, row, follows) :: rest =>
    (if apart then [] else [.punct ',' false]) ++ row ++
      (if follows then [.punct ',' false] else []) ++ writeArguments follows rest

/-- Argument rows with the lifetimes first. A comma is written behind a row if one follows it
in the source order or is needed before the next row. -/
def orderedArguments (comma : Bool) (rows : List (Bool × Tokens)) : Tokens :=
  let marked := rows.zipIdx.map fun (row, index) =>
    (row.1, row.2, index + 1 < rows.length || comma)
  writeArguments true (marked.filter (·.1) ++ marked.filter (!·.1))

def AttributeContent.tokens : AttributeContent → Tokens
  | .none => []
  | .list delimiter inner => [.group delimiter inner]
  | .value held => .punct '=' false :: held.tokens

/-- The name in front of a colon, if there is one. -/
def nameTokens : Option Ident → Tokens
  | none => []
  | some name => [.ident name, .punct ':' false]

mutual

def Ty.tokens : Ty → Tokens
  | .array element length => [.bracket (element.tokens ++ .punct ';' false :: length.tokens)]
  | .function shape => shape.tokens
  | .implTrait bounds plus => .word "impl" :: withPluses plus (boundRows bounds)
  | .infer => [.word "_"]
  | .invocation path delimiter inner =>
    path.tokens ++ [.punct '!' false, .group delimiter inner]
  | .never => [.punct '!' false]
  | .paren inner => [.paren inner.tokens]
  | .path path => path.tokens
  | .qualified self position ⟨leading, segments⟩ =>
    qualifiedTokens self.tokens position leading (segmentRows segments)
  | .pointer mutable target =>
    [.punct '*' false, .word (if mutable then "mut" else "const")] ++ target.tokens
  | .reference lifetime mutable target =>
    .punct '&' false :: ((lifetime.map Token.lifetime).getD [] ++
      keywordIf mutable "mut" ++ target.tokens)
  | .slice element => [.bracket element.tokens]
  | .traitObject keyword bounds plus =>
    keywordIf keyword "dyn" ++ withPluses plus (boundRows bounds)
  | .tuple elements comma => [.paren (withCommas (comma || elements.length == 1) (tyRows elements))]
  | .verbatim tokens => tokens

def tyRows : List Ty → List Tokens
  | [] => []
  | ty :: rest => ty.tokens :: tyRows rest

def FunctionTy.tokens : FunctionTy → Tokens
  | ⟨binder, isUnsafe, linkage, inputs, comma, variadic, output⟩ =>
    binderTokens binder ++ keywordIf isUnsafe "unsafe" ++ linkageTokens linkage ++
      [.word "fn",
        .paren (withCommas comma (inputRows inputs) ++
          variadicTokens (inputs.isEmpty || comma) variadic)] ++
      returnTokens output

def inputRows : List FunctionInput → List Tokens
  | [] => []
  | ⟨attributes, name, ty⟩ :: rest =>
    (outerTokens attributes ++ nameTokens name ++ ty.tokens) :: inputRows rest

/-- The three points behind the inputs of a pointer to a function; `apart` says that no comma is
needed before them. -/
def variadicTokens (apart : Bool) : Option FunctionVariadic → Tokens
  | none => []
  | some ⟨attributes, name, comma⟩ =>
    (if apart then [] else [.punct ',' false]) ++ outerTokens attributes ++ nameTokens name ++
      Token.operator "..." ++ if comma then [.punct ',' false] else []

/-- The arrow and type of a result, if one is declared. -/
def returnTokens : Option Ty → Tokens
  | none => []
  | some ty => Token.operator "->" ++ ty.tokens

def Path.tokens : Path → Tokens
  | ⟨leading, segments⟩ =>
    (if leading then Token.operator "::" else []) ++ joinColons (segmentRows segments)

def segmentRows : List Segment → List Tokens
  | [] => []
  | ⟨name, arguments⟩ :: rest => (.ident name :: arguments.tokens) :: segmentRows rest

/-- Lifetimes stand before all other arguments, as they must. -/
def Arguments.tokens : Arguments → Tokens
  | .none => []
  | .angle turbofish arguments comma =>
    (if turbofish then Token.operator "::" else []) ++ .punct '<' false ::
      (orderedArguments comma (argumentRows arguments) ++ [.punct '>' false])
  | .paren inputs comma output =>
    .paren (withCommas comma (tyRows inputs)) :: returnTokens output

def argumentRows : List Argument → List (Bool × Tokens)
  | [] => []
  | .lifetime name :: rest => (true, Token.lifetime name) :: argumentRows rest
  | .type ty :: rest => (false, ty.tokens) :: argumentRows rest
  | .constant value :: rest => (false, value.tokens) :: argumentRows rest
  | .associatedType name arguments ty :: rest =>
    (false, .ident name :: (arguments.tokens ++ .punct '=' false :: ty.tokens)) ::
      argumentRows rest
  | .associatedConstant name arguments value :: rest =>
    (false, .ident name :: (arguments.tokens ++ .punct '=' false :: value.tokens)) ::
      argumentRows rest
  | .constraint name arguments bounds plus :: rest =>
    (false, .ident name :: (arguments.tokens ++
      .punct ':' false :: withPluses plus (boundRows bounds))) :: argumentRows rest

def Bound.tokens : Bound → Tokens
  | .lifetime name => Token.lifetime name
  | .trait paren relaxed binder path =>
    let inner :=
      if relaxed then .punct '?' false :: (binderTokens binder ++ path.tokens)
      else binderTokens binder ++ path.tokens
    if paren then [.paren inner] else inner
  | .capture names comma =>
    [.word "use", .punct '<' false] ++ withCommas comma names ++ [.punct '>' false]
  | .verbatim tokens => tokens

def boundRows : List Bound → List Tokens
  | [] => []
  | bound :: rest => bound.tokens :: boundRows rest

/-- What `for<..>` binds, if it stands. -/
def binderTokens : Option Binder → Tokens
  | none => []
  | some ⟨parameters, comma⟩ =>
    [.word "for", .punct '<' false] ++ withCommas comma (parameterRows parameters) ++
      [.punct '>' false]

def parameterRows : List GenericParameter → List Tokens
  | [] => []
  | parameter :: rest => parameter.tokens :: parameterRows rest

def GenericParameter.tokens : GenericParameter → Tokens
  | .lifetime attributes name bounds plus =>
    outerTokens attributes ++ Token.lifetime name ++ boundsTokens plus (bounds.map Token.lifetime)
  | .type attributes name bounds plus default =>
    outerTokens attributes ++ .ident name :: (boundsTokens plus (boundRows bounds) ++
      match default with
      | some ty => .punct '=' false :: ty.tokens
      | none => [])
  | .constant attributes name ty default =>
    outerTokens attributes ++ [.word "const", .ident name, .punct ':' false] ++ ty.tokens ++
      match default with
      | some value => .punct '=' false :: value.tokens
      | none => []

def Attribute.tokens : Attribute → Tokens
  | ⟨inner, path, content⟩ =>
    .punct '#' false :: ((if inner then [.punct '!' false] else []) ++
      [.bracket (path.tokens ++ content.tokens)])

/-- The attributes that stand in front of what they belong to. -/
def outerTokens : List Attribute → Tokens
  | [] => []
  | attr :: rest => (if attr.inner then [] else attr.tokens) ++ outerTokens rest

end

def Attributes.outer (attributes : Attributes) : Tokens := outerTokens attributes

/-- The attributes that stand at the beginning of what encloses them. -/
def Attributes.inner (attributes : Attributes) : Tokens :=
  ((attributes.filter (·.inner)).map Attribute.tokens).flatten

end Endpoint.Source
