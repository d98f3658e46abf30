import Endpoint.Layout.Mark
import Endpoint.Source.Expression

/-!
How rows of tokens, attributes, paths and types are laid out. Parts of other kinds inside them
are laid out by the `Parts` at hand.
-/

namespace Endpoint.Layout

open Endpoint.Source

/-- How the generic arguments of a path are written: not at all, as in a type, or behind `::`
as in an expression. -/
inductive PathStyle
  | plain
  | inType
  | inExpr
deriving DecidableEq

/-- The layouts that others call on parts of their input. -/
structure Parts where
  ty : Ty → Sheet
  bound : Bound → Sheet
  arguments : PathStyle → Arguments → Sheet
  pattern : Pattern → Sheet
  /-- An expression; the flag says whether something follows that a closure at its end would
  take in. -/
  expr : Bool → Expr → Sheet
  /-- An expression inside a chain of calls and fields; the flag says whether the chain begins
  a line. -/
  link : Expr → Bool → Sheet
  stmts : List Stmt → Sheet
  item : Item → Sheet
  /-- An expression that is kept as tokens. -/
  constant : Fragment → Sheet
  /-- The statements of a body that is kept as tokens. -/
  body : Fragment → Sheet

namespace Sheet

def ident (name : Ident) : Sheet := word name.written

def lifetime (name : Ident) : Sheet := word (Text.apostrophe.toString ++ name.written)

/-- A word with a space behind it, if it stands. -/
def wordIf (stands : Bool) (text : String) : Sheet := if stands then word (text ++ " ") else pure ()

end Sheet

open Sheet

/-! ### Rows of tokens -/

/-- Words that take a space in front wherever they stand in a row of tokens. -/
def spacedWords : List String :=
  ["as", "async", "await", "box", "break", "const", "continue", "crate", "dyn", "else", "enum",
    "extern", "fn", "for", "if", "impl", "in", "let", "loop", "macro", "match", "mod", "move",
    "mut", "pub", "ref", "return", "static", "struct", "trait", "type", "unsafe", "use", "where",
    "while", "yield"]

/-- What stood last in a row of tokens, as far as the space before the next one hangs on it. -/
inductive RowState
  | start
  | dollar
  | dollarCrate
  | dollarName
  | dollarNameColon
  | dollarGroup
  | dollarGroupMark
  | pound
  | poundBang
  | dot
  | colon
  | colons
  | name
  | nameBang
  | delimited
  | other
deriving DecidableEq

/-- Whether a space stands before the token, and what the token leaves behind. -/
def RowState.next (state : RowState) (matching : Bool) (token : Token) : Bool × RowState :=
  match state, token with
  | .dollar, .ident held =>
    (false,
      if held.written == "crate" then .dollarCrate
      else if matching then .dollarName else .other)
  | .dollarName, .punct ':' false => (false, .dollarNameColon)
  | .dollarNameColon, .ident _ => (false, .other)
  | .dollarGroup, .punct '+' false | .dollarGroup, .punct '*' false
  | .dollarGroup, .punct '?' false => (false, .other)
  | .dollarGroup, .ident _ | .dollarGroup, .literal _ => (false, .dollarGroupMark)
  | .dollarGroup, .punct _ true => (false, .dollarGroup)
  | .dollarGroup, .punct _ false => (false, .dollarGroupMark)
  | .dollarGroupMark, .punct '+' _ | .dollarGroupMark, .punct '*' _ => (false, .other)
  | .pound, .punct '!' _ => (false, .poundBang)
  | .dollar, .group .paren _ => (false, .dollarGroup)
  | .pound, .group .bracket _ | .poundBang, .group .bracket _ => (false, .other)
  | .name, .group .paren _ | .name, .group .bracket _ => (false, .delimited)
  | .name, .punct '!' false => (false, .nameBang)
  | .nameBang, .group .paren _ | .nameBang, .group .bracket _ => (false, .other)
  | .colon, .punct ':' _ => (false, .colons)
  | _, .group .paren _ | _, .group .bracket _ => (true, .delimited)
  | _, .group .brace _ => (true, .other)
  | _, .ident held =>
    if spacedWords.contains held.written then (true, .other)
    else (state != .dot && state != .colons, .name)
  | _, .literal text => (state != .dot, if text.endsWith "." then .other else .name)
  | _, .punct ',' _ | _, .punct ';' _ => (false, .other)
  | _, .punct '.' _ =>
    if matching then (true, .other) else (state != .name && state != .delimited, .dot)
  | _, .punct ':' true => (state != .name && state != .dollarCrate, .colon)
  | _, .punct '$' _ => (true, .dollar)
  | _, .punct '#' _ => (true, .pound)
  | _, .punct _ _ => (true, .other)

def openText : Delimiter → String
  | .paren => "("
  | .brace => "\x7b"
  | .bracket => "["

def closeText : Delimiter → String
  | .paren => ")"
  | .brace => "\x7d"
  | .bracket => "]"

/-- Whether the next token of a row stands tight against this one. -/
def tight : Token → Bool
  | .punct c joint => joint || c == '$'
  | _ => false

/-- What separates a token from the one before it, unless the two stand tight: a space, or a place
where the line may end in front of a dot. -/
def rowGap (spaced : Bool) (token : Token) : Sheet :=
  if spaced then space
  else match token with
    | .punct '.' _ => zero
    | _ => pure ()

mutual

/-- One token of a row. -/
def rowToken (matching : Bool) : Token → Sheet
  | .ident name => ident name
  | .punct c _ => word c.toString
  | .literal text => word text
  | .group delimiter inner => do
    word (openText delimiter)
    if !inner.isEmpty then
      if delimiter == .brace then space
      row matching .start true inner
      if delimiter == .brace then space
    word (closeText delimiter)

/-- A row of tokens as the argument of a macro; the flag says whether the first of them stands
tight against what is in front. -/
def row (matching : Bool) : RowState → Bool → List Token → Sheet
  | _, _, [] => pure ()
  | state, isTight, token :: rest => do
    let (spaced, after) := state.next matching token
    if !isTight then rowGap spaced token
    rowToken matching token
    row matching after (tight token) rest

end

/-- A whole row of tokens. -/
def wholeRow (matching : Bool) (tokens : Tokens) : Sheet := row matching .start true tokens

/-! ### Attributes -/

/-- What stood last inside an attribute. -/
inductive AttributeState
  | word
  | punct
  | comma
deriving DecidableEq

mutual

/-- The tokens of an attribute's group. Words keep a space between them; lines may end there
inside parentheses. -/
def attributeRow (inside : Bool) : AttributeState → List Token → StateM (Array Mark) AttributeState
  | state, [] => return state
  | state, token :: rest => do
    let after ← attributeToken inside state rest.isEmpty token
    attributeRow inside after rest

def attributeToken (inside : Bool) (state : AttributeState) (isLast : Bool) :
    Token → StateM (Array Mark) AttributeState
  | .ident name => do
    if state == .word then (if inside then space else nbsp)
    ident name
    return .word
  | .literal text => do
    if state == .word then (if inside then space else nbsp)
    word text
    return .word
  | .punct c _ => do
    if state == .word && c == '=' then nbsp
    if c == ',' && isLast then
      comma true
      return .comma
    else
      word c.toString
      if c == '=' then nbsp
      else if c == ',' then (if inside then space else nbsp)
      return .punct
  | .group .paren inner => do
    word "("
    cbox indent
    zero
    let after ← attributeRow true .punct inner
    if after != .comma then zero
    offset (-indent)
    close
    word ")"
    return .punct
  | .group delimiter inner => do
    word (openText delimiter)
    let _ ← attributeRow true .punct inner
    word (closeText delimiter)
    return .punct

end

/-- The text of a string literal in quotes or raw, if the value is one. -/
def literalText? (value : Fragment) : Option String :=
  match value.source with
  | [.literal text] => Text.unquote? text
  | _ => none

/-- Whether the comments opened in the text, with this many open before, are closed in it and no
others are. -/
def isBalanced : Nat → List Char → Bool
  | depth, '/' :: '*' :: rest => isBalanced (depth + 1) rest
  | 0, '*' :: '/' :: _ => false
  | depth + 1, '*' :: '/' :: rest => isBalanced depth rest
  | depth, _ :: rest => isBalanced depth rest
  | depth, [] => depth == 0

/-- Whether the text may stand inside a block comment: its nested comments are closed, and no slash
at its end meets the mark that closes it. -/
def fitsBlockComment (text : String) : Bool := isBalanced 0 text.toList && !text.endsWith "/"

/-- The text without the spaces at its end. -/
def trimSpaces (text : String) : String :=
  String.ofList (text.toList.reverse.dropWhile (· == ' ')).reverse

/-- The text without the spaces at the end of every line but the last. -/
def trimLines (text : String) : String :=
  let lines := text.splitOn "\n"
  "\n".intercalate (lines.dropLast.map trimSpaces ++ lines.drop (lines.length - 1))

/-- Whether the text begins with one of the characters. -/
def startsWithOne (chars : List Char) (text : String) : Bool :=
  match text.toList with
  | c :: _ => chars.contains c
  | [] => false

/-- The comment that an attribute with this name and text is written as, if it can be. -/
def commentText? (isDoc inner : Bool) (text : String) : Option String :=
  let oneLine := !text.contains '\n'
  if isDoc then
    if oneLine && (inner || !startsWithOne ['/'] text) then
      some ((if inner then "//!" else "///") ++ trimSpaces text)
    else if fitsBlockComment text && (inner || !startsWithOne ['*', '/'] text) then
      some ((if inner then "/*!" else "/**") ++ trimLines text ++ "*/")
    else none
  else if oneLine then some ("//" ++ trimSpaces text)
  else if fitsBlockComment text && !startsWithOne ['*', '!'] text then
    some ("/*" ++ trimLines text ++ "*/")
  else none

/-- The text of a comment that the attribute stands for. -/
def Attribute.comment? (held : Attribute) : Option String := do
  let name ← held.path.ident?
  if name.written != "doc" && name.written != "comment" then none
  match held.content with
  | .value value => commentText? (name.written == "doc") held.inner (← literalText? value)
  | _ => none

variable (parts : Parts)

/-- A path without generic arguments. -/
def plainPath (path : Path) : Sheet :=
  word ((if path.leading then "::" else "") ++
    "::".intercalate (path.segments.map fun segment => segment.name.written))

/-- One attribute, or the comment that it stands for, on its own line. -/
def attributeLine (held : Attribute) : Sheet := do
  match Attribute.comment? held with
  | some text =>
    word text
    hard
  | none =>
    word (if held.inner then "#![" else "#[")
    plainPath held.path
    match held.content with
    | .none => pure ()
    | .list delimiter inner =>
      let _ ← attributeToken false .word true (.group delimiter inner)
    | .value value =>
      word " = "
      parts.constant value
    word "]"
    space

def outerAttributes (attributes : Attributes) : Sheet :=
  (attributes.filter (!·.inner)).forM (attributeLine parts)

def innerAttributes (attributes : Attributes) : Sheet :=
  (attributes.filter (·.inner)).forM (attributeLine parts)

/-! ### Paths and types -/

def returnType (output : Option Ty) : Sheet := do
  match output with
  | some ty =>
    word " -> "
    parts.ty ty
  | none => pure ()

/-- Lifetimes before all others, each with a comma behind it, the last one's only if broken. -/
def lifetimesFirst {α : Type} (isLifetime : α → Bool) (write : α → Sheet) (held : List α) :
    Sheet :=
  each (fun one isLast => do
      write one
      comma isLast)
    (held.filter isLifetime ++ held.filter (!isLifetime ·))

def isLifetimeArgument : Argument → Bool
  | .lifetime _ => true
  | _ => false

/-- Bounds behind a colon, joined by plus signs. -/
def colonBounds (write : Bound → Sheet) (bounds : List Bound) : Sheet := do
  match bounds with
  | [] => pure ()
  | first :: rest =>
    word ": "
    write first
    rest.forM fun next => do
      word " + "
      write next

/-- One generic argument. -/
def argument : Argument → Sheet
  | .lifetime name => lifetime name
  | .type ty => parts.ty ty
  | .constant value => parts.constant value
  | .associatedType name held ty => do
    ident name
    parts.arguments .inType held
    word " = "
    parts.ty ty
  | .associatedConstant name held value => do
    ident name
    parts.arguments .inType held
    word " = "
    parts.constant value
  | .constraint name held bounds _ => do
    ident name
    parts.arguments .inType held
    colonBounds parts.bound bounds

/-- The generic arguments of a path segment. -/
def arguments (style : PathStyle) (held : Arguments) : Sheet := do
  match held with
  | .none => pure ()
  | .angle _ rows _ =>
    if !rows.isEmpty && style != .plain then
      if style == .inExpr then word "::"
      word "<"
      cbox indent
      zero
      lifetimesFirst isLifetimeArgument (argument parts) rows
      offset (-indent)
      close
      word ">"
  | .paren inputs _ output =>
    cbox indent
    word "("
    zero
    each (fun ty isLast => do
      parts.ty ty
      comma isLast) inputs
    offset (-indent)
    word ")"
    returnType parts output
    close

def segment (style : PathStyle) (held : Segment) : Sheet := do
  ident held.name
  parts.arguments style held.arguments

/-- Segments, each but the first behind `::`, and the first as well if asked for. -/
def segments (style : PathStyle) (leading : Bool) (held : List Segment) : Sheet := do
  match held with
  | [] => pure ()
  | first :: rest =>
    if leading then word "::"
    segment parts style first
    rest.forM fun next => do
      word "::"
      segment parts style next

def path (style : PathStyle) (held : Path) : Sheet :=
  segments parts style held.leading held.segments

/-- A path with the type in `<ty as a::b>`. -/
def qualified (style : PathStyle) (held : QualifiedPath) : Sheet := do
  match held.self with
  | none => path parts style held.path
  | some (ty, position) =>
    word "<"
    parts.ty ty
    if position > 0 then
      word " as "
      segments parts .inType held.path.leading (held.path.segments.take position)
    word ">"
    segments parts style true (held.path.segments.drop position)

/-- Bounds behind a colon, with a possible line break before each plus sign. -/
def spacedBounds {α : Type} (write : α → Sheet) (bounds : List α) : Sheet := do
  match bounds with
  | [] => pure ()
  | first :: rest =>
    word ": "
    write first
    rest.forM fun next => do
      space
      word "+ "
      write next

/-- A parameter of what is generic. -/
def genericParameter : GenericParameter → Sheet
  | .lifetime attributes name bounds _ => do
    outerAttributes parts attributes
    lifetime name
    match bounds with
    | [] => pure ()
    | first :: rest =>
      word ": "
      lifetime first
      rest.forM fun next => do
        word " + "
        lifetime next
  | .type attributes name bounds _ default => do
    outerAttributes parts attributes
    ident name
    ibox indent
    spacedBounds parts.bound bounds
    match default with
    | some ty =>
      space
      word "= "
      parts.ty ty
    | none => pure ()
    close
  | .constant attributes name ty default => do
    outerAttributes parts attributes
    word "const "
    ident name
    word ": "
    parts.ty ty
    match default with
    | some value =>
      word " = "
      parts.constant value
    | none => pure ()

/-- The parameters bound by `for<..>`. -/
def binder (held : Option Binder) : Sheet := do
  match held with
  | some held =>
    word "for<"
    each (fun parameter isLast => do
      genericParameter parts parameter
      if !isLast then word ", ") held.parameters
    word "> "
  | none => pure ()

def bound : Bound → Sheet
  | .lifetime name => lifetime name
  | .trait paren relaxed names held => do
    if paren then word "("
    if relaxed then word "?"
    binder parts names
    path parts .inType held
    if paren then word ")"
  | .capture names _ => do
    word "use<"
    each (fun name isLast => do
      word (Token.listText name)
      if !isLast then word ", ") names
    word ">"
  | .verbatim tokens => kept tokens

/-- Bounds joined by plus signs. -/
def plainBounds (bounds : List Bound) : Sheet := do
  match bounds with
  | [] => pure ()
  | first :: rest =>
    parts.bound first
    rest.forM fun next => do
      word " + "
      parts.bound next

/-- The keyword `extern` and the literal behind it. -/
def linkage (held : Option Linkage) : Sheet := do
  match held with
  | none => pure ()
  | some none => word "extern "
  | some (some name) => word s!"extern {name} "

/-- A macro call with its arguments, and a semicolon if one is asked for and it does not end in
a brace. -/
def invocation (called : Path) (name : Option Ident) (delimiter : Delimiter) (inner : Tokens)
    (semicolon : Bool) : Sheet := do
  plainPath called
  word "!"
  match name with
  | some name =>
    nbsp
    ident name
  | none => pure ()
  word (if delimiter == .brace then " \x7b" else openText delimiter)
  if !inner.isEmpty then
    let break' := if delimiter == .brace then hard else zero
    cbox indent
    break'
    ibox 0
    wholeRow false inner
    close
    break'
    offset (-indent)
    close
  word (closeText delimiter)
  if semicolon && delimiter != .brace then word ";"

/-- A name with a colon behind it, if it is given. -/
def nameColon (name : Option Ident) : Sheet := do
  match name with
  | some name =>
    ident name
    word ": "
  | none => pure ()

/-- A pointer to a function. -/
def functionTy (shape : FunctionTy) : Sheet := do
  binder parts shape.binder
  wordIf shape.isUnsafe "unsafe"
  linkage shape.linkage
  word "fn("
  cbox indent
  zero
  each (fun (input : FunctionInput) isLast => do
    outerAttributes parts input.attributes
    nameColon input.name
    parts.ty input.ty
    comma (isLast && shape.variadic.isNone)) shape.inputs
  match shape.variadic with
  | some rest =>
    outerAttributes parts rest.attributes
    nameColon rest.name
    word "..."
    zero
  | none => pure ()
  offset (-indent)
  close
  word ")"
  returnType parts shape.output

/-- Rows between parentheses; a single one keeps its comma if asked for. -/
def tupleRows {α : Type} (write : α → Sheet) (held : List α) (lone : Bool) : Sheet := do
  word "("
  cbox indent
  zero
  match held with
  | [only] =>
    write only
    if lone then word ","
    zero
  | _ =>
    each (fun one isLast => do
      write one
      comma isLast) held
  offset (-indent)
  close
  word ")"

def ty : Ty → Sheet
  | .array element length => do
    word "["
    parts.ty element
    word "; "
    parts.constant length
    word "]"
  | .function shape => functionTy parts shape
  | .implTrait bounds _ => do
    word "impl "
    plainBounds parts bounds
  | .infer => word "_"
  | .invocation called delimiter inner => invocation called none delimiter inner false
  | .never => word "!"
  | .paren inner => do
    word "("
    parts.ty inner
    word ")"
  | .path held => path parts .inType held
  | .qualified self position held => qualified parts .inType ⟨some (self, position), held⟩
  | .pointer mutable target => do
    word (if mutable then "*mut " else "*const ")
    parts.ty target
  | .reference name mutable target => do
    word "&"
    match name with
    | some name =>
      lifetime name
      nbsp
    | none => pure ()
    wordIf mutable "mut"
    parts.ty target
  | .slice element => do
    word "["
    parts.ty element
    word "]"
  | .traitObject _ bounds _ => do
    word "dyn "
    plainBounds parts bounds
  | .tuple elements _ => tupleRows parts.ty elements true
  | .verbatim tokens => kept tokens

end Endpoint.Layout
