import Endpoint.Layout.Expression
import Endpoint.Layout.Page
import Endpoint.Source.Grammar

/-!
How items are laid out, and the text of a whole file.
-/

namespace Endpoint.Layout

open Endpoint.Source Sheet

section

variable (parts : Parts)

/-! ### Generic parameters and where clauses -/

def generics (held : Generics) : Sheet := do
  if !held.parameters.isEmpty then
    word "<"
    cbox 0
    zero
    lifetimesFirst GenericParameter.isLifetime (genericParameter parts) held.parameters
    offset (-indent)
    close
    word ">"

/-- Bounds behind the colon of a condition. -/
def conditionBounds {α : Type} (shift : Int) (write : α → Sheet) (bounds : List α) : Sheet := do
  word ":"
  ibox shift
  match bounds with
  | [] => pure ()
  | first :: rest =>
    nbsp
    write first
    rest.forM fun next => do
      space
      word "+ "
      write next
  close

def whereCondition : Condition → Sheet
  | .lifetime name bounds _ => do
    lifetime name
    conditionBounds indent lifetime bounds
  | .type names ty bounds _ => do
    binder parts names
    parts.ty ty
    conditionBounds (if bounds.length == 1 then 0 else indent) parts.bound bounds

/-- A where clause before a body or, with a semicolon, at the end of an item. -/
def whereClause (semicolon : Bool) (held : Generics) : Sheet := do
  match (held.clause.map WhereClause.conditions).getD [] with
  | [] => if semicolon then word ";" else nbsp
  | conditions =>
    hard
    offset (-indent)
    word "where"
    hard
    each (fun one isLast => do
      whereCondition parts one
      if isLast && semicolon then word ";"
      else
        word ","
        hard) conditions
    if !semicolon then offset (-indent)

/-- A where clause that may share the line with what stands around it. -/
def shortWhereClause (semicolon : Bool) (held : Generics) : Sheet := do
  match (held.clause.map WhereClause.conditions).getD [] with
  | [] => if semicolon then word ";" else nbsp
  | conditions =>
    space
    offset (-indent)
    word "where"
    space
    each (fun one isLast => do
      whereCondition parts one
      if isLast && semicolon then word ";" else commaOrSpace isLast) conditions
    if !semicolon then offset (-indent)

/-! ### Signatures -/

def visibility : Visibility → Sheet
  | .inherited => pure ()
  | .all => word "pub "
  | .restricted _ held => do
    word "pub("
    let alone := !held.leading && held.segments.length == 1 &&
      held.segments.all fun one => ["self", "super", "crate"].contains one.name.written
    wordIf (!alone) "in"
    plainPath held
    word ") "

def receiver (taken : Receiver) : Sheet := do
  outerAttributes parts taken.attributes
  match taken.reference with
  | some (some name) =>
    word "&"
    lifetime name
    nbsp
  | some none => word "&"
  | none => pure ()
  wordIf taken.mutable "mut"
  word "self"
  match taken.ty with
  | some ty =>
    word ": "
    parts.ty ty
  | none => pure ()

def input : Input → Sheet
  | .receiver taken => receiver parts taken
  | .typed attributes held ty => do
    outerAttributes parts attributes
    parts.pattern held
    word ": "
    parts.ty ty

def signature (held : Signature) : Sheet := do
  wordIf held.isConst "const"
  wordIf held.isAsync "async"
  match held.safety with
  | some name => word (name.written ++ " ")
  | none => pure ()
  linkage held.linkage
  word "fn "
  ident held.name
  generics parts held.generics
  word "("
  never
  cbox 0
  zero
  each (fun one isLast => do
    input parts one
    comma (isLast && held.variadic.isNone)) held.inputs
  match held.variadic with
  | some rest =>
    outerAttributes parts rest.attributes
    match rest.name with
    | some name =>
      parts.pattern name
      word ": "
    | none => pure ()
    word "..."
    zero
  | none => pure ()
  offset (-indent)
  close
  word ")"
  cbox (-indent)
  returnType parts held.output
  close

/-! ### Members of items -/

/-- The end of an item in braces, whose box is still open. -/
def closeBrace : Sheet := do
  offset (-indent)
  close
  word "\x7d"

/-- A function: its body in braces, or a semicolon. -/
def method (held : Method) : Sheet := do
  outerAttributes parts held.attributes
  cbox indent
  visibility held.visibility
  wordIf held.isDefault "default"
  signature parts held.signature
  match held.body with
  | some body =>
    whereClause parts false held.signature.generics
    word "\x7b"
    hardIfNonempty
    innerAttributes parts held.attributes
    parts.body body
    closeBrace
  | none =>
    whereClause parts true held.signature.generics
    close
  hard

/-- A constant or static with the words in front of its name. -/
def constantItem (lead : String) (held : Constant) : Sheet := do
  outerAttributes parts held.attributes
  cbox 0
  visibility held.visibility
  wordIf held.isDefault "default"
  word lead
  ident held.name
  generics parts held.generics
  word ": "
  parts.ty held.ty
  match held.value with
  | some value =>
    word " = "
    never
    parts.constant value
  | none => pure ()
  word ";"
  close
  hard

/-- A call of a macro that stands as an item. -/
def invocationItem (call : Invocation) : Sheet := do
  outerAttributes parts call.attributes
  invocation call.path call.name call.delimiter call.inner (call.delimiter != .brace)
  hard

/-- A type inside a trait or an implementation. -/
def associatedType (item : AliasItem) : Sheet := do
  outerAttributes parts item.attributes
  cbox indent
  visibility item.visibility
  wordIf item.isDefault "default"
  word "type "
  ident item.name
  generics parts item.generics
  spacedBounds parts.bound item.bounds
  match item.ty with
  | some ty =>
    word " = "
    never
    ibox (-indent)
    parts.ty ty
    close
  | none => pure ()
  shortWhereClause parts true item.generics
  close
  hard

/-- A type of a foreign block: its name with its parameters, and nothing behind them. -/
def foreignType (item : AliasItem) : Sheet := do
  outerAttributes parts item.attributes
  cbox 0
  visibility item.visibility
  word "type "
  ident item.name
  generics parts item.generics
  word ";"
  close
  hard

def associated : Associated → Sheet
  | .method held => method parts held
  | .constant held => constantItem parts "const " held
  | .alias item => associatedType parts item
  | .invocation call => invocationItem parts call
  | .verbatim tokens => do
    kept tokens
    hard

def foreign : Foreign → Sheet
  | .method held => method parts held
  | .static mutable held => constantItem parts (if mutable then "static mut " else "static ") held
  | .type item => foreignType parts item
  | .invocation call => invocationItem parts call
  | .verbatim tokens => do
    kept tokens
    hard

def field (held : Field) : Sheet := do
  outerAttributes parts held.attributes
  visibility held.visibility
  match held.name with
  | some name =>
    ident name
    word ": "
  | none => pure ()
  parts.ty held.ty

/-- Fields between parentheses, in the box of what they belong to. -/
def positionalFields (held : List Field) : Sheet := do
  word "("
  zero
  each (fun one isLast => do
    field parts one
    comma isLast) held
  offset (-indent)
  word ")"

def variant (held : Variant) : Sheet := do
  outerAttributes parts held.attributes
  ident held.name
  match held.fields with
  | .named held _ =>
    word " \x7b"
    cbox indent
    space
    each (fun one isLast => do
      field parts one
      commaOrSpace isLast) held
    closeBrace
  | .positional held _ =>
    cbox indent
    positionalFields parts held
    close
  | .unit => pure ()
  match held.discriminant with
  | some value =>
    word " = "
    parts.constant value
  | none => pure ()

/-- Rows in braces, each with a comma on its own line. -/
def rowsInBraces {α : Type} (write : α → Sheet) (held : List α) : Sheet := do
  word "\x7b"
  hardIfNonempty
  held.forM fun one => do
    write one
    word ","
    hard
  closeBrace

/-! ### Items -/

def enumItem (held : Enum) : Sheet := do
  outerAttributes parts held.attributes
  cbox indent
  visibility held.visibility
  word "enum "
  ident held.name
  generics parts held.generics
  whereClause parts false held.generics
  rowsInBraces (variant parts) held.variants
  hard

def structItem (keyword : String) (held : Struct) : Sheet := do
  outerAttributes parts held.attributes
  cbox indent
  visibility held.visibility
  word keyword
  ident held.name
  generics parts held.generics
  match held.fields with
  | .named fields _ =>
    whereClause parts false held.generics
    rowsInBraces (field parts) fields
  | .positional fields _ =>
    positionalFields parts fields
    whereClause parts true held.generics
    close
  | .unit =>
    whereClause parts true held.generics
    close
  hard

def traitItem (held : Trait) : Sheet := do
  outerAttributes parts held.attributes
  cbox indent
  visibility held.visibility
  wordIf held.isUnsafe "unsafe"
  wordIf held.isAuto "auto"
  word "trait "
  ident held.name
  generics parts held.generics
  colonBounds parts.bound held.bounds
  whereClause parts false held.generics
  word "\x7b"
  hardIfNonempty
  innerAttributes parts held.attributes
  held.items.forM (associated parts)
  closeBrace
  hard

def implementation (held : Implementation) : Sheet := do
  outerAttributes parts held.attributes
  cbox indent
  ibox (-indent)
  cbox indent
  wordIf held.isDefault "default"
  wordIf held.isUnsafe "unsafe"
  word "impl"
  generics parts held.generics
  close
  nbsp
  match held.trait with
  | some (negative, name) =>
    if negative then word "!"
    path parts .inType name
    space
    word "for "
  | none => pure ()
  parts.ty held.self
  close
  whereClause parts false held.generics
  word "\x7b"
  hardIfNonempty
  innerAttributes parts held.attributes
  held.items.forM (associated parts)
  closeBrace
  hard

/-- Names in braces. -/
def inBraces (names : Sheet) : Sheet := do
  word "\x7b"
  cbox indent
  zero
  ibox 0
  names
  close
  comma true
  offset (-indent)
  close
  word "\x7d"

/-- Whether a tree of names ends in a group. -/
def endsInGroup : UseTree → Bool
  | .path _ rest => endsInGroup rest
  | .group .. => true
  | _ => false

/-- Whether the tree begins with `self`, which has to stand in braces. -/
def beginsWithSelf : UseTree → Bool
  | .path name _ | .name name | .rename name _ => name.written == "self"
  | _ => false

mutual

/-- A tree of names. Braces around a single tree are left out where they may be. -/
def useTree : UseTree → Sheet
  | .path name rest => do
    ident name
    word "::"
    useTree rest
  | .name name => ident name
  | .rename name shown => do
    ident name
    word " as "
    ident shown
  | .glob => word "*"
  | .group trees _ => useGroup trees

def useGroup : List UseTree → Sheet
  | [only] => if beginsWithSelf only then inBraces (useTree only) else useTree only
  | trees => inBraces (useTrees trees)

def useTrees : List UseTree → Sheet
  | [] => pure ()
  | tree :: rest => do
    useTree tree
    if !rest.isEmpty then
      word ","
      if endsInGroup tree then hard else space
    useTrees rest

end

/-! ### Rules of a macro definition -/

/-- What stood last among the rules of a macro definition. -/
inductive RuleState
  | start
  | matcher
  | equal
  | greater
  | expander
deriving DecidableEq

/-- The rules of a macro definition: each matcher and what it expands to on lines of their
own. Tokens that are no rules have no layout. -/
def macroRules : RuleState → List Token → Sheet
  | .expander, [] => do
    word ";"
    hard
  | .start, [] => pure ()
  | _, [] => hard
  | .start, .group delimiter inner :: rest => do
    word (openText delimiter)
    if !inner.isEmpty then
      cbox indent
      zero
      ibox 0
      wholeRow true inner
      close
      zero
      offset (-indent)
      close
    word (closeText delimiter)
    macroRules .matcher rest
  | .matcher, .punct '=' true :: rest => do
    word " ="
    macroRules .equal rest
  | .equal, .punct '>' false :: rest => do
    word ">"
    macroRules .greater rest
  | .greater, .group _ inner :: rest => do
    word " \x7b"
    never
    if !inner.isEmpty then
      cbox indent
      hard
      ibox 0
      wholeRow false inner
      close
      hard
      offset (-indent)
      close
    word "\x7d"
    macroRules .expander rest
  | .expander, .punct ';' false :: rest => do
    word ";"
    hard
    macroRules .start rest
  | _, tokens => kept tokens

/-- The definition of a macro by rules. -/
def macroDefinition (name : Ident) (rules : Tokens) : Sheet := do
  word "macro_rules! "
  ident name
  word " \x7b"
  cbox indent
  hardIfNonempty
  macroRules .start rules
  closeBrace

def item : Item → Sheet
  | .constant held => constantItem parts "const " held
  | .enum held => enumItem parts held
  | .externCrate attributes shown name rename => do
    outerAttributes parts attributes
    visibility shown
    word "extern crate "
    ident name
    match rename with
    | some other =>
      word " as "
      ident other
    | none => pure ()
    word ";"
    hard
  | .function held => method parts held
  | .foreign attributes isUnsafe held items => do
    outerAttributes parts attributes
    cbox indent
    wordIf isUnsafe "unsafe"
    linkage (some held)
    word "\x7b"
    hardIfNonempty
    innerAttributes parts attributes
    items.forM (foreign parts)
    closeBrace
    hard
  | .implementation held => implementation parts held
  | .invocation call =>
    match call.name, call.path.ident? with
    | some name, some called =>
      if called.written == "macro_rules" then do
        outerAttributes parts call.attributes
        macroDefinition name call.inner
        hard
      else invocationItem parts call
    | _, _ => invocationItem parts call
  | .module attributes shown isUnsafe name items => do
    outerAttributes parts attributes
    cbox indent
    visibility shown
    wordIf isUnsafe "unsafe"
    word "mod "
    ident name
    match items with
    | some items =>
      word " \x7b"
      hardIfNonempty
      innerAttributes parts attributes
      items.forM parts.item
      closeBrace
    | none =>
      word ";"
      close
    hard
  | .static mutable held => constantItem parts (if mutable then "static mut " else "static ") held
  | .struct held => structItem parts "struct " held
  | .trait held => traitItem parts held
  | .traitAlias attributes shown name held bounds _ => do
    outerAttributes parts attributes
    cbox indent
    visibility shown
    word "trait "
    ident name
    generics parts held
    word " = "
    never
    match bounds with
    | [] => pure ()
    | first :: rest =>
      parts.bound first
      rest.forM fun next => do
        space
        word "+ "
        parts.bound next
    whereClause parts true held
    close
    hard
  | .alias held => do
    outerAttributes parts held.attributes
    cbox indent
    visibility held.visibility
    word "type "
    ident held.name
    generics parts held.generics
    shortWhereClause parts false held.generics
    match held.ty with
    | some ty =>
      word "= "
      never
      ibox (-indent)
      parts.ty ty
      close
    | none => pure ()
    word ";"
    close
    hard
  | .union held => structItem parts "union " held
  | .use attributes shown leading tree => do
    outerAttributes parts attributes
    visibility shown
    word "use "
    if leading then word "::"
    useTree tree
    word ";"
    hard
  | .verbatim tokens => do
    kept tokens
    hard

end

/-! ### Files -/

/-- A constant kept as tokens, read again for its layout. -/
def constant (write : Expr → Sheet) (value : Fragment) : Sheet :=
  match value.source.parse fun g => g.exprRule true with
  | .ok held => write held
  | .error _ => wholeRow false value.source

/-- A body kept as tokens, read again for its layout. -/
def body (write : List Stmt → Sheet) (statements : Fragment) : Sheet :=
  match statements.source.parse Grammar.stmtsRule with
  | .ok held => write held
  | .error _ => wholeRow false statements.source

/-- The layouts, allowed to call one another down to the given depth. -/
def partsOfDepth : Nat → Parts
  | 0 =>
    let blank : {α : Type} → α → Sheet := fun _ => pure ()
    ⟨blank, blank, fun _ => blank, blank, fun _ => blank, fun _ _ => pure (), blank, blank, blank,
      blank⟩
  | depth + 1 =>
    let inner := partsOfDepth depth
    { ty := ty inner
      bound := bound inner
      arguments := arguments inner
      pattern := pattern inner
      expr := expr inner
      link := link inner
      stmts := stmts inner
      item := item inner
      constant := constant (inner.expr false)
      body := body inner.stmts }

/-- The items of a file one below another. -/
def file (parts : Parts) (held : File) : Sheet := do
  cbox 0
  innerAttributes parts held.attributes
  held.items.forM (item parts)
  close

end Layout

/-- The laid-out text of a source file with that many tokens, if all that it holds has a layout. -/
def Source.File.format? (held : Source.File) (size : Nat) : Option String :=
  (Layout.file (Layout.partsOfDepth (4 * size + 16)) held).render?

end Endpoint
