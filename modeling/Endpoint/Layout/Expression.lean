import Endpoint.Layout.Parts
import Endpoint.Source.Numeral
import Endpoint.Source.Precedence

/-!
How patterns, expressions and statements are laid out.
-/

namespace Endpoint.Layout

open Endpoint.Source Sheet

variable (parts : Parts)

/-! ### Patterns -/

def memberName : Member → Sheet
  | .named name => ident name
  | .indexed position => word (toString position)

/-- Whether an alternative is short enough to share a line with others. -/
def isSlight : Pattern → Bool
  | .literal _ | .wild => true
  | _ => false

def pattern : Pattern → Sheet
  | .attributed attributes inner => do
    outerAttributes parts attributes
    parts.pattern inner
  | .constant block => parts.constant block
  | .ident reference mutable name sub => do
    wordIf reference "ref"
    wordIf mutable "mut"
    ident name
    match sub with
    | some inner =>
      word " @ "
      parts.pattern inner
    | none => pure ()
  | .literal held => parts.constant held
  | .invocation called delimiter inner => invocation called none delimiter inner false
  | .either _ cases => do
    if cases.all isSlight then ibox 0 else cbox 0
    match cases with
    | [] => pure ()
    | first :: rest =>
      parts.pattern first
      rest.forM fun next => do
        space
        word "| "
        parts.pattern next
    close
  | .paren inner => do
    word "("
    parts.pattern inner
    word ")"
  | .path held => qualified parts .inExpr held
  | .range low mark high => do
    low.forM parts.constant
    word mark.text
    high.forM parts.constant
  | .reference mutable target => do
    word "&"
    wordIf mutable "mut"
    parts.pattern target
  | .rest => word ".."
  | .slice elements _ => do
    word "["
    each (fun element isLast => do
      parts.pattern element
      comma isLast) elements
    word "]"
  | .record held fields _ rest => do
    cbox indent
    path parts .inExpr held.path
    word " \x7b"
    spaceIfNonempty
    each (fun (field : PatternField) isLast => do
      match field with
      | .mk attributes name inner =>
        outerAttributes parts attributes
        match name with
        | some name =>
          memberName name
          word ": "
        | none => pure ()
        parts.pattern inner
        commaOrSpace (isLast && rest.isNone)) fields
    match rest with
    | some attributes =>
      outerAttributes parts attributes
      word ".."
      space
    | none => pure ()
    offset (-indent)
    close
    word "\x7d"
  | .tuple elements comma => tupleRows parts.pattern elements comma
  | .tupleRecord held elements _ => do
    path parts .inExpr held.path
    word "("
    cbox indent
    zero
    each (fun element isLast => do
      parts.pattern element
      comma isLast) elements
    offset (-indent)
    close
    word ")"
  | .typed inner ty => do
    parts.pattern inner
    word ": "
    parts.ty ty
  | .wild => word "_"
  | .verbatim tokens => kept tokens

/-! ### Kinds of expressions -/

/-- Whether an expression written last in a block without a semicolon gets one. -/
def takesSemicolon : Expr → Bool
  | .assign .. | .breakOut .. | .continueLoop _ | .returnWith _ | .yieldWith _ => true
  | .binary _ operator _ => operator.endsWith "=" && !(["==", "<=", ">=", "!="].contains operator)
  | .attributed _ inner => takesSemicolon inner
  | _ => false

/-- Whether the semicolon behind an expression is dropped. -/
def dropsSemicolon : Expr → Bool
  | .forLoop .. | .whileLoop .. => true
  | .branch _ _ none => true
  | .branch _ _ (some otherwise) => dropsSemicolon otherwise
  | .attributed _ inner => dropsSemicolon inner
  | _ => false

/-- A variable whose name is no wider than the indentation. -/
def isShort : Expr → Bool
  | .path ⟨none, held⟩ =>
    match held.ident? with
    | some name => name.written.utf8ByteSize ≤ 4
    | none => false
  | _ => false

/-- Whether the expression, as the only argument of a call, keeps its own brackets on the line
of the call. -/
def isBlockLike : Expr → Bool
  | .array .. | .async .. | .block .. | .closure .. | .constant .. | .record .. | .attemptBlock ..
  | .tuple .. | .unsafeBlock .. => true
  | _ => false

/-- Whether the brace behind the expression goes on a new line when the expression is broken. -/
def leavesBrace : Expr → Bool
  | .assign .. | .await .. | .binary .. | .cast .. | .field .. | .index .. | .methodCall .. => true
  | .attributed _ inner => leavesBrace inner
  | .breakOut _ (some value) | .returnWith (some value) | .yieldWith (some value) =>
    leavesBrace value
  | .call function _ _ => leavesBrace function
  | .letIn _ value => leavesBrace value
  | .paren inner => leavesBrace inner
  | .range _ _ (some high) => leavesBrace high
  | .rawAddress _ inner | .reference _ inner | .unary _ inner | .attempt inner =>
    leavesBrace inner
  | _ => false

/-- Whether an expression ends by itself as the body of an arm, so that no comma is needed
behind it. -/
def endsArm : Expr → Bool
  | .branch .. | .select .. | .block .. | .unsafeBlock .. | .whileLoop .. | .loop ..
  | .forLoop .. | .attemptBlock .. | .constant .. => true
  | .attributed _ inner => endsArm inner
  | _ => false

/-- Whether an expression ends by itself where it stands first in a statement. -/
def endsItself : Expr → Bool
  | .invocation _ delimiter _ => delimiter == .brace
  | .attributed _ inner => endsItself inner
  | value => endsArm value

/-- Whether the expression is read back as one when it stands first in a statement. -/
def fitsStatement : Expr → Bool
  | .assign first _ | .binary first _ _ | .call first _ _ | .cast first _ | .index first _
  | .range (some first) _ _ => !endsItself first && fitsStatement first
  | .await base | .field base _ | .attempt base => fitsStatement base
  | .methodCall base .. => fitsStatement base
  | .letIn .. => false
  | .attributed _ inner => fitsStatement inner
  | _ => true

/-- Whether an element is short and plain enough to share a line with others: a truth value, a
whole number or a character. -/
def isPlainLiteral : Expr → Bool
  | .literal (.ident _) => true
  | .literal (.literal text) =>
    (Numeral.read? text).isSome || text.startsWith Text.apostrophe.toString ||
      text.startsWith ("b" ++ Text.apostrophe.toString)
  | .attributed _ inner => isPlainLiteral inner
  | _ => false

/-! ### Pieces of expressions -/

def label (name : Option Ident) : Sheet := do
  match name with
  | some name =>
    lifetime name
    word ": "
  | none => pure ()

/-- The label that a jump names. -/
def jump (name : Option Ident) : Sheet := do
  match name with
  | some name =>
    nbsp
    lifetime name
  | none => pure ()

/-- An expression, with parentheses around it if it needs them; inside of them nothing
follows. -/
def grouped (needed followed : Bool) (value : Expr) : Sheet := do
  if needed then
    word "("
    parts.expr false value
    word ")"
  else parts.expr followed value

/-- The operand on the left of an operator. -/
def leftOperand (operator : Precedence) (operand : Expr) : Sheet :=
  grouped parts (operand.groupsLeftOf operator) true operand

/-- The operand on the right of an operator; the flag says whether more follows. -/
def rightOperand (operator : Precedence) (followed : Bool) (operand : Expr) : Sheet :=
  grouped parts (followed && operand.groupsRightOf operator) followed operand

/-- The arguments of a call. -/
def callArguments (arguments : List Expr) : Sheet := do
  match arguments with
  | [only] => if isBlockLike only then parts.expr false only else rows
  | _ => rows
where
  rows : Sheet := do
    cbox indent
    zero
    each (fun argument isLast => do
      parts.expr false argument
      comma isLast) arguments
    offset (-indent)
    close

/-- A break before a link of a chain, unless the chain begins a line with a short variable. -/
def linkBreak (atLineStart : Bool) (base : Expr) : Sheet :=
  if atLineStart && isShort base then pure () else pointBreak

/-- The part of a chain in front of a link. -/
def linkBase (atLineStart : Bool) (base : Expr) : Sheet := do
  if base.groupsLeftOf .tight then
    word "("
    cbox (-indent)
    parts.expr false base
    close
    word ")"
  else parts.link base atLineStart

/-- A call of a method behind what it is called on. The arguments of one that begins a line
with a short variable stand back when asked for. -/
def methodLink (base : Expr) (name : Ident) (turbofish : Arguments) (arguments : List Expr)
    (atLineStart standBack : Bool) : Sheet := do
  linkBase parts atLineStart base
  linkBreak atLineStart base
  word "."
  ident name
  parts.arguments .inExpr turbofish
  cbox (if standBack then -indent else 0)
  word "("
  callArguments parts arguments
  word ")"
  close

/-- A link of a chain of calls, fields, indices and question marks, with all in front of it. -/
def link (value : Expr) (atLineStart : Bool) : Sheet := do
  match value with
  | .await base =>
    linkBase parts atLineStart base
    linkBreak atLineStart base
    word ".await"
  | .call function arguments _ =>
    linkBase parts false function
    word "("
    callArguments parts arguments
    word ")"
  | .field base member =>
    linkBase parts atLineStart base
    linkBreak atLineStart base
    word "."
    memberName member
  | .index base position =>
    linkBase parts atLineStart base
    word "["
    parts.expr false position
    word "]"
  | .methodCall base name turbofish arguments _ =>
    methodLink parts base name turbofish arguments atLineStart false
  | .attempt inner =>
    linkBase parts atLineStart inner
    word "?"
  | _ =>
    cbox (-indent)
    parts.expr true value
    close

/-- A chain on its own; the flag says whether it begins a line, which lets a short variable keep
the first link beside it. -/
def chain (value : Expr) (atLineStart : Bool) : Sheet := do
  match value with
  | .await _ | .field .. =>
    cbox indent
    link parts value atLineStart
    close
  | .methodCall base name turbofish arguments _ =>
    cbox indent
    methodLink parts base name turbofish arguments atLineStart (atLineStart && isShort base)
    close
  | .index base position =>
    first base
    word "["
    parts.expr false position
    word "]"
  | .attempt inner =>
    first inner
    word "?"
  | .call function arguments _ =>
    first function
    word "("
    callArguments parts arguments
    word ")"
  | _ => parts.expr false value
where
  /-- What stands in front of the last link. -/
  first (base : Expr) : Sheet :=
    if base.groupsLeftOf .tight then grouped parts true true base
    else if atLineStart then chain base atLineStart
    else parts.expr true base

/-- An expression at the beginning of a line. -/
def beginning : Expr → Sheet
  | .attributed attributes inner => do
    outerAttributes parts attributes
    beginning inner
  | value => chain parts value true

/-- The attributes of a block and its statements. -/
def blockContents (body : Block) : Sheet := do
  innerAttributes parts body.attributes
  parts.stmts body.stmts

/-- Whether nothing stands between the braces of a block. -/
def isEmptyBlock (body : Block) : Bool :=
  !body.attributes.any (·.inner) && body.stmts.isEmpty

/-- Statements between braces. A single expression may share the line with its braces. -/
def smallBlock (body : Block) : Sheet := do
  word "\x7b"
  if !isEmptyBlock body then
    space
    match body.stmts with
    | [.expression value false] =>
      innerAttributes parts body.attributes
      ibox 0
      beginning parts value
      close
      space
    | _ => blockContents parts body
    offset (-indent)
  word "\x7d"

/-- A small block in a box of its own, behind the words in front of it. -/
def boxedBlock (body : Block) : Sheet := do
  cbox indent
  smallBlock parts body
  close

/-- Statements between braces, each on its own line. -/
def tallBlock (body : Block) : Sheet := do
  word "\x7b"
  never
  cbox indent
  hardIfNonempty
  blockContents parts body
  offset (-indent)
  close
  word "\x7d"

/-- A condition and the space before the brace behind it. -/
def condition (value : Expr) : Sheet := do
  cbox 0
  parts.expr false value
  if leavesBrace value then space else nbsp
  close

/-- The branches behind the first one of an `if`. -/
def elseBranches : Expr → Sheet
  | .branch test body otherwise => do
    word "if "
    cbox (-indent)
    condition parts test
    close
    smallBlock parts body
    match otherwise with
    | some next =>
      word " else "
      elseBranches next
    | none => pure ()
  | .block none body => smallBlock parts body
  | other => do
    word "\x7b"
    space
    ibox indent
    beginning parts other
    close
    space
    offset (-indent)
    word "\x7d"

/-- The body of a closure or an arm without braces of its own, which gets some if it breaks. -/
def braced (value : Expr) (write : Sheet) (tail : String) (whole : Option Char) : Sheet := do
  cbox indent
  let plain := fitsStatement value
  breakAt { Break.ofBlank 0 with before := some (if plain then Char.ofNat 123 else '(') }
  write
  breakAt { Break.ofBlank 0 with
    offset := -indent
    before := if plain && takesSemicolon value then some ';' else none
    behind := if plain then "\x7d" else ")" ++ tail
    whole := whole }
  close

/-- The body of an arm with the braces around a single expression taken off; the unit is an
empty block. -/
def armBody : Expr → Expr
  | .block none ⟨[], [.expression inner false]⟩ => armBody inner
  | .tuple [] _ => .block none (.plain [])
  | value => value

/-- One arm of a `match`. -/
def arm : Arm → Sheet
  | .mk attributes matched guard body _ => do
    outerAttributes parts attributes
    ibox 0
    parts.pattern matched
    match guard with
    | some test =>
      word " if "
      parts.expr false test
    | none => pure ()
    word " => "
    match armBody body with
    | .block name body =>
      label name
      tallBlock parts body
    | .attributed _ (.block name body) =>
      label name
      tallBlock parts body
    | body =>
      never
      braced body (beginning parts body) "," (if !endsArm body then some ',' else none)
    close

/-- Whether the body of a closure gets braces if it breaks. -/
def wrapsBody : Expr → Bool
  | .select .. | .call .. => false
  | body => !isBlockLike body

/-- A closure. -/
def closure (followed : Bool) (words : ClosureWords) (inputs : List Pattern)
    (output : Option Ty) (body : Expr) : Sheet := do
  ibox 0
  binder parts words.binder
  wordIf words.isConst "const"
  wordIf words.isStatic "static"
  wordIf words.isAsync "async"
  wordIf words.moves "move"
  cbox indent
  word "|"
  if !inputs.isEmpty then zero
  each (fun input isLast => do
    parts.pattern input
    if !isLast then
      word ","
      space) inputs
  match output with
  | none =>
    word "|"
    space
    offset (-indent)
    close
    never
    if wrapsBody body then braced body (parts.expr followed body) "" none
    else parts.expr followed body
  | some ty =>
    if !inputs.isEmpty then
      comma true
      offset (-indent)
    word "|"
    close
    word " -> "
    parts.ty ty
    nbsp
    never
    parts.expr followed body
  close

/-- A value behind the word of a jump, if there is one. -/
def jumpValue (followed : Bool) (value : Option Expr) : Sheet :=
  value.forM fun value => do
    nbsp
    parts.expr followed value

/-! ### Expressions -/

def expr (followed : Bool) : Expr → Sheet
  | .array elements _ => do
    if elements.isEmpty then word "[]"
    else if elements.all isPlainLiteral then
      cbox indent
      word "["
      zero
      ibox 0
      each (fun element isLast => do
        parts.expr false element
        if !isLast then
          word ","
          space) elements
      close
      comma true
      offset (-indent)
      word "]"
      close
    else
      word "["
      cbox indent
      zero
      each (fun element isLast => do
        parts.expr false element
        comma isLast) elements
      offset (-indent)
      close
      word "]"
  | .assign target value => do
    ibox 0
    leftOperand parts .assign target
    word " = "
    never
    rightOperand parts .assign followed value
    close
  | .async moves body => do
    word "async "
    wordIf moves "move"
    boxedBlock parts body
  | .attributed attributes inner => do
    outerAttributes parts attributes
    match inner with
    | .range .. => grouped parts true followed inner
    | _ => parts.expr followed inner
  | .binary left operator right => do
    ibox indent
    ibox (-indent)
    leftOperand parts (.ofOperator operator) left
    close
    space
    word operator
    nbsp
    rightOperand parts (.ofOperator operator) followed right
    close
  | .block name body => do
    label name
    boxedBlock parts body
  | .breakOut name value => do
    word "break"
    jump name
    jumpValue parts followed value
  | .cast inner ty => do
    ibox indent
    ibox (-indent)
    leftOperand parts .cast inner
    close
    space
    word "as "
    parts.ty ty
    close
  | .closure words inputs _ output body => closure parts followed words inputs output body
  | .constant body => do
    word "const "
    boxedBlock parts body
  | .continueLoop name => do
    word "continue"
    jump name
  | .forLoop name held source body => do
    ibox 0
    label name
    word "for "
    parts.pattern held
    word " in "
    never
    condition parts source
    tallBlock parts body
    close
  | .branch test body otherwise => do
    cbox indent
    word "if "
    cbox (-indent)
    condition parts test
    close
    match otherwise with
    | some next =>
      smallBlock parts body
      word " else "
      elseBranches parts next
    | none =>
      if body.stmts.isEmpty then word "\x7b\x7d"
      else
        word "\x7b"
        hard
        parts.stmts body.stmts
        offset (-indent)
        word "\x7d"
    close
  | .infer => word "_"
  | .letIn held value => do
    word "let "
    parts.pattern held
    word " = "
    never
    rightOperand parts .letIn followed value
  | .literal token => word token.text
  | .loop name body => do
    label name
    word "loop \x7b"
    cbox indent
    hardIfNonempty
    blockContents parts body
    offset (-indent)
    close
    word "\x7d"
  | .invocation called delimiter inner => invocation called none delimiter inner false
  | .select subject attributes arms => do
    ibox 0
    word "match "
    condition parts subject
    word "\x7b"
    never
    cbox indent
    hardIfNonempty
    innerAttributes parts attributes
    arms.forM fun one => do
      arm parts one
      hard
    offset (-indent)
    close
    word "\x7d"
    close
  | .paren inner => grouped parts true followed inner
  | .path held => qualified parts .inExpr held
  | .range low mark high => do
    match low with
    | some low => leftOperand parts .range low
    | none => if ← afterPoint then nbsp
    word mark.text
    high.forM (rightOperand parts .range followed)
  | .rawAddress mutable inner => do
    word (if mutable then "&raw mut " else "&raw const ")
    rightOperand parts .lead followed inner
  | .reference mutable inner => do
    word "&"
    wordIf mutable "mut"
    rightOperand parts .lead followed inner
  | .repeated element length => do
    word "["
    parts.expr false element
    word "; "
    parts.expr false length
    word "]"
  | .returnWith value => do
    word "return"
    jumpValue parts followed value
  | .record held fields _ rest => do
    let base := rest.join
    cbox indent
    ibox (-indent)
    qualified parts .inExpr held
    close
    word " \x7b"
    spaceIfNonempty
    each (fun (field : FieldValue) isLast => do
      match field with
      | .mk attributes member value =>
        outerAttributes parts attributes
        memberName member
        value.forM fun value => do
          word ": "
          ibox 0
          parts.expr false value
          close
        commaOrSpace (isLast && base.isNone)) fields
    base.forM fun base => do
      word ".."
      parts.expr false base
      space
    offset (-indent)
    closeWithin 34
    word "\x7d"
  | .attemptBlock body => do
    word "try "
    boxedBlock parts body
  | .tuple elements _ => tupleRows (parts.expr false) elements true
  | .unary operator inner => do
    word operator
    rightOperand parts .lead followed inner
  | .unsafeBlock body => do
    word "unsafe "
    boxedBlock parts body
  | .verbatim tokens => kept tokens
  | .whileLoop name test body => do
    label name
    word "while "
    condition parts test
    tallBlock parts body
  | .yieldWith value => do
    word "yield"
    jumpValue parts followed value
  | value => chain parts value false

/-! ### Statements -/

def stmt (isLast : Bool) : Stmt → Sheet
  | .binding attributes held value otherwise => do
    outerAttributes parts attributes
    ibox 0
    word "let "
    parts.pattern held
    match value with
    | some value =>
      word " = "
      never
      parts.expr false value
      match otherwise with
      | some body =>
        space
        word "else "
        close
        never
        cbox indent
        smallBlock parts body
      | none => pure ()
    | none => pure ()
    close
    word ";"
    hard
  | .item item => parts.item item
  | .expression (.verbatim []) true => pure ()
  | .expression value semicolon => do
    ibox 0
    beginning parts value
    if (if semicolon then !dropsSemicolon value else takesSemicolon value) then word ";"
    close
    hard
  | .invocation attributes called delimiter inner semicolon => do
    outerAttributes parts attributes
    invocation called none delimiter inner (semicolon || (!isLast && delimiter != .brace))
    hard

def stmts (body : List Stmt) : Sheet := each (fun one isLast => stmt parts isLast one) body

end Endpoint.Layout
