import Endpoint.Config
import Endpoint.Definition
import Endpoint.Source.Literal
import Endpoint.Source.Phrase

/-!
The code of a method: a plan of the request that it makes, and the tokens of the plan. The body
builds the path, then the request, sends it, and hands out the result.
-/

namespace Endpoint.Emission

open Source (Ident Token Tokens Ty)

/-- What emitted code hangs on besides the definition: the crate that it calls, and the policies
of query values. -/
structure Context where
  runtime : Ident
  query : QueryPolicy

/-- The context of settings. -/
def Context.ofConfig (config : Config) : Except Failure Context :=
  match Ident.ofWritten? config.runtimeCrate with
  | some runtime => .ok ⟨runtime, config.query⟩
  | none => .error (.identifier config.runtimeCrate)

/-- A statement that builds the path of a request. -/
inductive Statement
  | letPath (mutable : Bool) (initial : String)
  | pushText (text : String)
  | pushValue (parameter : Ident)
  | letQuery
  | pushQuery (key : String) (parameter : Ident) (access : Access) (policy : Policy)
  | pushFinished
deriving DecidableEq, Repr

/-- What a request carries besides its path. -/
inductive Attachment
  | body (parameter : Ident)
  | cancellation (parameter : Ident)
deriving DecidableEq, Repr

/-- The request that a method makes. -/
structure Plan where
  statements : List Statement
  verb : Verb
  attachments : List Attachment
deriving DecidableEq, Repr

/-! ### Plans -/

/-- The parameter that a placeholder stands for; one that is bound to none stands for a
parameter of its own name. -/
def routeParameter (bindings : List Binding) (placeholder : String) : Ident :=
  match bindings.find? fun binding => binding.role == .route placeholder with
  | some binding => binding.parameter
  | none => .plain placeholder

/-- The statement that adds a segment to the path. -/
def segmentStatement (bindings : List Binding) : Route.Segment → Statement
  | .literal text => .pushText text
  | .placeholder name => .pushValue (routeParameter bindings name)

/-- The literal that a route begins with, and the other segments. -/
def splitInitial : List Route.Segment → String × List Route.Segment
  | .literal text :: rest => (text, rest)
  | segments => ("", segments)

/-- The statements that add the keys of a parameter to the query. -/
def keyStatements (query : QueryPolicy) (binding : Binding) : List Statement :=
  match binding.role with
  | .query keys composite =>
    let policy := if composite then query.compositeFields else query.scalars
    keys.map fun key => .pushQuery key.key binding.parameter key.access policy
  | _ => []

/-- The statements that build the query, or none if there are no keys. -/
def queryStatements (query : QueryPolicy) (bindings : List Binding) : List Statement :=
  match bindings.flatMap (keyStatements query) with
  | [] => []
  | pushes => .letQuery :: (pushes ++ [.pushFinished])

/-- What a parameter attaches to the request. -/
def attachment? (binding : Binding) : Option Attachment :=
  match binding.role with
  | .body => some (.body binding.parameter)
  | .cancellation _ => some (.cancellation binding.parameter)
  | _ => none

/-- The plan of the request that a method makes. -/
def plan (query : QueryPolicy) (method : MethodDefinition) : Plan :=
  let (initial, segments) := splitInitial method.route.segments
  let pushes := segments.map (segmentStatement method.bindings) ++
    queryStatements query method.bindings
  ⟨.letPath (!pushes.isEmpty) initial :: pushes, method.verb,
    method.bindings.filterMap attachment?⟩

/-! ### Tokens -/

/-- The path of the runtime crate. -/
def Context.crate (context : Context) : Tokens :=
  Token.operator "::" ++ [.ident context.runtime]

/-- A path into the runtime crate. -/
def Context.path (context : Context) (rest : String) : Tokens :=
  context.crate ++ Token.phrase (":: " ++ rest)

/-- A reference to a parameter. -/
def referenceTo (parameter : Ident) : Tokens := [.punct '&' false, .ident parameter]

/-- The statement `path . push_str (..) ;`. -/
def pushPath (argument : Tokens) : Tokens :=
  Token.phrase "path . push_str" ++ [.paren argument, .punct ';' false]

/-- The statement that pushes a query value. -/
def queryPushTokens (context : Context) (key : String) (value : Tokens) (policy : Policy) : Tokens :=
  Token.phrase "query . push" ++
    [.paren (Token.commaSeparated
      [[Token.string key], .punct '&' false :: value,
        context.path ("ValuePolicy :: " ++ policy.name)]),
      .punct ';' false]

def Statement.tokens (context : Context) : Statement → Tokens
  | .letPath isMutable initial =>
    Token.phrase (if isMutable then "let mut path" else "let path") ++
      Token.phrase "= :: std :: string :: String :: from" ++
      [.paren [Token.string initial], .punct ';' false]
  | .pushText text => pushPath [Token.string text]
  | .pushValue parameter =>
    pushPath (.punct '&' false :: (context.path "path :: escape" ++
      [.paren (referenceTo parameter)]))
  | .letQuery =>
    Token.phrase "let mut query =" ++ context.path "QueryBuilder :: new" ++
      [.paren [], .punct ';' false]
  | .pushQuery key parameter access policy =>
    match access with
    | .direct => queryPushTokens context key [.ident parameter] policy
    | .field name =>
      queryPushTokens context key [.ident parameter, .punct '.' false, .ident name] policy
    | .optionalField name =>
      Token.phrase "if let :: core :: option :: Option :: Some" ++
        [.paren [.word "value"], .punct '=' false] ++ referenceTo parameter ++
        [.brace (queryPushTokens context key (Token.phrase "value ." ++ [.ident name]) policy)]
  | .pushFinished => pushPath (Token.phrase "& query . finish" ++ [.paren []])

def Attachment.tokens : Attachment → Tokens
  | .body parameter => Token.phrase ". body" ++ [.paren (referenceTo parameter)]
  | .cancellation parameter =>
    Token.phrase ". cancellation" ++ [.paren (referenceTo parameter)]

/-- The statements of a plan up to the request. -/
def Plan.tokens (context : Context) (held : Plan) : Tokens :=
  held.statements.flatMap (Statement.tokens context) ++
    Token.phrase "let request = self . core . request" ++
    [.paren (context.path ("Verb :: " ++ held.verb.name) ++ Token.phrase ", path")] ++
    held.attachments.flatMap Attachment.tokens ++ [.punct ';' false]

/-- Sending the request for a value of the type, or for none. -/
def sendTokens : Option Ty → Tokens
  | some ty =>
    Token.phrase "request . send :: <" ++ ty.tokens ++ [.punct '>' false, .paren []]
  | none => Token.phrase "request . send_unit" ++ [.paren []]

/-- What becomes of the outcome: it is handed out, its error converted, or only logged. -/
def finishTokens (context : Context) (method : MethodDefinition) : Tokens :=
  match method.returns.error with
  | .result error =>
    Token.phrase "outcome . map_err" ++
      [.paren (.punct '<' false :: (error.tokens ++
        Token.phrase "as :: core :: convert :: From <" ++ context.path "ClientError >>" ++
        Token.phrase ":: from"))]
  | .builtin => Token.phrase "outcome"
  | .none =>
    Token.phrase "if let :: core :: result :: Result :: Err" ++ [.paren [.word "error"]] ++
      Token.phrase "= outcome" ++
      [.brace (context.path "tracing :: warn !" ++
        [.paren (Token.phrase "method =" ++ [Token.string method.name] ++
          Token.phrase ", % error ," ++ [Token.string "request failed"]), .punct ';' false])]

/-- The statement that keeps the outcome of a future. -/
def awaitTokens (returns : Returns) : Tokens :=
  Token.phrase "let outcome =" ++ sendTokens returns.value ++ Token.phrase ". await ;"

/-- The body of a method. -/
def bodyTokens (context : Context) (method : MethodDefinition) : Tokens :=
  let returns := method.returns
  let awaited := awaitTokens returns ++ finishTokens context method
  (plan context.query method).tokens context ++
    match returns.wrapper with
    | .asyncFn => awaited
    | .implFuture => Token.phrase "async move" ++ [.brace awaited]
    | .task =>
      Token.phrase ":: std :: boxed :: Box :: pin" ++
        [.paren (Token.phrase "async move" ++ [.brace awaited])]
    | .blocking =>
      Token.phrase "let outcome =" ++ context.path "block_on" ++
        [.paren (sendTokens returns.value), .punct ';' false] ++ finishTokens context method

/-- A method of the implementation. -/
def methodTokens (context : Context) (method : MethodDefinition) : Tokens :=
  method.signature.tokens ++ [.brace (bodyTokens context method)]

end Endpoint.Emission
