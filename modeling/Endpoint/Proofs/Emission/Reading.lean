import Endpoint.Emission.Method
import Endpoint.Proofs.Text.Quoted

/-!
Reading the plan of a request back from emitted tokens. The reader knows the runtime crate by
name and nothing else of what was emitted.
-/

namespace Endpoint.Emission

open Source (Ident Token Tokens)

/-! ### Expected tokens -/

/-- What is left behind the tokens that are expected to come first. -/
def strip? : Tokens → Tokens → Option Tokens
  | [], tokens => some tokens
  | .ident name :: expected, .ident found :: tokens =>
    if name = found then strip? expected tokens else none
  | .punct char joint :: expected, .punct found close :: tokens =>
    if char = found ∧ joint = close then strip? expected tokens else none
  | _, _ => none

/-- A name or a mark. -/
def isPlain : Token → Bool
  | .ident _ | .punct .. => true
  | _ => false

theorem strip?_append {expected : Tokens} (plain : expected.all isPlain = true) (rest : Tokens) :
    strip? expected (expected ++ rest) = some rest := by
  induction expected with
  | nil => rfl
  | cons token expected ih =>
    simp only [List.all_cons, Bool.and_eq_true] at plain
    cases token with
    | ident name => simpa [strip?] using ih plain.2
    | punct char joint => simpa [strip?] using ih plain.2
    | literal text => simp [isPlain] at plain
    | group delimiter inner => simp [isPlain] at plain

/-- A path into the crate of the name. -/
def pathOf (runtime : Ident) (rest : String) : Tokens :=
  Token.operator "::" ++ [.ident runtime] ++ Token.phrase (":: " ++ rest)

theorem path_eq (context : Context) (rest : String) :
    context.path rest = pathOf context.runtime rest := rfl

/-! ### Statements -/

/-- The statement that begins a path, with or without `mut`. -/
def readInitial? (isMutable : Bool) (tokens : Tokens) : Option (Statement × Tokens) := do
  let rest ← strip? (Token.phrase (if isMutable then "let mut path" else "let path") ++
    Token.phrase "= :: std :: string :: String :: from") tokens
  match rest with
  | .group .paren [initial] :: .punct ';' false :: rest =>
    return (.letPath isMutable (← initial.stringValue?), rest)
  | _ => none

/-- The text that is pushed to a path. -/
def textArgument? : Tokens → Option Statement
  | [held] => do return .pushText (← held.stringValue?)
  | _ => none

/-- The escaped parameter that is pushed to a path. -/
def valueArgument? (runtime : Ident) (tokens : Tokens) : Option Statement := do
  match ← strip? (.punct '&' false :: pathOf runtime "path :: escape") tokens with
  | [.group .paren [.punct '&' false, .ident parameter]] => return .pushValue parameter
  | _ => none

/-- The finished query that is pushed to a path. -/
def finishedArgument? (tokens : Tokens) : Option Statement := do
  match ← strip? (Token.phrase "& query . finish") tokens with
  | [.group .paren []] => return .pushFinished
  | _ => none

/-- The statement that pushes the argument to a path. -/
def readArgument? (runtime : Ident) (argument : Tokens) : Option Statement :=
  textArgument? argument <|> valueArgument? runtime argument <|> finishedArgument? argument

/-- A statement that pushes to the path. -/
def readPush? (runtime : Ident) (tokens : Tokens) : Option (Statement × Tokens) := do
  match ← strip? (Token.phrase "path . push_str") tokens with
  | .group .paren argument :: .punct ';' false :: rest =>
    return (← readArgument? runtime argument, rest)
  | _ => none

/-- The statement that begins a query. -/
def readQuery? (runtime : Ident) (tokens : Tokens) : Option (Statement × Tokens) := do
  let rest ← strip? (Token.phrase "let mut query =" ++ pathOf runtime "QueryBuilder :: new") tokens
  match rest with
  | .group .paren [] :: .punct ';' false :: rest => return (.letQuery, rest)
  | _ => none

/-- The policy that a path of the runtime crate names. -/
def readPolicy? (runtime : Ident) (tokens : Tokens) : Option Policy := do
  match ← strip? (pathOf runtime "ValuePolicy ::") tokens with
  | [.ident name] => Policy.all.find? (·.name == name.written)
  | _ => none

/-- The value that is pushed to a query: a name, and the field of it that is meant. -/
structure Pushed where
  key : String
  name : Ident
  field : Option Ident
  policy : Policy

/-- A statement that pushes a value to the query. -/
def readPushed? (runtime : Ident) (tokens : Tokens) : Option (Pushed × Tokens) := do
  match ← strip? (Token.phrase "query . push") tokens with
  | .group .paren (key :: .punct ',' false :: .punct '&' false :: .ident name :: value) ::
      .punct ';' false :: rest =>
    match value with
    | .punct '.' false :: .ident field :: .punct ',' false :: policy =>
      return (⟨← key.stringValue?, name, some field, ← readPolicy? runtime policy⟩, rest)
    | .punct ',' false :: policy =>
      return (⟨← key.stringValue?, name, none, ← readPolicy? runtime policy⟩, rest)
    | _ => none
  | _ => none

/-- The access to a value by a field that may be meant. -/
def accessOf : Option Ident → Access
  | none => .direct
  | some field => .field field

/-- A statement that pushes a parameter or a field of it to the query. -/
def readKey? (runtime : Ident) (tokens : Tokens) : Option (Statement × Tokens) := do
  let (pushed, rest) ← readPushed? runtime tokens
  return (.pushQuery pushed.key pushed.name (accessOf pushed.field) pushed.policy, rest)

/-- A statement that pushes a field of an optional parameter to the query. -/
def readOptionalKey? (runtime : Ident) (tokens : Tokens) : Option (Statement × Tokens) := do
  match ← strip? (Token.phrase "if let :: core :: option :: Option :: Some") tokens with
  | .group .paren [.ident bound] :: .punct '=' false :: .punct '&' false :: .ident parameter ::
      .group .brace inner :: rest =>
    let (pushed, left) ← readPushed? runtime inner
    let field ← pushed.field
    if left.isEmpty ∧ pushed.name = bound then
      return (.pushQuery pushed.key parameter (.optionalField field) pushed.policy, rest)
    else none
  | _ => none

/-- A statement that builds the path of a request. -/
def Statement.read? (runtime : Ident) (tokens : Tokens) : Option (Statement × Tokens) :=
  readInitial? true tokens <|> readInitial? false tokens <|> readPush? runtime tokens <|>
    readQuery? runtime tokens <|> readKey? runtime tokens <|> readOptionalKey? runtime tokens

/-! ### Plans -/

/-- The parameter attached to a request under a name. -/
def attachmentOf? (name : Ident) (parameter : Ident) : Option Attachment :=
  if name = .plain "body" then some (.body parameter)
  else if name = .plain "cancellation" then some (.cancellation parameter)
  else none

/-- What is attached to a request, up to the end of the statement. -/
def readAttachments? : Tokens → Option (List Attachment × Tokens)
  | .punct ';' false :: rest => some ([], rest)
  | .punct '.' false :: .ident name :: .group .paren [.punct '&' false, .ident parameter] ::
      rest => do
    let attachment ← attachmentOf? name parameter
    let (attachments, rest) ← readAttachments? rest
    return (attachment :: attachments, rest)
  | _ => none

/-- The verb of a request for the path. -/
def readVerb? (runtime : Ident) (tokens : Tokens) : Option Verb := do
  match ← strip? (pathOf runtime "Verb ::") tokens with
  | .ident name :: rest =>
    let _ ← (strip? (Token.phrase ", path") rest).filter List.isEmpty
    Verb.all.find? (·.name == name.written)
  | _ => none

/-- The statement that makes the request. -/
def readRequest? (runtime : Ident) (tokens : Tokens) :
    Option ((Verb × List Attachment) × Tokens) := do
  match ← strip? (Token.phrase "let request = self . core . request") tokens with
  | .group .paren argument :: rest =>
    let verb ← readVerb? runtime argument
    let (attachments, rest) ← readAttachments? rest
    return ((verb, attachments), rest)
  | _ => none

/-- Statements up to the request, of which there may be fewer than the number. -/
def Plan.readWithin? (runtime : Ident) : Nat → Tokens → Option (Plan × Tokens)
  | 0, _ => none
  | fuel + 1, tokens =>
    match readRequest? runtime tokens with
    | some ((verb, attachments), rest) => some (⟨[], verb, attachments⟩, rest)
    | none => do
      let (statement, rest) ← Statement.read? runtime tokens
      let (held, rest) ← Plan.readWithin? runtime fuel rest
      return (⟨statement :: held.statements, held.verb, held.attachments⟩, rest)

/-- The plan of the request that the tokens make first, and what follows it. -/
def Plan.read? (runtime : Ident) (tokens : Tokens) : Option (Plan × Tokens) :=
  Plan.readWithin? runtime (tokens.length + 1) tokens

/-! ### Round trip -/

theorem stringValue?_string (text : String) : (Token.string text).stringValue? = some text :=
  Text.unquote?_quote text

theorem pathOf_plain (runtime : Ident) (rest : String)
    (plain : (Token.phrase (":: " ++ rest)).all isPlain = true) :
    (pathOf runtime rest).all isPlain = true := by
  have mark : (Token.operator "::").all isPlain = true := by decide
  simp [pathOf, mark, plain, isPlain]

theorem readInitial?_tokens (context : Context) (isMutable : Bool) (initial : String)
    (rest : Tokens) :
    readInitial? isMutable ((Statement.letPath isMutable initial).tokens context ++ rest) =
      some (.letPath isMutable initial, rest) := by
  have plain : (Token.phrase (if isMutable then "let mut path" else "let path") ++
      Token.phrase "= :: std :: string :: String :: from").all isPlain = true := by
    cases isMutable <;> decide
  simp only [readInitial?, Statement.tokens, List.append_assoc (_ ++ _), strip?_append plain]
  simp [Token.paren, stringValue?_string]

theorem readPush?_pushPath (runtime : Ident) (argument rest : Tokens) :
    readPush? runtime (pushPath argument ++ rest) =
      (readArgument? runtime argument).map fun statement => (statement, rest) := by
  have plain : (Token.phrase "path . push_str").all isPlain = true := by decide
  simp only [readPush?, pushPath, List.append_assoc, strip?_append plain]
  cases found : readArgument? runtime argument <;> simp [Token.paren, found]

theorem readArgument?_text (runtime : Ident) (text : String) :
    readArgument? runtime [Token.string text] = some (.pushText text) := by
  simp [readArgument?, textArgument?, stringValue?_string]

theorem readArgument?_value (context : Context) (parameter : Ident) :
    readArgument? context.runtime (.punct '&' false ::
        (context.path "path :: escape" ++ [.paren (referenceTo parameter)])) =
      some (.pushValue parameter) := by
  have called := strip?_append (pathOf_plain context.runtime "path :: escape" (by decide))
    [.paren (referenceTo parameter)]
  simp only [readArgument?, valueArgument?, strip?, path_eq, called]
  rfl

theorem readArgument?_finished (runtime : Ident) :
    readArgument? runtime (Token.phrase "& query . finish" ++ [.paren []]) =
      some .pushFinished := by
  rfl

theorem readQuery?_tokens (context : Context) (rest : Tokens) :
    readQuery? context.runtime (Statement.letQuery.tokens context ++ rest) =
      some (.letQuery, rest) := by
  have plain : (Token.phrase "let mut query =" ++
      pathOf context.runtime "QueryBuilder :: new").all isPlain = true := by
    rw [List.all_append, pathOf_plain _ _ (by decide)]
    decide
  simp only [readQuery?, Statement.tokens, path_eq, List.append_assoc (_ ++ _),
    strip?_append plain]
  rfl

theorem readPolicy?_path (context : Context) (policy : Policy) :
    readPolicy? context.runtime (context.path ("ValuePolicy :: " ++ policy.name)) =
      some policy := by
  have split : context.path ("ValuePolicy :: " ++ policy.name) =
      pathOf context.runtime "ValuePolicy ::" ++ [.ident (.plain policy.name)] := by
    cases policy <;> rfl
  have plain := pathOf_plain context.runtime "ValuePolicy ::" (by decide)
  simp only [readPolicy?, split, strip?_append plain]
  cases policy <;> rfl

theorem readPushed?_tokens (context : Context) (key : String) (name : Ident)
    (field : Option Ident) (policy : Policy) (rest : Tokens) :
    readPushed? context.runtime (queryPushTokens context key
        (.ident name :: (field.map fun held => [.punct '.' false, .ident held]).getD []) policy ++
          rest) =
      some (⟨key, name, field, policy⟩, rest) := by
  have plain : (Token.phrase "query . push").all isPlain = true := by decide
  simp only [readPushed?, queryPushTokens, List.append_assoc, strip?_append plain]
  cases field <;>
    simp [Token.paren, Token.commaSeparated, stringValue?_string, readPolicy?_path]

theorem readOptionalKey?_tokens (context : Context) (key : String) (parameter field : Ident)
    (policy : Policy) (rest : Tokens) :
    readOptionalKey? context.runtime
        ((Statement.pushQuery key parameter (.optionalField field) policy).tokens context ++
          rest) =
      some (.pushQuery key parameter (.optionalField field) policy, rest) := by
  have plain : (Token.phrase "if let :: core :: option :: Option :: Some").all isPlain = true := by
    decide
  have pushed := readPushed?_tokens context key (.plain "value") (some field) policy []
  simp only [List.append_nil, Option.map_some, Option.getD_some] at pushed
  have phrase : Token.phrase "value ." ++ [.ident field] =
      [.ident (.plain "value"), .punct '.' false, .ident field] := rfl
  simp only [readOptionalKey?, Statement.tokens, List.append_assoc, strip?_append plain]
  simp [Token.word, Token.paren, Token.brace, referenceTo, phrase, pushed]

theorem Statement.read?_pushPath {runtime : Ident} {argument : Tokens} {statement : Statement}
    (found : readArgument? runtime argument = some statement) (rest : Tokens) :
    Statement.read? runtime (pushPath argument ++ rest) = some (statement, rest) := by
  have first : readInitial? true (pushPath argument ++ rest) = none := rfl
  have second : readInitial? false (pushPath argument ++ rest) = none := rfl
  have pushed := readPush?_pushPath runtime argument rest
  simp [Statement.read?, first, second, pushed, found]

theorem Statement.read?_key (context : Context) (key : String) (name : Ident)
    (field : Option Ident) (policy : Policy) (rest : Tokens) :
    Statement.read? context.runtime (queryPushTokens context key
        (.ident name :: (field.map fun held => [.punct '.' false, .ident held]).getD []) policy ++
          rest) =
      some (.pushQuery key name (accessOf field) policy, rest) := by
  have pushed := readPushed?_tokens context key name field policy rest
  generalize shown : queryPushTokens context key
    (.ident name :: (field.map fun held => [.punct '.' false, .ident held]).getD []) policy ++
      rest = tokens at pushed ⊢
  have first : readInitial? true tokens = none := by subst shown; rfl
  have second : readInitial? false tokens = none := by subst shown; rfl
  have third : readPush? context.runtime tokens = none := by subst shown; rfl
  have fourth : readQuery? context.runtime tokens = none := by subst shown; rfl
  simp [Statement.read?, first, second, third, fourth, readKey?, pushed]

/-- Every emitted statement is read as the statement that it was emitted for. -/
theorem Statement.read?_tokens (context : Context) (statement : Statement) (rest : Tokens) :
    Statement.read? context.runtime (statement.tokens context ++ rest) =
      some (statement, rest) := by
  cases statement with
  | letPath isMutable initial =>
    have found := readInitial?_tokens context isMutable initial rest
    cases isMutable with
    | true => simp [Statement.read?, found]
    | false =>
      have other : readInitial? true
          ((Statement.letPath false initial).tokens context ++ rest) = none := rfl
      simp [Statement.read?, found, other]
  | pushText text => exact Statement.read?_pushPath (readArgument?_text _ text) rest
  | pushValue parameter =>
    exact Statement.read?_pushPath (readArgument?_value context parameter) rest
  | letQuery =>
    have found := readQuery?_tokens context rest
    have first : readInitial? true (Statement.letQuery.tokens context ++ rest) = none := rfl
    have second : readInitial? false (Statement.letQuery.tokens context ++ rest) = none := rfl
    have third : readPush? context.runtime (Statement.letQuery.tokens context ++ rest) = none :=
      rfl
    simp [Statement.read?, first, second, third, found]
  | pushQuery key parameter access policy =>
    cases access with
    | direct => exact Statement.read?_key context key parameter none policy rest
    | field name => exact Statement.read?_key context key parameter (some name) policy rest
    | optionalField name =>
      have found := readOptionalKey?_tokens context key parameter name policy rest
      generalize shown : (Statement.pushQuery key parameter (.optionalField name) policy).tokens
        context ++ rest = tokens at found ⊢
      have first : readInitial? true tokens = none := by subst shown; rfl
      have second : readInitial? false tokens = none := by subst shown; rfl
      have third : readPush? context.runtime tokens = none := by subst shown; rfl
      have fourth : readQuery? context.runtime tokens = none := by subst shown; rfl
      have fifth : readKey? context.runtime tokens = none := by subst shown; rfl
      simp [Statement.read?, first, second, third, fourth, fifth, found]
  | pushFinished => exact Statement.read?_pushPath (readArgument?_finished _) rest

/-! ### Plans -/

theorem readAttachments?_tokens (attachments : List Attachment) (rest : Tokens) :
    readAttachments? (attachments.flatMap Attachment.tokens ++ .punct ';' false :: rest) =
      some (attachments, rest) := by
  induction attachments with
  | nil => rfl
  | cons attachment attachments ih =>
    cases attachment with
    | body parameter =>
      have phrase : Token.phrase ". body" = [.punct '.' false, .ident (.plain "body")] := rfl
      simp [Attachment.tokens, phrase, Token.paren, referenceTo, readAttachments?, attachmentOf?,
        ih]
    | cancellation parameter =>
      have phrase : Token.phrase ". cancellation" =
          [.punct '.' false, .ident (.plain "cancellation")] := rfl
      simp [Attachment.tokens, phrase, Token.paren, referenceTo, readAttachments?, attachmentOf?,
        Ident.plain, ih]

theorem readVerb?_tokens (context : Context) (verb : Verb) :
    readVerb? context.runtime (context.path ("Verb :: " ++ verb.name) ++ Token.phrase ", path") =
      some verb := by
  have split : context.path ("Verb :: " ++ verb.name) ++ Token.phrase ", path" =
      pathOf context.runtime "Verb ::" ++ .ident (.plain verb.name) :: Token.phrase ", path" := by
    cases verb <;> rfl
  have plain := pathOf_plain context.runtime "Verb ::" (by decide)
  simp only [readVerb?, split, strip?_append plain]
  cases verb <;> rfl

/-- The statement that makes the request of a plan. -/
def Plan.requestTokens (context : Context) (held : Plan) : Tokens :=
  Token.phrase "let request = self . core . request" ++
    .paren (context.path ("Verb :: " ++ held.verb.name) ++ Token.phrase ", path") ::
      (held.attachments.flatMap Attachment.tokens ++ [.punct ';' false])

theorem readRequest?_tokens (context : Context) (held : Plan) (rest : Tokens) :
    readRequest? context.runtime (held.requestTokens context ++ rest) =
      some ((held.verb, held.attachments), rest) := by
  have plain : (Token.phrase "let request = self . core . request").all isPlain = true := by
    decide
  simp only [readRequest?, Plan.requestTokens, List.append_assoc, strip?_append plain]
  simp [Token.paren, readVerb?_tokens, readAttachments?_tokens]

/-- A statement that builds the path is not taken for the request. -/
theorem readRequest?_statement (context : Context) (statement : Statement) (rest : Tokens) :
    readRequest? context.runtime (statement.tokens context ++ rest) = none := by
  cases statement with
  | letPath isMutable initial => cases isMutable <;> rfl
  | pushQuery key parameter access policy => cases access <;> rfl
  | _ => rfl

theorem Statement.tokens_ne_nil (context : Context) (statement : Statement) :
    statement.tokens context ≠ [] := by
  intro empty
  have read := Statement.read?_tokens context statement []
  rw [empty] at read
  cases read

theorem Plan.readWithin?_tokens (context : Context) (held : Plan) (rest : Tokens) {fuel : Nat}
    (enough : held.statements.length < fuel) :
    Plan.readWithin? context.runtime fuel
        (held.statements.flatMap (Statement.tokens context) ++ (held.requestTokens context ++ rest)) =
      some (held, rest) := by
  obtain ⟨statements, verb, attachments⟩ := held
  induction statements generalizing fuel with
  | nil =>
    obtain ⟨fuel, rfl⟩ := Nat.exists_eq_add_one_of_ne_zero (Nat.ne_of_gt enough)
    have request := readRequest?_tokens context ⟨[], verb, attachments⟩ rest
    simp [Plan.readWithin?, request]
  | cons statement statements ih =>
    obtain ⟨fuel, rfl⟩ := Nat.exists_eq_add_one_of_ne_zero (by omega : fuel ≠ 0)
    have later : Plan.readWithin? context.runtime fuel
        (statements.flatMap (Statement.tokens context) ++
          (Plan.requestTokens context ⟨statement :: statements, verb, attachments⟩ ++ rest)) =
        some (⟨statements, verb, attachments⟩, rest) := ih (by simpa using enough)
    simp only [List.flatMap_cons, List.append_assoc, Plan.readWithin?, readRequest?_statement,
      Statement.read?_tokens]
    simp [later]

/-- The plan that tokens were emitted for is read from them, whatever follows it. -/
theorem Plan.read?_tokens (context : Context) (held : Plan) (rest : Tokens) :
    Plan.read? context.runtime (held.tokens context ++ rest) = some (held, rest) := by
  have split : held.tokens context ++ rest =
      held.statements.flatMap (Statement.tokens context) ++ (held.requestTokens context ++ rest) := by
    simp [Plan.tokens, Plan.requestTokens]
  have enough : held.statements.length <
      (held.statements.flatMap (Statement.tokens context) ++
        (held.requestTokens context ++ rest)).length + 1 := by
    have least : held.statements.length ≤
        (held.statements.flatMap (Statement.tokens context)).length := by
      induction held.statements with
      | nil => exact Nat.zero_le _
      | cons statement statements ih =>
        have some := List.length_pos_iff.mpr (statement.tokens_ne_nil context)
        simp only [List.length_cons, List.flatMap_cons, List.length_append]
        omega
    simp only [List.length_append]
    omega
  rw [Plan.read?, split]
  exact Plan.readWithin?_tokens context held rest enough

end Endpoint.Emission
