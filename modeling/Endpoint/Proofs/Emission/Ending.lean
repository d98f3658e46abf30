import Endpoint.Emission.Method
import Endpoint.Proofs.Lowering.Returns
import Endpoint.Proofs.Validation.Conditions

/-!
What the bodies of emitted methods end in. Main statement: behind the request, a body hands out a
value of the type that its method declares.
-/

namespace Endpoint.Emission

open Lowering (Declares Groups IsShape Handed SameShape classify handedOf namedTy outcomeOf
  withOutput)
open Source (Token Tokens Ty)

/-! ### What emitted code hands out -/

/-- A call that sends the request for a value of the type, or for none. It gives a future of a
result with the error of the client. -/
inductive Sends : Option Ty → Tokens → Prop
  | value (ty : Ty) :
      Sends (some ty) (Token.phrase "request . send :: <" ++ ty.tokens ++
        [.punct '>' false, .paren []])
  | nothing : Sends none (Token.phrase "request . send_unit" ++ [.paren []])

/-- A statement that stores the result of a future. Only what is async can await it. -/
inductive Stores (context : Context) (future : Tokens) : Bool → Tokens → Prop
  | awaited : Stores context future true
      (Token.phrase "let outcome =" ++ future ++ Token.phrase ". await ;")
  | blocked (isAsync : Bool) : Stores context future isAsync
      (Token.phrase "let outcome =" ++ context.path "block_on" ++ [.paren future, .punct ';' false])

/-- An expression that hands out the result of a value: as it is, with another error, or not at
all. -/
inductive Hands (context : Context) (value : Option Ty) : Tokens → Handed → Prop
  | outcome : Hands context value (Token.phrase "outcome") (.result value none)
  | converted (error : Ty) : Hands context value
      (Token.phrase "outcome . map_err" ++
        [.paren (.punct '<' false :: (error.tokens ++
          Token.phrase "as :: core :: convert :: From <" ++ context.path "ClientError >>" ++
          Token.phrase ":: from"))])
      (.result value (some error))
  | logged (block : Tokens) : Hands context value
      (Token.phrase "if let :: core :: result :: Result :: Err" ++ [.paren [.word "error"]] ++
        Token.phrase "= outcome" ++ [.brace (block ++ [.punct ';' false])])
      .nothing

/-- What tokens hand out at their end, in async code or in other. -/
inductive EndsIn (context : Context) : Bool → Tokens → Handed → Prop
  | sent {isAsync : Bool} {value : Option Ty} {future kept last : Tokens} {handed : Handed}
      (sends : Sends value future) (stores : Stores context future isAsync kept)
      (hands : Hands context value last handed) : EndsIn context isAsync (kept ++ last) handed
  | future {isAsync : Bool} {block : Tokens} {handed : Handed}
      (inner : EndsIn context true block handed) :
      EndsIn context isAsync (Token.phrase "async move" ++ [.brace block]) (.future handed)
  | boxed {isAsync : Bool} {future : Tokens} {handed : Handed}
      (inner : EndsIn context isAsync future (.future handed)) :
      EndsIn context isAsync (Token.phrase ":: std :: boxed :: Box :: pin" ++ [.paren future])
        (.boxed handed)

/-! ### Bodies -/

theorem sends_sendTokens (value : Option Ty) : Sends value (sendTokens value) := by
  cases value with
  | none => exact .nothing
  | some ty => exact .value ty

theorem hands_finishTokens (context : Context) (method : MethodDefinition) :
    Hands context method.returns.value (finishTokens context method)
      (outcomeOf method.returns.value method.returns.error) := by
  unfold finishTokens
  cases method.returns.error with
  | none =>
    have logged : Hands context method.returns.value _ _ :=
      .logged (context.path "tracing :: warn !" ++
        [.paren (Token.phrase "method =" ++ [Token.string method.name] ++
          Token.phrase ", % error ," ++ [Token.string "request failed"])])
    rwa [List.append_assoc] at logged
  | result error => exact .converted error
  | builtin => exact .outcome

theorem awaited_ends (context : Context) (method : MethodDefinition) :
    EndsIn context true (awaitTokens method.returns ++ finishTokens context method)
      (outcomeOf method.returns.value method.returns.error) :=
  .sent (sends_sendTokens method.returns.value) .awaited (hands_finishTokens context method)

/-- Behind the request, a body ends in what its method hands out. -/
theorem bodyTokens_ends (context : Context) {method : MethodDefinition}
    (async : method.returns.wrapper = .asyncFn → method.signature.isAsync = true) :
    ∃ tail, bodyTokens context method = (plan context.query method).tokens context ++ tail ∧
      EndsIn context method.signature.isAsync tail (handedOf method.returns) := by
  have awaited := awaited_ends context method
  unfold bodyTokens handedOf
  cases wrapper : method.returns.wrapper with
  | blocking =>
    refine ⟨_, rfl, ?_⟩
    rw [wrapper]
    exact .sent (sends_sendTokens method.returns.value) (.blocked _)
      (hands_finishTokens context method)
  | asyncFn =>
    refine ⟨_, rfl, ?_⟩
    rw [wrapper, async wrapper]
    exact awaited
  | task =>
    refine ⟨_, rfl, ?_⟩
    rw [wrapper]
    exact .boxed (.future awaited)
  | implFuture =>
    refine ⟨_, rfl, ?_⟩
    rw [wrapper]
    exact .future awaited

/-- A method that is classified, and has an error channel if it has a value, ends in a value of
the type that it declares. The parts of its shape agree, and parentheses in the declared type
change none of them but those in the type of the value. -/
theorem returns_faithful {imports : Imports} {method : MethodDefinition}
    (returned : classify imports method.signature = .ok method.returns) :
    (method.checkErrors = .ok () →
      Declares imports method.signature.output (handedOf method.returns) ∧
        ∀ context, ∃ tail,
          bodyTokens context method = (plan context.query method).tokens context ++ tail ∧
            EndsIn context method.signature.isAsync tail (handedOf method.returns)) ∧
      IsShape method.signature method.returns ∧
      ∀ ty ty', method.signature.output = some ty → Relation.ReflTransGen (Groups imports) ty ty' →
        ∃ returns, classify imports (withOutput method.signature ty') = .ok returns ∧
          SameShape imports method.returns returns := by
  have shape := Lowering.classify_isShape returned
  refine ⟨fun checked => ⟨?_, ?_⟩, shape, ?_⟩
  · refine Lowering.classify_declares returned fun without => ?_
    have fits := (method.checkErrors_exact.ok ()).mp checked
    by_contra value
    exact fits (Option.isSome_iff_ne_none.mpr value) without
  · exact fun context => bodyTokens_ends context shape.asyncFn.mp
  · exact fun ty ty' declared groups => Lowering.classify_regrouped declared groups returned

/-- The type `impl Future<Output = Result<T, Error>>` for a type. -/
def futureTy (value : Ty) : Ty :=
  .implTrait [.trait false false none
    ⟨false, [⟨.plain "Future", .angle false [.associatedType (.plain "Output") .none
      (namedTy "Result" [value, namedTy "Error" []])] false⟩]⟩] false

/-- The method `fn file(&self) -> impl Future<Output = Result<File, Error>>;`. -/
def futureMethod : MethodDefinition where
  name := "file"
  verb := .get
  route := ⟨"/file", [.literal "/file"]⟩
  bindings := []
  returns := ⟨some (namedTy "File" []), true, .implFuture, .result (namedTy "Error" [])⟩
  signature :=
    { isConst := false
      isAsync := false
      safety := none
      linkage := none
      name := .plain "file"
      generics := ⟨[], false, none⟩
      inputs := [.receiver ⟨[], some none, false, none⟩]
      comma := false
      variadic := none
      output := some (futureTy (namedTy "File" [])) }

theorem returns_faithful_future :
    classify ⟨[], [], []⟩ futureMethod.signature = .ok futureMethod.returns ∧
      Declares ⟨[], [], []⟩ (some (futureTy (namedTy "File" [])))
        (.future (.result (some (namedTy "File" [])) (some (namedTy "Error" [])))) ∧
      ∃ returns, classify ⟨[], [], []⟩
          (withOutput futureMethod.signature (futureTy (.paren (namedTy "File" [])))) = .ok returns ∧
        SameShape ⟨[], [], []⟩ futureMethod.returns returns := by
  have returned : classify ⟨[], [], []⟩ futureMethod.signature = .ok futureMethod.returns := rfl
  obtain ⟨declares, -, same⟩ := returns_faithful returned
  refine ⟨returned, (declares rfl).1, same _ _ rfl (.single ?_)⟩
  have result : Groups ⟨[], [], []⟩ (namedTy "Result" [namedTy "File" [], namedTy "Error" []])
      (namedTy "Result" [.paren (namedTy "File" []), namedTy "Error" []]) :=
    .value ⟨false, [], .plain "Result", false, false⟩ (.inl (.inl rfl)) (List.forall_mem_nil _)
      (.around (namedTy "File" []))
  exact .output ⟨false, [], .plain "Future", false, false⟩ (List.forall_mem_nil _) rfl rfl
    (List.forall_mem_nil _) result

end Endpoint.Emission
