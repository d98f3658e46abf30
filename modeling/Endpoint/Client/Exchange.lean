import Endpoint.Client.Error
import Endpoint.Vocabulary

/-!
Requests, responses, and a request in flight: it is polled until it answers, and a poll may fire
its token.
-/

namespace Endpoint.Client

/-- A token that cancels requests. -/
inductive Token
  | live
  | fired
deriving DecidableEq, Repr

/-- What a request may be cancelled through: a token, something that may be missing, or a reference
to such a source. -/
inductive CancellationSource
  | token (token : Token)
  | missing
  | present (source : CancellationSource)
  | reference (source : CancellationSource)
deriving Repr

/-- The token of a source, if it has one. -/
def CancellationSource.token? : CancellationSource → Option Token
  | .token held => some held
  | .missing => none
  | .present source => source.token?
  | .reference source => source.token?

structure Payload where
  bytes : List UInt8
  contentType : String
deriving DecidableEq, Repr

structure Request where
  verb : Verb
  path : String
  body : Option Payload
  token : Option Token
deriving DecidableEq, Repr

structure Response where
  status : Nat
  body : List UInt8
deriving DecidableEq, Repr

def Response.isSuccess (response : Response) : Bool :=
  200 ≤ response.status && response.status < 300

/-- One poll of a request in flight: the answer if it is there, and whether the poll fires the
token. -/
structure Poll (α : Type) where
  answer : Option α
  fires : Bool

/-- A request in flight, by the polls that it is given. -/
abbrev Flight (α : Type) := Nat → Poll α

/-- What carries requests out. -/
abbrev Transport := Request → Flight (Except ClientError Response)

end Endpoint.Client
