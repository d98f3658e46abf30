import Endpoint.Client.Connection

/-!
Transports that answer by script: with a fixed answer, firing the token on the way if they are
told to, or with what a server replies to a message.
-/

namespace Endpoint.Client

/-- When a scripted transport fires the token of a request: not at all; in the poll that answers;
in a poll of its own before that; or in one after which it never answers. -/
inductive Interruption
  | none
  | atOnce
  | between
  | forever
deriving DecidableEq, Repr

/-- What a scripted transport does with every request. -/
structure Script where
  answer : Except ClientError Response
  interruption : Interruption

namespace Script

/-- A flight that lands in its first poll. -/
def landing {α : Type} (answer : α) : Flight α := fun _ => ⟨some answer, false⟩

/-- The transport that the script describes. A request without a token lands at once. -/
def transport (script : Script) : Transport := fun request =>
  if request.token.isNone then landing script.answer
  else
    match script.interruption with
    | .none => landing script.answer
    | .atOnce => fun _ => ⟨some script.answer, true⟩
    | .between => fun poll => if poll = 0 then ⟨none, true⟩ else ⟨some script.answer, false⟩
    | .forever => fun _ => ⟨none, true⟩

end Script

/-- The transport over a connection to a server. -/
def Connection.transport (connection : Connection)
    (server : Message → Except ClientError Response) : Transport := fun request =>
  Script.landing ((connection.message request).bind server)

/-- The greatest number of polls that a scripted exchange takes. -/
def Script.polls : Nat := 4

/-- Sends a draft while nothing else fires its token. -/
def Draft.send (draft : Draft) (transport : Transport) : Draft.Sending :=
  draft.dispatch transport (fun _ => false) Script.polls

end Endpoint.Client
