import Endpoint.Client.Exchange
import Endpoint.Json.Decode
import Endpoint.Text.Utf8

/-!
The core of every client: a request is drafted, its body encoded, sent through a transport unless
it is cancelled, and the response decoded.
-/

namespace Endpoint.Client

/-! ### Bodies -/

/-- The content type of all bodies. -/
def contentType : String := "application/json"

/-- A value to be sent: its JSON form, or why it has none. -/
abbrev Encodable := Except String Json

def encode (value : Encodable) : Except ClientError (List UInt8) :=
  match value with
  | .ok json => .ok (Text.textBytes json.write)
  | .error reason => .error (.encoding reason)

/-- Reads a value of the form from the bytes of a body. -/
def decode {α : Type} (form : Json.Form α) (body : List UInt8) : Except ClientError α :=
  match (Text.strictText? body).bind form.read? with
  | none => .error (.decoding "the body is of another form")
  | some value => .ok value

/-- How bodies are written and read: values are encoded, and a form tells what is decoded. -/
structure Codec (Value : Type) (Form : Type → Type) where
  contentType : String
  encode : Value → Except ClientError (List UInt8)
  decode : {α : Type} → Form α → List UInt8 → Except ClientError α

/-- Bodies of JSON. -/
def Codec.json : Codec Encodable Json.Form := ⟨Client.contentType, Client.encode, Client.decode⟩

/-! ### Drafts -/

/-- A request that is being put together. A body that could not be encoded is kept as its
error. -/
structure Draft where
  verb : Verb
  path : String
  body : Except ClientError (Option Payload)
  token : Option Token

/-- A call that adds to a draft. -/
inductive Amendment (Value : Type)
  | body (value : Value)
  | cancellation (source : CancellationSource)

namespace Draft

def new (verb : Verb) (path : String) : Draft := ⟨verb, path, .ok none, none⟩

/-- Sets the body, written by the codec, in place of an earlier one. -/
def withEncoded {Value : Type} {Form : Type → Type} (draft : Draft) (codec : Codec Value Form)
    (value : Value) : Draft :=
  { draft with
    body := (codec.encode value).map fun bytes => some ⟨bytes, codec.contentType⟩ }

/-- Sets the body in place of an earlier one. -/
def withBody (draft : Draft) (value : Encodable) : Draft := draft.withEncoded .json value

/-- Sets the token in place of an earlier one. -/
def withToken (draft : Draft) (token : Option Token) : Draft := { draft with token }

/-- The draft after a call. -/
def amend {Value : Type} {Form : Type → Type} (codec : Codec Value Form) (draft : Draft) :
    Amendment Value → Draft
  | .body value => draft.withEncoded codec value
  | .cancellation source => draft.withToken source.token?

/-- The draft after several calls. -/
def amendAll {Value : Type} {Form : Type → Type} (codec : Codec Value Form) (draft : Draft)
    (calls : List (Amendment Value)) : Draft :=
  calls.foldl (amend codec) draft

end Draft

/-! ### Sending -/

/-- Where a draft that is sent stands between two polls: nothing has been done, its flight is waited
for, or it has ended with a body that could not be encoded, a fired token or an answer. -/
inductive Stage
  | fresh
  | waiting (flight : Flight (Except ClientError Response))
  | refused (error : ClientError)
  | cancelled
  | answered (answer : Except ClientError Response)

/-- A draft that is sent: where it stands, whether its token has fired, the requests that the
transport was asked to carry out, and the polls that their flight was given. -/
structure Progress where
  stage : Stage
  fired : Bool
  seen : List Request
  polls : Nat

namespace Progress

/-- One poll of a flight. -/
def wait (flight : Flight (Except ClientError Response)) (held : Progress) : Progress :=
  let poll := flight held.polls
  let stage := match poll.answer with
    | some answer => .answered answer
    | none => .waiting flight
  ⟨stage, held.fired || poll.fires, held.seen, held.polls + 1⟩

/-- One poll of a flight and a token, of which the token is looked at first. -/
def race (flight : Flight (Except ClientError Response)) (held : Progress) : Progress :=
  if held.fired then { held with stage := .cancelled } else held.wait flight

/-- Lets the token fire, if it is told to. -/
def fire (fires : Bool) (held : Progress) : Progress :=
  { held with fired := held.fired || fires }

end Progress

namespace Draft

/-- One poll of a draft that is sent. In the first, a body that could not be encoded comes before
a token that has fired; only then is the transport asked. -/
def poll (draft : Draft) (transport : Transport) (held : Progress) : Progress :=
  match held.stage with
  | .fresh =>
    match draft.body with
    | .error error => { held with stage := .refused error }
    | .ok body =>
      let request : Request := ⟨draft.verb, draft.path, body, draft.token⟩
      let asked : Progress := { held with seen := held.seen ++ [request] }
      match draft.token with
      | none => asked.wait (transport request)
      | some _ =>
        if held.fired then { held with stage := .cancelled } else asked.race (transport request)
  | .waiting flight => if draft.token.isSome then held.race flight else held.wait flight
  | .refused _ | .cancelled | .answered _ => held

/-- What has come of the draft after that many polls. The token fires before those that `between`
says. -/
def after (draft : Draft) (transport : Transport) (between : Nat → Bool) : Nat → Progress
  | 0 => ⟨.fresh, draft.token == some .fired, [], 0⟩
  | count + 1 =>
    draft.poll transport ((draft.after transport between count).fire (between count))

/-- What happens to a draft: the requests that the transport was asked to carry out, and the
response or error, which is missing while it is under way. -/
structure Sending where
  seen : List Request
  result : Option (Except ClientError Response)

/-- A response that is no success is an error. -/
def settled : Except ClientError Response → Except ClientError Response
  | .ok response =>
    if response.isSuccess then .ok response
    else .error (.status response.status (Text.lossyText response.body))
  | .error error => .error error

end Draft

/-- The response or error, if the draft has ended. -/
def Stage.result? : Stage → Option (Except ClientError Response)
  | .fresh | .waiting _ => none
  | .refused error => some (.error error)
  | .cancelled => some (.error .cancelled)
  | .answered answer => some (Draft.settled answer)

/-- Sends a draft, polling it that many times. -/
def Draft.dispatch (draft : Draft) (transport : Transport) (between : Nat → Bool) (count : Nat) :
    Draft.Sending :=
  let held := draft.after transport between count
  ⟨held.seen, held.stage.result?⟩

/-- The value that the codec reads from a response. -/
def Draft.Sending.decoded {Value α : Type} {Form : Type → Type} (sending : Draft.Sending)
    (codec : Codec Value Form) (form : Form α) : Option (Except ClientError α) :=
  sending.result.map fun result => result.bind fun response => codec.decode form response.body

/-- The value that a response holds. -/
def Draft.Sending.value {α : Type} (sending : Draft.Sending) (form : Json.Form α) :
    Option (Except ClientError α) :=
  sending.decoded .json form

/-- A response whose body does not matter. -/
def Draft.Sending.unit (sending : Draft.Sending) : Option (Except ClientError Unit) :=
  sending.result.map fun result => result.map fun _ => ()

/-! ### Blocking calls -/

/-- Where a blocking call is made: outside all schedulers, inside one of a single thread, or
inside one of many. -/
inductive Surroundings
  | outside
  | singleThread
  | manyThreads
deriving DecidableEq, Repr

/-- Inside a scheduler of a single thread a blocking call would wait for itself. -/
def Surroundings.mayBlock (surroundings : Surroundings) : Bool := surroundings != .singleThread

def blocked : ClientError := .blocking "blocking client call on a current-thread runtime"

/-- The result of a call made blocking. -/
def blocking {α : Type} (surroundings : Surroundings) (result : Except ClientError α) :
    Except ClientError α :=
  if surroundings.mayBlock then result else .error blocked

/-- Sends a draft blocking, unless that may not be. -/
def Draft.block (draft : Draft) (surroundings : Surroundings) (transport : Transport)
    (between : Nat → Bool) (count : Nat) : Draft.Sending :=
  if surroundings.mayBlock then draft.dispatch transport between count
  else ⟨[], some (.error blocked)⟩

end Endpoint.Client
