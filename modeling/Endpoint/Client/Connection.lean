import Endpoint.Client
import Endpoint.Client.Message

/-!
Requests over HTTP: the URL of a request, its headers, and the message that goes out.
-/

namespace Endpoint.Client

/-- How requests show who sends them. -/
inductive Credentials
  | none
  | bearer (token : String)
  | key (header key : String)
deriving DecidableEq, Repr

/-- Where requests go to, and the headers that each of them carries. -/
structure Connection where
  base : Url
  headers : List Header
  credentials : Credentials

namespace Connection

def new (base : Url) : Connection := ⟨base, [], .none⟩

/-- Characters of the name of a header. -/
def isNameChar (c : Char) : Bool :=
  c.isAlphanum || "!#$%&*+-.^_|~".toList.contains c || c.toNat == 39 || c.toNat == 96

/-- The name of a header in small letters, if it is one. -/
def headerName (name : String) : Except ClientError String :=
  let cs := name.toList
  if !cs.isEmpty && cs.all isNameChar && cs.length < 65536 then
    .ok (String.ofList (cs.map Char.toLower))
  else .error (.header "invalid header name: invalid HTTP header name")

/-- Whether the text may be the value of a header. -/
def isHeaderValue (value : String) : Bool :=
  value.toList.all fun c => (c.toNat ≥ 32 && c.toNat != 127) || c == '\t'

/-- Adds a header to all requests, in place of one with the same name. -/
def withHeader (connection : Connection) (name value : String) :
    Except ClientError Connection := do
  let name ← headerName name
  if isHeaderValue value then
    return { connection with
      headers := connection.headers.filter (·.1 != name) ++ [(name, value)] }
  else throw (.header "invalid header value: failed to parse header value")

def withBearer (connection : Connection) (token : String) : Connection :=
  { connection with credentials := .bearer token }

def withKey (connection : Connection) (header key : String) : Except ClientError Connection := do
  return { connection with credentials := .key (← headerName header) key }

/-- The text without slashes at its end. -/
def withoutSlashes (text : String) : String :=
  String.ofList (text.toList.reverse.dropWhile (· == '/')).reverse

/-- The URL of a request: its path written behind the base. -/
def fullUrl (connection : Connection) (path : String) : Except ClientError Url :=
  let joined := withoutSlashes connection.base.text ++ path
  match Url.read joined with
  | .ok url => .ok url
  | .error fault => .error (.url joined fault.message)

/-- The header that shows who sends the request. -/
def credentialHeaders (connection : Connection) : List Header :=
  match connection.credentials with
  | .none => []
  | .bearer token => [("authorization", "Bearer " ++ token)]
  | .key header key => [(header, key)]

/-- The headers of a request: those of the user in its URL, of the credentials and of its body,
then those of all requests whose names are not among them. -/
def headersOf (connection : Connection) (url : Url) (body : Option Payload) : List Header :=
  let own := Message.userHeaders url ++ connection.credentialHeaders ++
    match body with
    | some payload => [("content-type", payload.contentType)]
    | none => []
  own ++ connection.headers.filter fun header => own.all (·.1 != header.1)

/-- The message that a request becomes. -/
def message (connection : Connection) (request : Request) : Except ClientError Message := do
  let url ← connection.fullUrl request.path
  if !connection.credentialHeaders.all (isHeaderValue ·.2) || !Message.isRequestable url then
    throw (.connection .unsendable)
  let headers := connection.headersOf url request.body
  match request.body with
  | none => return ⟨request.verb, url, Message.emptyHeaders headers, []⟩
  | some payload =>
    match Message.framed? headers payload.bytes with
    | some (headers, body) => return ⟨request.verb, url, headers, body⟩
    | none => throw (.connection .unsendable)

/-- Whether a status ends an exchange. Those that announce a further one do not, but the one that
changes the protocol does. -/
def isFinal (status : Nat) : Bool := status == 101 || (200 ≤ status && status < 1000)

/-- The response that a server's status and body are read as: some statuses have no body. -/
def received (status : Nat) (body : List UInt8) : Except ClientError Response :=
  if !isFinal status then .error (.connection .unreadable)
  else .ok ⟨status, if status == 101 || status == 204 || status == 304 then [] else body⟩

end Connection

end Endpoint.Client
