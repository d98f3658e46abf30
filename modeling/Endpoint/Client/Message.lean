import Endpoint.Client.Error
import Endpoint.Text.Base64
import Endpoint.Text.Split
import Endpoint.Text.Utf8
import Endpoint.Url
import Endpoint.Vocabulary

/-!
Messages to a server: which URLs can be requested, the user that a URL names, and how the length
of a body is announced.
-/

namespace Endpoint.Client

/-- A header: its name in small letters, and its value. -/
abbrev Header := String × String

/-- A message to a server. -/
structure Message where
  verb : Verb
  url : Url
  headers : List Header
  body : List UInt8

namespace Message

/-- Whether the URL can be requested: its scheme is one of the web, its host has no character
that a request line refuses, and it is not too long. -/
def isRequestable (url : Url) : Bool :=
  let host := ((url.host.map Url.Host.text).getD "").toList
  (url.scheme == "http" || url.scheme == "https") &&
    !host.any (fun c => c == '"' || [96, 123, 125].contains c.toNat) &&
    url.text.utf8ByteSize < 65535

/-- The text behind the escapes of a part of a URL, if it is text. -/
def unescaped? (part : String) : Option String := Text.strictText? (Text.percentBytes part.toList)

/-- The header that shows the user whom a URL names. A password that is no text is left out. -/
def userHeaders (url : Url) : List Header :=
  match unescaped? url.username with
  | none => []
  | some name =>
    let password := (unescaped? url.password).getD ""
    if name.isEmpty && password.isEmpty then []
    else
      let shown := Text.base64 (Text.textBytes (name ++ ":" ++ password))
      [("authorization", "Basic " ++ String.ofList shown)]

/-! ### The length of a body -/

/-- The text without blanks at its ends. -/
def trimmed (cs : List Char) : List Char :=
  let isBlank := fun c => c == ' ' || c == '\t'
  ((cs.dropWhile isBlank).reverse.dropWhile isBlank).reverse

/-- The length that a header announces: equal numbers between commas. -/
def announced? (value : String) : Option Nat := do
  let numbers ← (Text.splitAt (· == ',') value.toList).mapM fun part =>
    let digits := trimmed part
    if !digits.isEmpty && digits.all Char.isDigit then some (Number.digitsValue digits) else none
  let first ← numbers.head?
  if numbers.all (· == first) && first < Nat.pow 2 64 then some first else none

/-- Whether a transfer in pieces is the last coding that a header names. -/
def isInPieces (value : String) : Bool :=
  match (Text.splitAt (· == ',') value.toList).getLast? with
  | some last => (trimmed last).map Char.toLower == "chunked".toList
  | none => false

/-- The value of a header, if there is one. -/
def value? (headers : List Header) (name : String) : Option String :=
  (headers.find? (·.1 == name)).map (·.2)

def without (headers : List Header) (name : String) : List Header :=
  headers.filter (·.1 != name)

/-- The headers of a message without a body: nothing is transferred. -/
def emptyHeaders (headers : List Header) : List Header := without headers "transfer-encoding"

/-- The headers of a message with a body that is transferred in pieces, as one of them says. A
length that is announced as well is left out. -/
def piecesHeaders (headers : List Header) (coding : String) : List Header :=
  let coding := if isInPieces coding then coding else coding ++ ", chunked"
  let others := without headers "transfer-encoding"
  let others :=
    if ((value? others "content-length").bind announced?).isSome then
      without others "content-length"
    else others
  others ++ [("transfer-encoding", coding)]

/-- The headers and the part of a body that is sent under them. A length that is announced holds,
if the body is that long. -/
def framed? (headers : List Header) (body : List UInt8) : Option (List Header × List UInt8) :=
  match value? headers "transfer-encoding" with
  | some coding => some (piecesHeaders headers coding, body)
  | none =>
    match (value? headers "content-length").bind announced? with
    | some length => if length ≤ body.length then some (headers, body.take length) else none
    | none =>
      some (without headers "content-length" ++ [("content-length", toString body.length)], body)

end Message

end Endpoint.Client
