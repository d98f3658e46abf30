/-!
Why a call of a client fails.
-/

namespace Endpoint

/-- Why a request could not be exchanged with a server. -/
inductive ConnectionFault
  | refused
  | unsendable
  | unreadable
deriving DecidableEq, Repr

inductive ClientError
  | connection (fault : ConnectionFault)
  | status (code : Nat) (body : String)
  | cancelled
  | encoding (reason : String)
  | decoding (reason : String)
  | url (text reason : String)
  | header (reason : String)
  | blocking (reason : String)
deriving DecidableEq, Repr

namespace ClientError

def message : ClientError → String
  | .connection .refused => "HTTP request failed: connection refused"
  | .connection .unsendable => "HTTP request failed: builder error"
  | .connection .unreadable => "HTTP request failed: error sending request"
  | .status code body => s!"HTTP {code}: {body}"
  | .cancelled => "Request cancelled"
  | .encoding reason => s!"Failed to encode request body: {reason}"
  | .decoding reason => s!"Failed to decode response body: {reason}"
  | .url text reason => s!"Invalid URL `{text}`: {reason}"
  | .header reason => s!"Invalid header: {reason}"
  | .blocking reason => s!"Failed to start runtime: {reason}"

/-- Whether the same request may succeed later. -/
def isRetryable : ClientError → Bool
  | .status code _ => code ≥ 500 || code == 429
  | .connection fault => fault == .refused
  | _ => false

/-- The status that the server answered with. -/
def status? : ClientError → Option Nat
  | .status code _ => some code
  | _ => none

def isCancelled : ClientError → Bool
  | .cancelled => true
  | _ => false

end ClientError

end Endpoint
