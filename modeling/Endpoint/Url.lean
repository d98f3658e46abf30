import Endpoint.Url.Host

/-!
Absolute URLs: reading by the rules of the URL standard, and the written form.
-/

namespace Endpoint

namespace Url

/-- The path of a URL: segments behind slashes, or one text for a scheme without hierarchy. -/
inductive Path
  | segments (held : List String)
  | plain (text : String)
deriving DecidableEq, Repr

def Path.text : Path → String
  | .segments held => String.join (held.map ("/" ++ ·))
  | .plain text => text

end Url

structure Url where
  scheme : String
  username : String
  password : String
  host : Option Url.Host
  port : Option Nat
  path : Url.Path
  query : Option String
  fragment : Option String
deriving DecidableEq, Repr

namespace Url

/-- The port that a scheme uses if none is given. -/
def defaultPort? (scheme : String) : Option Nat :=
  match scheme with
  | "http" | "ws" => some 80
  | "https" | "wss" => some 443
  | "ftp" => some 21
  | _ => none

/-- Whether the standard knows the scheme. -/
def isSpecial (scheme : String) : Bool := (defaultPort? scheme).isSome || scheme == "file"

/-! ### Sets of escaped characters -/

def keepsIn (escaped : String) (c : Char) : Bool :=
  !isControl c && !escaped.toList.contains c

def keepsInFragment : Char → Bool := keepsIn (" \"<>" ++ String.ofList [Char.ofNat 96])

def keepsInPath (c : Char) : Bool :=
  keepsInFragment c && c != '#' && c != '?' && c.toNat != 123 && c.toNat != 125

def keepsInQuery (special : Bool) (c : Char) : Bool :=
  keepsIn " \"#<>" c && !(special && c.toNat == 39)

def keepsInUser (c : Char) : Bool :=
  keepsInPath c && !"/:;=@[\\]^|".toList.contains c

def encode (keeps : Char → Bool) (cs : List Char) : String :=
  Text.percentEncodeUnless keeps (String.ofList cs)

/-! ### Paths -/

/-- Whether the segment stands for the same place: a point, written out or escaped. -/
def isSingleDot (segment : List Char) : Bool :=
  [".", "%2e"].contains (String.ofList (segment.map Char.toLower))

/-- Whether the segment stands for the place above. -/
def isDoubleDot (segment : List Char) : Bool :=
  ["..", ".%2e", "%2e.", "%2e%2e"].contains (String.ofList (segment.map Char.toLower))

/-- Whether the text is the letter of a drive. -/
def isDrive (cs : List Char) : Bool :=
  match cs with
  | [letter, mark] => letter.isAlpha && (mark == ':' || mark == '|')
  | _ => false

/-- Goes one place up; the letter of a drive stays. -/
def shorten (held : List String) : List String :=
  if held.getLast?.any fun last => isDrive (last.toList.takeWhile (· != '\\')) then held
  else held.dropLast

/-- Adds one segment to those before it. -/
def addSegment (isLast : Bool) (held : List String) (segment : List Char) : List String :=
  let ending := if isLast then [""] else []
  if isDoubleDot segment then shorten held ++ ending
  else if isSingleDot segment then held ++ ending
  else held ++ [encode keepsInPath segment]

/-- Adds segments, the last of which may end in a place. -/
def addSegments : List String → List (List Char) → List String
  | held, [] => held
  | held, [last] => addSegment true held last
  | held, first :: rest => addSegments (addSegment false held first) rest

/-- The path of a file, which begins with one slash only. -/
def withoutEmptyStart (held : List String) : List String :=
  match held.dropWhile (·.isEmpty) with
  | [] => [""]
  | rest => rest

/-- The segments of a path whose first slash has been taken. -/
def readSegments (scheme : String) (cs : List Char) : List String :=
  let isSlash := fun c => c == '/' || (c == '\\' && isSpecial scheme)
  let held := addSegments [] (Text.splitAt isSlash cs)
  if scheme == "file" then withoutEmptyStart held else held

/-! ### Reading -/

/-- The text up to the first character of the kind, and what follows. -/
def cutAt (stops : Char → Bool) (cs : List Char) : List Char × List Char :=
  (cs.takeWhile (!stops ·), cs.dropWhile (!stops ·))

/-- The query and the fragment behind a path. -/
def readTail (special : Bool) (cs : List Char) : Option String × Option String :=
  let (query, rest) := match cs with
    | '?' :: rest =>
      let (query, rest) := cutAt (· == '#') rest
      (some (encode (keepsInQuery special) query), rest)
    | rest => (none, rest)
  match rest with
  | '#' :: rest => (query, some (encode keepsInFragment rest))
  | _ => (query, none)

/-- The text before and behind the last `@`. -/
def cutUser (cs : List Char) : Option (List Char) × List Char :=
  let behind := (cs.reverse.takeWhile (· != '@')).reverse
  if behind.length == cs.length then (none, cs)
  else (some (cs.take (cs.length - behind.length - 1)), behind)

/-- The host and the text behind it, which is empty or begins with a colon. -/
def cutPort : Bool → List Char → List Char × List Char
  | _, [] => ([], [])
  | inBrackets, c :: rest =>
    if c == ':' && !inBrackets then ([], c :: rest)
    else
      let inBrackets := if c == '[' then true else if c == ']' then false else inBrackets
      let (host, port) := cutPort inBrackets rest
      (c :: host, port)

/-- The port behind a colon; the default of the scheme is left out. -/
def readPort (scheme : String) : List Char → Except Fault (Option Nat)
  | [] | [':'] => .ok none
  | _ :: digits =>
    if !digits.all Char.isDigit || Number.digitsValue digits > 65535 then .error .port
    else
      let port := Number.digitsValue digits
      .ok (if defaultPort? scheme == some port then none else some port)

/-- User, password, host and port. -/
def readAuthority (scheme : String) (cs : List Char) :
    Except Fault (String × String × Option Host × Option Nat) := do
  let (user, place) := cutUser cs
  if user.isSome && place.isEmpty then throw .emptyHost
  let (name, password) := cutAt (· == ':') (user.getD [])
  let (hostText, portText) := cutPort false place
  let special := isSpecial scheme
  if hostText.isEmpty && (special || !portText.isEmpty) then throw .emptyHost
  let host ← if special then Host.read hostText else Host.readPlain hostText
  let port ← readPort scheme portText
  return (encode keepsInUser name, encode keepsInUser (password.drop 1), some host, port)

/-- What follows the authority of a URL with that scheme. -/
def readPath (scheme : String) (cs : List Char) : Path × Option String × Option String :=
  let special := isSpecial scheme
  let (path, rest) := cutAt (fun c => c == '?' || c == '#') cs
  let held := match path with
    | c :: rest =>
      if c == '/' || (c == '\\' && special) then readSegments scheme rest
      else readSegments scheme path
    | [] => if special then [""] else []
  (.segments held, readTail special rest)

/-- Whether an authority ends at the character. -/
def endsAuthority (special : Bool) (c : Char) : Bool :=
  c == '/' || c == '?' || c == '#' || (special && c == '\\')

/-- A URL behind its scheme and the slashes of its authority. -/
def readHierarchy (scheme : String) (cs : List Char) : Except Fault Url := do
  let (authority, rest) := cutAt (endsAuthority (isSpecial scheme)) cs
  let (username, password, host, port) ← readAuthority scheme authority
  let (path, query, fragment) := readPath scheme rest
  return ⟨scheme, username, password, host, port, path, query, fragment⟩

/-- The URL of a file behind its scheme. -/
def readFile (cs : List Char) : Except Fault Url := do
  let isSlash := fun c => c == '/' || c == '\\'
  let slashes := (cs.takeWhile isSlash).length
  let (authority, rest) := cutAt (endsAuthority true) (cs.drop 2)
  let host : Option Host ←
    if slashes < 2 || authority.isEmpty || isDrive authority then
      pure (some (Host.domain ""))
    else do
      match ← Host.read authority with
      | .domain name => pure (some (.domain (if name == "localhost" then "" else name)))
      | other => pure (some other)
  let rest :=
    if slashes < 2 then cs
    else if isDrive authority then cs.drop 2
    else rest
  let (path, query, fragment) := readPath "file" rest
  return ⟨"file", "", "", host, none, path, query, fragment⟩

/-- A URL behind its scheme. -/
def readRest (scheme : String) (cs : List Char) : Except Fault Url :=
  if scheme == "file" then readFile cs
  else if isSpecial scheme then
    readHierarchy scheme (cs.dropWhile fun c => c == '/' || c == '\\')
  else
    match cs with
    | '/' :: '/' :: rest => readHierarchy scheme rest
    | '/' :: _ =>
      let (path, query, fragment) := readPath scheme cs
      .ok ⟨scheme, "", "", none, none, path, query, fragment⟩
    | _ =>
      let (path, rest) := cutAt (fun c => c == '?' || c == '#') cs
      let (query, fragment) := readTail false rest
      .ok ⟨scheme, "", "", none, none, .plain (encode (!isControl ·) path), query, fragment⟩

/-- Characters that a scheme may go on with. -/
def isSchemeChar (c : Char) : Bool := c.isAlphanum || c == '+' || c == '-' || c == '.'

/-- The text without blanks and controls at its ends and without line breaks and tabs. -/
def trimmed (text : String) : List Char :=
  let isBlank := fun c : Char => c.toNat ≤ 32
  let cs := text.toList.dropWhile isBlank
  let cs := (cs.reverse.dropWhile isBlank).reverse
  cs.filter fun c => c != '\t' && c != '\n' && c != '\r'

/-- The absolute URL that the text is. -/
def read (text : String) : Except Fault Url :=
  let cs := trimmed text
  let scheme := cs.takeWhile isSchemeChar
  match scheme, cs.drop scheme.length with
  | first :: _, ':' :: rest =>
    if first.isAlpha then readRest (String.ofList (scheme.map Char.toLower)) rest
    else .error .relative
  | _, _ => .error .relative

/-! ### Writing -/

def authorityText (url : Url) : String :=
  match url.host with
  | none => ""
  | some host =>
    let user :=
      if url.username.isEmpty && url.password.isEmpty then ""
      else url.username ++ (if url.password.isEmpty then "" else ":" ++ url.password) ++ "@"
    "//" ++ user ++ host.text ++
      match url.port with
      | some port => s!":{port}"
      | none => ""

/-- The mark that keeps a path of a URL without host from being read as a host. -/
def pathMark (url : Url) : String :=
  match url.host, url.path with
  | none, .segments ("" :: _ :: _) => "/."
  | _, _ => ""

def text (url : Url) : String :=
  url.scheme ++ ":" ++ url.authorityText ++ url.pathMark ++ url.path.text ++
    (match url.query with
      | some query => "?" ++ query
      | none => "") ++
    match url.fragment with
    | some fragment => "#" ++ fragment
    | none => ""

/-- What a request line names: the path, and the query if there is one. -/
def target (url : Url) : String :=
  url.path.text ++
    match url.query with
    | some query => "?" ++ query
    | none => ""

/-- Scheme, host and port. -/
def origin (url : Url) : String × Option Host × Option Nat := (url.scheme, url.host, url.port)

end Url

end Endpoint
