import Endpoint.Text.Printable

/-!
Text between double quotes: control characters, quotes and backslashes are written as escapes,
characters that cannot be shown by their number, all others as they are.
-/

namespace Endpoint.Text

/-- The number in lower-case hexadecimal digits. -/
def hexadecimal (n : Nat) : String :=
  String.ofList (Nat.toDigits 16 n)

/-- Whether the text begins with an octal digit, which would be read into a short null escape. -/
def startsOctal : List Char → Bool
  | c :: _ => '0' ≤ c && c ≤ '7'
  | [] => false

/-- The escape for one character other than null, inside double quotes. -/
def escapeChar (c : Char) : String :=
  if c == '"' then "\\\""
  else if c == '\\' then "\\\\"
  else if c == '\n' then "\\n"
  else if c == '\r' then "\\r"
  else if c == '\t' then "\\t"
  else if isNumbered c then "\\u\x7b" ++ hexadecimal c.toNat ++ "\x7d"
  else c.toString

/-- The text between the quotes. Null is `\0`, or `\x00` before an octal digit. -/
def escapeChars : List Char → String
  | [] => ""
  | c :: rest =>
    let shown :=
      if c.toNat == 0 then (if startsOctal rest then "\\x00" else "\\0") else escapeChar c
    shown ++ escapeChars rest

/-- The text as a string literal. -/
def quote (text : String) : String :=
  "\"" ++ escapeChars text.toList ++ "\""

/-- The text as shown in debugging output, where null is always `\0`. -/
def showQuoted (text : String) : String :=
  "\"" ++ text.toList.foldl
    (fun shown c => shown ++ (if c.toNat == 0 then "\\0" else escapeChar c)) "" ++ "\""

/-! ### Reading -/

/-- The value of a hexadecimal digit. -/
def hexDigit? (c : Char) : Option Nat :=
  if c.isDigit then some (c.toNat - 48)
  else if 'a' ≤ c && c ≤ 'f' then some (c.toNat - 87)
  else if 'A' ≤ c && c ≤ 'F' then some (c.toNat - 55)
  else none

/-- The digits of a braced escape, up to the closing brace. -/
def bracedNumber (value : Nat) : List Char → Option (Nat × List Char)
  | [] => none
  | c :: rest =>
    if c.toNat == 125 then some (value, rest)
    else if c == '_' then bracedNumber value rest
    else do bracedNumber (value * 16 + (← hexDigit? c)) rest

/-- White space that a backslash at the end of a line skips. -/
def isSkipped (c : Char) : Bool :=
  let n := c.toNat
  n == 32 || (9 ≤ n && n ≤ 13) || n == 0x85 || n == 0xa0 || n == 0x1680 ||
    (0x2000 ≤ n && n ≤ 0x200a) || n == 0x2028 || n == 0x2029 || n == 0x202f || n == 0x205f ||
    n == 0x3000

/-- The characters that the quoted text stands for, up to the closing quote, and what follows
it. -/
def unescape : Nat → List Char → Option (List Char × List Char)
  | 0, _ => none
  | _, [] => none
  | _ + 1, '"' :: rest => some ([], rest)
  | fuel + 1, '\r' :: '\n' :: rest => prepend '\n' (unescape fuel rest)
  | fuel + 1, '\\' :: 'n' :: rest => prepend '\n' (unescape fuel rest)
  | fuel + 1, '\\' :: 'r' :: rest => prepend '\r' (unescape fuel rest)
  | fuel + 1, '\\' :: 't' :: rest => prepend '\t' (unescape fuel rest)
  | fuel + 1, '\\' :: '0' :: rest => prepend (Char.ofNat 0) (unescape fuel rest)
  | fuel + 1, '\\' :: 'x' :: a :: b :: rest => do
    prepend (Char.ofNat ((← hexDigit? a) * 16 + (← hexDigit? b))) (unescape fuel rest)
  | fuel + 1, '\\' :: 'u' :: _ :: rest => do
    let (value, left) ← bracedNumber 0 rest
    prepend (Char.ofNat value) (unescape fuel left)
  | fuel + 1, '\\' :: '\n' :: rest => unescape fuel (rest.dropWhile isSkipped)
  | fuel + 1, '\\' :: '\r' :: rest => unescape fuel (rest.dropWhile isSkipped)
  | fuel + 1, '\\' :: c :: rest => prepend c (unescape fuel rest)
  | fuel + 1, c :: rest => prepend c (unescape fuel rest)
where
  prepend (c : Char) (read : Option (List Char × List Char)) : Option (List Char × List Char) :=
    read.map fun (cs, rest) => (c :: cs, rest)

/-- The characters up to a quote followed by the given number of `#`. -/
def rawBody (hashes : Nat) : List Char → Option (List Char)
  | [] => none
  | c :: rest =>
    if c == '"' && (List.replicate hashes '#').isPrefixOf rest then some []
    else (rawBody hashes rest).map (c :: ·)

/-- The value of a string literal, quoted or raw, with or without a suffix; nothing for a
literal of another kind. -/
def unquote? (literal : String) : Option String :=
  match literal.toList with
  | '"' :: rest => (unescape (rest.length + 1) rest).map fun (cs, _) => String.ofList cs
  | 'r' :: rest =>
    let hashes := (rest.takeWhile (· == '#')).length
    match rest.drop hashes with
    | '"' :: body => (rawBody hashes body).map String.ofList
    | _ => none
  | _ => none

end Endpoint.Text
