import Endpoint.Url.Domain
import Endpoint.Text.Percent
import Endpoint.Text.Utf8
import Endpoint.Number.Binary

/-!
Hosts of URLs: domain names in their ASCII form, addresses of versions four and six, and the
plain hosts of schemes that the URL standard does not know.
-/

namespace Endpoint.Url

/-- Why text is no URL. -/
inductive Fault
  | emptyHost
  | domain
  | port
  | addressFour
  | addressSix
  | hostCharacter
  | relative
deriving DecidableEq, Repr

def Fault.message : Fault → String
  | .emptyHost => "empty host"
  | .domain => "invalid international domain name"
  | .port => "invalid port number"
  | .addressFour => "invalid IPv4 address"
  | .addressSix => "invalid IPv6 address"
  | .hostCharacter => "invalid domain character"
  | .relative => "relative URL without a base"

inductive Host
  | domain (name : String)
  | four (address : Nat)
  | six (pieces : List Nat)
  | plain (text : String)
deriving DecidableEq, Repr

/-- Characters that no plain host holds. -/
def isForbiddenInHost (c : Char) : Bool :=
  [0, 9, 10, 13, 32].contains c.toNat || "#/:<>?@[\\]^|".toList.contains c

/-! ### Addresses of version four -/

/-- The number that a part of an address names: decimal, octal behind a zero, or hexadecimal
behind `0x`. -/
def addressNumber? (part : List Char) : Option Nat :=
  match part with
  | [] => none
  | '0' :: 'x' :: rest | '0' :: 'X' :: rest => hex rest
  | '0' :: rest => if rest.all fun c => '0' ≤ c && c ≤ '7' then some (value 8 rest) else none
  | rest => if rest.all Char.isDigit then some (value 10 rest) else none
where
  hex (rest : List Char) : Option Nat :=
    if rest.all fun c => (Text.hexValue? c).isSome then some (value 16 rest) else none
  value (base : Nat) (digits : List Char) : Nat :=
    digits.foldl (fun sum c => base * sum + (Text.hexValue? c).getD 0) 0

/-- The parts of a domain name without an empty last one. -/
def addressParts (domain : List Char) : List (List Char) :=
  let parts := Text.splitAt (· == '.') domain
  if parts.length > 1 && (parts.getLast?.map List.isEmpty).getD false then parts.dropLast
  else parts

/-- Whether a domain name is read as an address: its last part is a number. -/
def endsInNumber (domain : List Char) : Bool :=
  match (addressParts domain).getLast? with
  | some last => (!last.isEmpty && last.all Char.isDigit) || (addressNumber? last).isSome
  | none => false

def addressFour (domain : List Char) : Except Fault Nat :=
  match (addressParts domain).mapM addressNumber? with
  | none => .error .addressFour
  | some numbers =>
    match numbers.getLast? with
    | none => .error .addressFour
    | some last =>
      let first := numbers.dropLast
      if numbers.length > 4 || first.any (· > 255) || last ≥ Nat.pow 256 (5 - numbers.length) then
        .error .addressFour
      else
        .ok (first.zipIdx.foldl (fun sum (number, index) =>
          sum + number * Nat.pow 256 (3 - index)) last)

def addressFourText (address : Nat) : String :=
  ".".intercalate ([3, 2, 1, 0].map fun place => toString (address / Nat.pow 256 place % 256))

/-! ### Addresses of version six -/

/-- The pieces of one side of an address: hexadecimal ones, and four decimal bytes at the end if
allowed. -/
def sixPieces? (lastAllowed : Bool) : List (List Char) → Option (List Nat)
  | [] => some []
  | [last] =>
    if lastAllowed && last.contains '.' then do
      let bytes ← (Text.splitAt (· == '.') last).mapM fun part =>
        if !part.isEmpty && part.all Char.isDigit && (part.length == 1 || part.head? != some '0')
            && Number.digitsValue part ≤ 255 then
          some (Number.digitsValue part)
        else none
      match bytes with
      | [a, b, c, d] => some [256 * a + b, 256 * c + d]
      | _ => none
    else do return [← piece? last]
  | first :: rest => do return (← piece? first) :: (← sixPieces? lastAllowed rest)
where
  piece? (part : List Char) : Option Nat :=
    if !part.isEmpty && part.length ≤ 4 && part.all fun c => (Text.hexValue? c).isSome then
      some (part.foldl (fun sum c => 16 * sum + (Text.hexValue? c).getD 0) 0)
    else none

/-- The text before and behind the first double colon. -/
def cutDoubleColon : List Char → Option (List Char × List Char)
  | ':' :: ':' :: rest => some ([], rest)
  | c :: rest => (cutDoubleColon rest).map fun (before, behind) => (c :: before, behind)
  | [] => none

/-- One side of an address: nothing, or pieces between colons. -/
def sixSide? (lastAllowed : Bool) (side : List Char) : Option (List Nat) :=
  if side.isEmpty then some [] else sixPieces? lastAllowed (Text.splitAt (· == ':') side)

def addressSix (text : List Char) : Except Fault (List Nat) :=
  let found := match cutDoubleColon text with
    | some (before, behind) => do
      let left ← sixSide? false before
      let right ← sixSide? true behind
      if left.length + right.length > 7 then none
      else some (left ++ List.replicate (8 - left.length - right.length) 0 ++ right)
    | none => do
      let pieces ← sixPieces? true (Text.splitAt (· == ':') text)
      if pieces.length == 8 then some pieces else none
  match found with
  | some pieces => .ok pieces
  | none => .error .addressSix

/-- The length of the run of zeros in front. -/
def zeroRun (pieces : List Nat) : Nat := (pieces.takeWhile (· == 0)).length

/-- The place and length of the first longest run of two zeros or more. -/
def longestZeros (pieces : List Nat) : Option (Nat × Nat) :=
  let runs := (List.range pieces.length).map fun place => (place, zeroRun (pieces.drop place))
  let longest := (runs.map (·.2)).foldl max 0
  if longest < 2 then none else runs.find? (·.2 == longest)

def hexText (pieces : List Nat) : String :=
  ":".intercalate (pieces.map fun piece => String.ofList (Nat.toDigits 16 piece))

def addressSixText (pieces : List Nat) : String :=
  match longestZeros pieces with
  | some (place, length) =>
    hexText (pieces.take place) ++ "::" ++ hexText (pieces.drop (place + length))
  | none => hexText pieces

/-! ### Hosts -/

def Host.text : Host → String
  | .domain name => name
  | .four address => addressFourText address
  | .six pieces => "[" ++ addressSixText pieces ++ "]"
  | .plain text => text

/-- Whether the character is escaped everywhere: controls and all beyond ASCII. -/
def isControl (c : Char) : Bool := c.toNat < 32 || c.toNat ≥ 127

/-- The host of a URL whose scheme the standard knows. -/
def Host.read (cs : List Char) : Except Fault Host :=
  match cs with
  | '[' :: rest =>
    if rest.getLast? == some ']' then (addressSix rest.dropLast).map .six else .error .addressSix
  | _ =>
    match Text.strictText? (Text.percentBytes cs) with
    | none => .error .domain
    | some text =>
      match Domain.ascii? text with
      | none => .error .domain
      | some [] => .error .emptyHost
      | some name =>
        if endsInNumber name then (addressFour name).map .four
        else .ok (.domain (String.ofList name))

/-- The host of a URL with another scheme. -/
def Host.readPlain (cs : List Char) : Except Fault Host :=
  match cs with
  | '[' :: rest =>
    if rest.getLast? == some ']' then (addressSix rest.dropLast).map .six else .error .addressSix
  | _ =>
    if cs.any isForbiddenInHost then .error .hostCharacter
    else .ok (.plain (Text.percentEncodeUnless (!isControl ·) (String.ofList cs)))

end Endpoint.Url
