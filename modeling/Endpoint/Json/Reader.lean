import Endpoint.Json
import Endpoint.Text.Percent

/-!
Reading JSON text. A value may be nested 127 levels deep; numbers beyond 64 bits become
floating-point ones, and those beyond all finite ones are refused. A value that nobody asks for
only has to be written as JSON: its depth, the size of its numbers and the pairing of its
character codes are not looked at.
-/

namespace Endpoint.Json

/-- What of a value is asked for: nothing, all, of a record the entries with the names, or of a
list the same of each item. -/
inductive Outline
  | nothing
  | whole
  | entries (names : List String)
  | items (outline : Outline)
deriving DecidableEq, Repr

namespace Outline

/-- What is asked for of the items, if the value is a list. -/
def ofItems : Outline → Outline
  | .nothing => .nothing
  | .items outline => outline
  | .whole | .entries _ => .whole

/-- What is asked for of the entry with the name, if the value is a record. -/
def ofEntry (name : String) : Outline → Outline
  | .nothing => .nothing
  | .entries names => if names.contains name then .whole else .nothing
  | .whole | .items _ => .whole

end Outline

end Endpoint.Json

namespace Endpoint.Json.Reader

def isBlank (c : Char) : Bool := c == ' ' || c == '\n' || c == '\r' || c == '\t'

def skip (cs : List Char) : List Char := cs.dropWhile isBlank

/-- Takes the word, if it stands in front. -/
def word? : List Char → List Char → Option (List Char)
  | [], rest => some rest
  | c :: word, d :: rest => if c == d then word? word rest else none
  | _ :: _, [] => none

/-! ### Numbers -/

/-- Adds digits to a number of 64 bits as long as they fit. Gives the number and the digits that
do not fit. -/
def significand : Nat → List Char → Nat × List Char
  | value, [] => (value, [])
  | value, c :: rest =>
    let next := 10 * value + (c.toNat - 48)
    if next < Nat.pow 2 64 then significand next rest else (value, c :: rest)

/-- Ten to the power, as near as can be. -/
def powerOfTen (exponent : Nat) : Number.Binary := Number.double.ofDecimal false 1 exponent

/-- The number times ten to the exponent, if it is finite. One that is small beyond all powers of
ten is divided twice. -/
def scaled? (value : Number.Binary) (exponent : Int) : Option Number.Binary :=
  if 308 < exponent then if value.isZero then some value else none
  else if exponent < -308 then
    if value.isZero then some value
    else scaled? (Number.double.divide value (powerOfTen 308)) (exponent + 308)
  else if exponent < 0 then some (Number.double.divide value (powerOfTen (-exponent).toNat))
  else
    match Number.double.multiply value (powerOfTen exponent.toNat) with
    | .finite negative units scale => some (.finite negative units scale)
    | _ => none
termination_by (-exponent).toNat

/-- The number with these parts, if it is not beyond all finite ones: the digits that fit into 64
bits, times a power of ten. -/
def number? (negative : Bool) (whole part : List Char) (exponent : Option Int) :
    Option Json.Number :=
  let (value, beyond) := significand 0 whole
  match part, exponent, beyond with
  | [], none, [] =>
    if !negative then some (.natural value)
    else if value != 0 && value ≤ Nat.pow 2 63 then some (.negative (-value))
    else some (.real (Number.double.round true value 1))
  | _, _, _ =>
    let (value, dropped) := significand value part
    let shift : Int := (beyond.length : Int) - ((part.length - dropped.length : Nat) : Int)
    (scaled? (Number.double.round negative value 1) (exponent.getD 0 + shift)).map .real

/-- The digits behind a point, if one stands in front. -/
def fraction? : List Char → Option (List Char × List Char)
  | '.' :: rest =>
    let digits := rest.takeWhile Char.isDigit
    if digits.isEmpty then none else some (digits, rest.dropWhile Char.isDigit)
  | rest => some ([], rest)

/-- The exponent, if one stands in front. -/
def exponent? : List Char → Option (Option Int × List Char)
  | [] => some (none, [])
  | c :: rest =>
    if c == 'e' || c == 'E' then
      let (negative, rest) := Number.takeSign rest
      let digits := rest.takeWhile Char.isDigit
      if digits.isEmpty then none
      else
        let value : Int := Number.digitsValue digits
        some (some (if negative then -value else value), rest.dropWhile Char.isDigit)
    else some (none, c :: rest)

/-- A number; a zero in front stands alone. -/
def numeral? (outline : Outline) (cs : List Char) : Option (Json.Number × List Char) := do
  let (negative, cs) := match cs with
    | '-' :: rest => (true, rest)
    | rest => (false, rest)
  let (whole, cs) := match cs with
    | '0' :: rest => (['0'], rest)
    | rest => (rest.takeWhile Char.isDigit, rest.dropWhile Char.isDigit)
  if whole.isEmpty then failure
  if whole == ['0'] && (cs.head?.map Char.isDigit).getD false then failure
  let (part, cs) ← fraction? cs
  let (exponent, cs) ← exponent? cs
  if outline == .nothing then return (.natural 0, cs)
  return (← number? negative whole part exponent, cs)

/-! ### Text -/

/-- The number in four hexadecimal digits. -/
def unit? : List Char → Option (Nat × List Char)
  | a :: b :: c :: d :: rest => do
    let digit := Text.hexValue?
    return (((← digit a) * 16 + (← digit b)) * 256 + (← digit c) * 16 + (← digit d), rest)
  | _ => none

/-- A character by its number, or by the two halves of a pair. -/
def unicode? (outline : Outline) (cs : List Char) : Option (Char × List Char) := do
  let (high, cs) ← unit? cs
  if outline == .nothing then return (Char.ofNat high, cs)
  if 0xd800 ≤ high && high < 0xdc00 then
    match cs with
    | '\\' :: 'u' :: rest =>
      let (low, rest) ← unit? rest
      if 0xdc00 ≤ low && low < 0xe000 then
        return (Char.ofNat (0x10000 + (high - 0xd800) * 1024 + (low - 0xdc00)), rest)
      else failure
    | _ => failure
  else if 0xdc00 ≤ high && high < 0xe000 then failure
  else return (Char.ofNat high, cs)

/-- The character that an escape stands for. -/
def escaped? (outline : Outline) : List Char → Option (Char × List Char)
  | 'u' :: rest => unicode? outline rest
  | '"' :: rest => some ('"', rest)
  | '\\' :: rest => some ('\\', rest)
  | '/' :: rest => some ('/', rest)
  | 'b' :: rest => some (Char.ofNat 8, rest)
  | 'f' :: rest => some (Char.ofNat 12, rest)
  | 'n' :: rest => some ('\n', rest)
  | 'r' :: rest => some ('\r', rest)
  | 't' :: rest => some ('\t', rest)
  | _ => none

/-- The characters up to the closing quote. -/
def chars? (outline : Outline) : Nat → List Char → Option (List Char × List Char)
  | 0, _ => none
  | _, [] => none
  | fuel + 1, c :: rest => do
    if c == '"' then return ([], rest)
    else if c == '\\' then
      let (found, rest) ← escaped? outline rest
      let (more, rest) ← chars? outline fuel rest
      return (found :: more, rest)
    else if c.toNat < 32 then failure
    else
      let (more, rest) ← chars? outline fuel rest
      return (c :: more, rest)

def text? (outline : Outline) (cs : List Char) : Option (String × List Char) := do
  let (found, rest) ← chars? outline (cs.length + 1) cs
  return (String.ofList found, rest)

/-! ### Values -/

mutual

/-- One value, with blanks in front, nested no deeper than given as far as it is asked for. -/
def value? : Nat → Outline → Nat → List Char → Option (Json × List Char)
  | 0, _, _, _ => none
  | fuel + 1, outline, depth, cs =>
    let tooDeep := depth = 0 ∧ outline ≠ .nothing
    match skip cs with
    | '"' :: rest => (text? outline rest).map fun (found, rest) => (.text found, rest)
    | '[' :: rest =>
      if tooDeep then none
      else
        match skip rest with
        | ']' :: rest => some (.list [], rest)
        | rest =>
          (items? fuel outline.ofItems (depth - 1) rest).map fun (found, rest) =>
            (.list found, rest)
    | 'n' :: rest => (word? ['u', 'l', 'l'] rest).map fun rest => (.null, rest)
    | 't' :: rest => (word? ['r', 'u', 'e'] rest).map fun rest => (.bool true, rest)
    | 'f' :: rest => (word? ['a', 'l', 's', 'e'] rest).map fun rest => (.bool false, rest)
    | c :: rest =>
      if c.toNat == 123 then
        if tooDeep then none
        else
          match skip rest with
          | d :: rest =>
            if d.toNat == 125 then some (.record [], rest)
            else
              (entries? fuel outline (depth - 1) (d :: rest)).map fun (found, rest) =>
                (.record found, rest)
          | [] => none
      else (numeral? outline (c :: rest)).map fun (found, rest) => (.number found, rest)
    | [] => none

/-- The items of a list, up to its end. -/
def items? : Nat → Outline → Nat → List Char → Option (List Json × List Char)
  | 0, _, _, _ => none
  | fuel + 1, outline, depth, cs => do
    let (first, rest) ← value? fuel outline depth cs
    match skip rest with
    | ',' :: rest =>
      let (more, rest) ← items? fuel outline depth rest
      return (first :: more, rest)
    | ']' :: rest => return ([first], rest)
    | _ => failure

/-- The entries of a record, up to its end. -/
def entries? : Nat → Outline → Nat → List Char → Option (List (String × Json) × List Char)
  | 0, _, _, _ => none
  | fuel + 1, outline, depth, cs => do
    match skip cs with
    | '"' :: rest =>
      let (key, rest) ← text? outline rest
      match skip rest with
      | ':' :: rest =>
        let (value, rest) ← value? fuel (outline.ofEntry key) depth rest
        match skip rest with
        | ',' :: rest =>
          let (more, rest) ← entries? fuel outline depth rest
          return ((key, value) :: more, rest)
        | c :: rest => if c.toNat == 125 then return ([(key, value)], rest) else failure
        | [] => failure
      | _ => failure
    | _ => failure

end

end Reader

/-- The deepest nesting that is read. -/
def deepest : Nat := 127

/-- The value that the text is, as far as it is asked for. -/
def readOutline? (outline : Outline) (text : String) : Option Json :=
  let cs := text.toList
  match Reader.value? (2 * cs.length + 2) outline deepest cs with
  | some (value, rest) => if (Reader.skip rest).isEmpty then some value else none
  | none => none

/-- The value that the text is. -/
def read? (text : String) : Option Json := readOutline? .whole text

end Endpoint.Json
