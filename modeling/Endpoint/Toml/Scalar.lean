import Endpoint.Number.Binary

/-!
Numbers, dates, times and booleans of settings files. Only their form and range are looked at: a
reader gives the rest behind the value, or nothing if none stands in front.
-/

namespace Endpoint.Toml.Scalar

/-- The rest behind the word. -/
def word? : List Char → List Char → Option (List Char)
  | [], rest => some rest
  | c :: word, d :: rest => if c == d then word? word rest else none
  | _ :: _, [] => none

/-- The rest behind a character that passes the test. -/
def one? (test : Char → Bool) : List Char → Option (List Char)
  | c :: rest => if test c then some rest else none
  | [] => none

/-! ### Numbers -/

/-- The rest behind digits, which may have single underscores among them. -/
def digits? (isDigit : Char → Bool) : List Char → Option (List Char)
  | [] => none
  | c :: rest => if isDigit c then some (more rest) else none
where
  more : List Char → List Char
    | '_' :: c :: rest => if isDigit c then more rest else '_' :: c :: rest
    | c :: rest => if isDigit c then more rest else c :: rest
    | [] => []

/-- The rest behind a sign, if one stands in front. -/
def skipSign (cs : List Char) : List Char := (Number.takeSign cs).2

/-- The rest behind a whole number to the base ten. A zero in front stands alone. -/
def decimal? (cs : List Char) : Option (List Char) :=
  match skipSign cs with
  | '0' :: rest => some rest
  | rest => digits? Char.isDigit rest

/-- The characters between a text and a later part of it, without underscores. -/
def bare (start rest : List Char) : List Char :=
  (start.take (start.length - rest.length)).filter (· != '_')

/-- The rest behind an exponent. -/
def exponent? (cs : List Char) : Option (List Char) := do
  digits? Char.isDigit (skipSign (← one? (fun c => c == 'e' || c == 'E') cs))

/-- The rest behind a number with a point or an exponent, which is not beyond all finite ones. -/
def float? (cs : List Char) : Option (List Char) := do
  let whole ← decimal? cs
  let rest ←
    match whole with
    | '.' :: part => do
      let rest ← digits? Char.isDigit part
      pure ((exponent? rest).getD rest)
    | _ => exponent? whole
  match Number.double.read? (String.ofList (bare cs rest)) with
  | none | some (.infinite false) => none
  | some _ => return rest

/-- The rest behind `inf` or `nan` with an optional sign. -/
def named? (cs : List Char) : Option (List Char) :=
  word? ['i', 'n', 'f'] (skipSign cs) <|> word? ['n', 'a', 'n'] (skipSign cs)

/-- The value of a digit, up to those of the base 16. -/
def digitValue (c : Char) : Nat :=
  if c.isDigit then c.toNat - 48 else if 97 ≤ c.toNat then c.toNat - 87 else c.toNat - 55

/-- Whether the character is a digit to the base. -/
def isDigitOf (base : Nat) (c : Char) : Bool :=
  (c.isDigit || (65 ≤ c.toNat && c.toNat ≤ 70) || (97 ≤ c.toNat && c.toNat ≤ 102)) &&
    digitValue c < base

/-- The rest behind a whole number to another base, which must be one of 63 bits. -/
def based? (base : Nat) (cs : List Char) : Option (List Char) := do
  let rest ← digits? (isDigitOf base) cs
  let value := (bare cs rest).foldl (fun value c => base * value + digitValue c) 0
  if value < Nat.pow 2 63 then return rest else none

/-- The rest behind a whole number, which must be one of 64 bits with sign. -/
def integer? (cs : List Char) : Option (List Char) :=
  match cs with
  | '0' :: 'x' :: rest => based? 16 rest
  | '0' :: 'o' :: rest => based? 8 rest
  | '0' :: 'b' :: rest => based? 2 rest
  | _ => do
    let rest ← decimal? cs
    let (negative, digits) := Number.takeSign (bare cs rest)
    let value := Number.digitsValue digits
    if value < Nat.pow 2 63 || (negative && value == Nat.pow 2 63) then return rest else none

/-! ### Dates and times -/

/-- A number of so many digits within the bounds. -/
def field? (count least greatest : Nat) (cs : List Char) : Option (Nat × List Char) :=
  let digits := cs.take count
  let value := Number.digitsValue digits
  if digits.length == count && digits.all Char.isDigit && least ≤ value && value ≤ greatest then
    some (value, cs.drop count)
  else none

/-- The number of days of a month. -/
def daysOf (year month : Nat) : Nat :=
  if month == 2 then
    if year % 4 == 0 && (year % 100 != 0 || year % 400 == 0) then 29 else 28
  else if [4, 6, 9, 11].contains month then 30
  else 31

/-- The rest behind a date. -/
def date? (cs : List Char) : Option (List Char) := do
  let (year, rest) ← field? 4 0 9999 cs
  let (month, rest) ← field? 2 1 12 (← one? (· == '-') rest)
  let (_, rest) ← field? 2 1 (daysOf year month) (← one? (· == '-') rest)
  return rest

/-- The rest behind the hour and minute of a time. -/
def minutes? (cs : List Char) : Option (List Char) := do
  let (_, rest) ← field? 2 0 23 cs
  let (_, rest) ← field? 2 0 59 (← one? (· == ':') rest)
  return rest

/-- The rest behind a time of day. -/
def time? (cs : List Char) : Option (List Char) := do
  let (_, rest) ← field? 2 0 60 (← one? (· == ':') (← minutes? cs))
  match rest with
  | '.' :: c :: part =>
    if c.isDigit then return part.dropWhile Char.isDigit else return rest
  | _ => return rest

/-- The rest behind what a time differs by from the one at the zero meridian, if it is stated. -/
def skipOffset (cs : List Char) : List Char :=
  match cs with
  | c :: rest =>
    if c == 'Z' || c == 'z' then rest
    else if c == '+' || c == '-' then (minutes? rest).getD cs
    else cs
  | [] => []

/-- The rest behind a date, a time of day, or both. -/
def moment? (cs : List Char) : Option (List Char) :=
  match date? cs with
  | some rest =>
    some (((one? (fun c => c == 'T' || c == 't' || c == ' ') rest).bind time?).elim rest skipOffset)
  | none => time? cs

/-- The rest behind a number, a date, a time or a boolean. -/
def skip? (cs : List Char) : Option (List Char) :=
  moment? cs <|> float? cs <|> named? cs <|> integer? cs <|>
    word? "true".toList cs <|> word? "false".toList cs

end Endpoint.Toml.Scalar
