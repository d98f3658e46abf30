/-!
Binary floating-point numbers as exact values: a sign, a whole number of units and the power of
two that a unit is. A decimal is rounded to the nearest of them, a half to the even one, and
each is written with the fewest decimal digits that round back to it.
-/

namespace Endpoint.Number

/-- A binary format: the bits of a number's units, and the least and greatest exponent of a
unit. -/
structure Format where
  bits : Nat
  least : Int
  greatest : Int

/-- The format of 32 bits. -/
def single : Format := ⟨24, -149, 104⟩

/-- The format of 64 bits. -/
def double : Format := ⟨53, -1074, 971⟩

/-- A floating-point number: none at all, an infinity, or `units` times two to the `scale`. -/
inductive Binary
  | undefined
  | infinite (negative : Bool)
  | finite (negative : Bool) (units : Nat) (scale : Int)
deriving DecidableEq, Repr

/-- Whether the number is a zero of either sign. -/
def Binary.isZero : Binary → Bool
  | .finite _ units _ => units == 0
  | _ => false

/-- The power as a fraction of naturals. -/
def powerParts (base : Nat) (exponent : Int) : Nat × Nat :=
  if exponent < 0 then (1, Nat.pow base (-exponent).toNat) else (Nat.pow base exponent.toNat, 1)

/-- The quotient rounded to the nearest whole number, a half to the even one. -/
def roundedQuotient (numerator denominator : Nat) : Nat :=
  let quotient := numerator / denominator
  let double := 2 * (numerator % denominator)
  if double < denominator then quotient
  else if denominator < double then quotient + 1
  else quotient + quotient % 2

/-- The number of binary digits. -/
def bitLength (n : Nat) : Nat := if n = 0 then 0 else n.log2 + 1

/-- The fraction rounded to units of the given power of two. -/
def unitsAt (numerator denominator : Nat) (scale : Int) : Nat :=
  let (up, down) := powerParts 2 scale
  roundedQuotient (numerator * down) (denominator * up)

/-- The fraction rounded to the format. -/
def Format.round (format : Format) (negative : Bool) (numerator denominator : Nat) : Binary :=
  if numerator = 0 then .finite negative 0 format.least
  else
    let guess : Int := bitLength numerator - bitLength denominator - format.bits
    let scale := max format.least guess
    let units := unitsAt numerator denominator scale
    let (units, scale) :=
      if units < Nat.pow 2 format.bits then (units, scale)
      else
        let scale := scale + 1
        let units := unitsAt numerator denominator scale
        if units < Nat.pow 2 format.bits then (units, scale) else (units / 2, scale + 1)
    if scale > format.greatest then .infinite negative else .finite negative units scale

/-- The product of two numbers, rounded to the format. -/
def Format.multiply (format : Format) : Binary → Binary → Binary
  | .finite minus units scale, .finite minus' units' scale' =>
    let (up, down) := powerParts 2 (scale + scale')
    format.round (minus != minus') (units * units' * up) down
  | .infinite minus, .infinite minus' => .infinite (minus != minus')
  | .infinite minus, .finite minus' units _ | .finite minus units _, .infinite minus' =>
    if units = 0 then .undefined else .infinite (minus != minus')
  | _, _ => .undefined

/-- The quotient of two numbers, rounded to the format. -/
def Format.divide (format : Format) : Binary → Binary → Binary
  | .finite minus units scale, .finite minus' units' scale' =>
    if units' = 0 then if units = 0 then .undefined else .infinite (minus != minus')
    else
      let (up, down) := powerParts 2 (scale - scale')
      format.round (minus != minus') (units * up) (units' * down)
  | .infinite minus, .finite minus' _ _ => .infinite (minus != minus')
  | .finite minus _ _, .infinite minus' => .finite (minus != minus') 0 format.least
  | _, _ => .undefined

/-- The number of decimal digits; zero has none. -/
def decimalLength (n : Nat) : Nat := if n = 0 then 0 else (Nat.toDigits 10 n).length

/-- The number `digits` times ten to the `exponent`, rounded to the format. Beyond the range of
every format the place of the first digit alone decides. -/
def Format.ofDecimal (format : Format) (negative : Bool) (digits : Nat)
    (exponent : Int) : Binary :=
  let count := decimalLength digits
  if digits = 0 then .finite negative 0 format.least
  else if exponent + count > 400 then .infinite negative
  else if exponent + count < -400 then .finite negative 0 format.least
  else
    let (up, down) := powerParts 10 exponent
    format.round negative (digits * up) down

/-! ### Reading -/

/-- The number that a row of decimal digits stands for. -/
def digitsValue (digits : List Char) : Nat :=
  digits.foldl (fun value c => 10 * value + (c.toNat - 48)) 0

/-- Whether the characters are decimal digits, at least one. -/
def areDigits (digits : List Char) : Bool := !digits.isEmpty && digits.all Char.isDigit

/-- A sign in front and what follows it. -/
def takeSign : List Char → Bool × List Char
  | '-' :: rest => (true, rest)
  | '+' :: rest => (false, rest)
  | rest => (false, rest)

/-- The exponent behind an `e`, or zero if there is none. -/
def exponent? : List Char → Option Int
  | [] => some 0
  | c :: rest =>
    if c == 'e' || c == 'E' then
      let (negative, digits) := takeSign rest
      if areDigits digits then
        let value : Int := digitsValue digits
        some (if negative then -value else value)
      else none
    else none

/-- The number written as decimal digits with an optional point and exponent. -/
def Format.ofDigits? (format : Format) (negative : Bool) (text : List Char) : Option Binary :=
  let whole := text.takeWhile Char.isDigit
  let rest := text.dropWhile Char.isDigit
  let (part, rest) := match rest with
    | '.' :: rest => (rest.takeWhile Char.isDigit, rest.dropWhile Char.isDigit)
    | rest => ([], rest)
  let digits := whole ++ part
  if digits.isEmpty then none
  else (exponent? rest).map fun exponent =>
    format.ofDecimal negative (digitsValue digits) (exponent - part.length)

/-- The number that the text names: a decimal, an infinity or none at all, in any case. -/
def Format.read? (format : Format) (text : String) : Option Binary :=
  let (negative, rest) := takeSign text.toList
  let name := String.ofList (rest.map Char.toLower)
  if name == "nan" then some .undefined
  else if name == "inf" || name == "infinity" then some (.infinite negative)
  else format.ofDigits? negative rest

/-! ### Shortest digits -/

/-- The decimal digits of a number. -/
def digitsOf (n : Nat) : List Char := Nat.toDigits 10 n

/-- Which of two decimals that are equally near is taken: the greater, or the even one. -/
inductive Tie
  | up
  | even
deriving DecidableEq, Repr

/-- A whole number of a power of ten. -/
structure Decimal where
  digits : Nat
  exponent : Int
deriving DecidableEq, Repr

/-- The interval of fractions over `denominator` that round to a value, with its ends included
or not. -/
structure Interval where
  low : Nat
  value : Nat
  high : Nat
  denominator : Nat
  closed : Bool

/-- Whether the multiple of the power of ten lies in the interval. -/
def Interval.holds (interval : Interval) (digits : Nat) (exponent : Int) : Bool :=
  let (up, down) := powerParts 10 exponent
  let point := digits * up * interval.denominator
  if interval.closed then interval.low * down ≤ point && point ≤ interval.high * down
  else interval.low * down < point && point < interval.high * down

/-- The multiple of the power of ten in the interval that is nearest to its value: one of the
two neighbours of the value. -/
def Interval.onGrid? (interval : Interval) (tie : Tie) (exponent : Int) : Option Decimal :=
  let (up, down) := powerParts 10 exponent
  let below := interval.value * down / (interval.denominator * up)
  let double := 2 * (interval.value * down)
  let middle := (2 * below + 1) * (interval.denominator * up)
  let nearBelow := double < middle || (double == middle && tie == .even && below % 2 == 0)
  match interval.holds below exponent && below != 0, interval.holds (below + 1) exponent with
  | true, true => some ⟨if nearBelow then below else below + 1, exponent⟩
  | true, false => some ⟨below, exponent⟩
  | false, true => some ⟨below + 1, exponent⟩
  | false, false => none

/-- The first grid that meets the interval, from the given power of ten downwards. -/
def Interval.shortest (interval : Interval) (tie : Tie) : Nat → Int → Decimal
  | 0, exponent => ⟨0, exponent⟩
  | fuel + 1, exponent =>
    match interval.onGrid? tie exponent with
    | some found => found
    | none => shortest interval tie fuel (exponent - 1)

/-- The interval of numbers that round to `units` times two to the `scale`. -/
def Format.interval (format : Format) (units : Nat) (scale : Int) : Interval :=
  let (up, down) := powerParts 2 (scale - 2)
  let gap := if units == Nat.pow 2 (format.bits - 1) && format.least < scale then 1 else 2
  ⟨(4 * units - gap) * up, 4 * units * up, (4 * units + 2) * up, down, units % 2 == 0⟩

/-- Digits without zeros at their end. -/
def Decimal.trimmed : Nat → Decimal → Decimal
  | 0, held => held
  | fuel + 1, held =>
    if held.digits != 0 && held.digits % 10 == 0 then
      trimmed fuel ⟨held.digits / 10, held.exponent + 1⟩
    else held

/-- The decimal with the fewest digits that rounds to the number. -/
def Format.shortest (format : Format) (tie : Tie) (units : Nat) (scale : Int) : Decimal :=
  if units = 0 then ⟨0, 0⟩
  else
    let top : Int := (bitLength units : Int) + scale
    (format.interval units scale).shortest tie 400 (top * 30103 / 100000 + 2)
      |>.trimmed 400

/-- The decimal written with a point and no exponent; a whole number has no point. -/
def Decimal.positional (held : Decimal) : String :=
  let digits := digitsOf held.digits
  if held.exponent ≥ 0 then
    String.ofList (digits ++ List.replicate (if held.digits = 0 then 0 else held.exponent.toNat) '0')
  else
    let places := (-held.exponent).toNat
    let padded := List.replicate (places + 1 - digits.length) '0' ++ digits
    let cut := padded.length - places
    String.ofList (padded.take cut ++ '.' :: padded.drop cut)

/-- The number as text without an exponent, in the fewest digits; of two texts that are equally
near the greater one. -/
def Format.show (format : Format) : Binary → String
  | .undefined => "NaN"
  | .infinite negative => if negative then "-inf" else "inf"
  | .finite negative units scale =>
    (if negative then "-" else "") ++ (format.shortest .up units scale).positional

end Endpoint.Number
