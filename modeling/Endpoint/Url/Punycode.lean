/-!
Labels of domain names in ASCII: the characters of ASCII come first, and digits behind a hyphen
tell where the others are inserted, lowest number first, each by the difference from the one
before it.
-/

namespace Endpoint.Url

namespace Punycode

/-- A digit: letters stand for the numbers up to 25, digits for those behind. -/
def digit (n : Nat) : Char := Char.ofNat (if n < 26 then 97 + n else 22 + n)

/-- The threshold of a digit: one, twenty-six, or the distance from the bias. -/
def threshold (position bias : Nat) : Nat :=
  if position ≤ bias then 1 else if position ≥ bias + 26 then 26 else position - bias

/-- The bias behind a difference: how often it can be divided. -/
def biasSteps : Nat → Nat → Nat → Nat
  | 0, bias, delta => bias + 36 * delta / (delta + 38)
  | fuel + 1, bias, delta =>
    if delta > 455 then biasSteps fuel (bias + 36) (delta / 35)
    else bias + 36 * delta / (delta + 38)

def adapt (delta count : Nat) (isFirst : Bool) : Nat :=
  let delta := if isFirst then delta / 700 else delta / 2
  biasSteps 64 0 (delta + delta / count)

theorem threshold_pos (position bias : Nat) : 1 ≤ threshold position bias := by
  unfold threshold
  split
  · omega
  · split <;> omega

theorem threshold_le (position bias : Nat) : threshold position bias ≤ 26 := by
  unfold threshold
  split
  · omega
  · split <;> omega

/-- The digits of a difference. -/
def digits (position bias value : Nat) : List Char :=
  let t := threshold position bias
  if value < t then [digit value]
  else
    digit (t + (value - t) % (36 - t)) :: digits (position + 36) bias ((value - t) / (36 - t))
termination_by value
decreasing_by
  have positive := threshold_pos position bias
  have less := Nat.div_le_self (value - threshold position bias)
    (36 - threshold position bias)
  omega

/-! ### Writing -/

/-- The state of encoding: difference, bias, number of characters written, output. -/
structure State where
  delta : Nat
  bias : Nat
  count : Nat
  out : List Char

/-- Passes over one character while all with the given number are written. -/
def step (basic wanted : Nat) (state : State) (point : Nat) : State :=
  if point < wanted then { state with delta := state.delta + 1 }
  else if point = wanted then
    { delta := 0
      bias := adapt state.delta (state.count + 1) (state.count == basic)
      count := state.count + 1
      out := state.out ++ digits 36 state.bias state.delta }
  else state

/-- Writes the characters above ASCII, lowest number first. -/
def rounds (points : List Nat) (basic : Nat) : Nat → Nat → State → State
  | 0, _, state => state
  | fuel + 1, reached, state =>
    match (points.filter (reached ≤ ·)).min? with
    | none => state
    | some wanted =>
      let state := { state with delta := state.delta + (wanted - reached) * (state.count + 1) }
      let state := points.foldl (step basic wanted) state
      rounds points basic fuel (wanted + 1) { state with delta := state.delta + 1 }

/-- The ASCII form of a label, without the mark in front. -/
def encode (label : List Char) : List Char :=
  let plain := label.filter (·.toNat < 128)
  let start : State := ⟨0, 72, plain.length, if plain.isEmpty then [] else plain ++ ['-']⟩
  (rounds (label.map Char.toNat) plain.length label.length 128 start).out

/-! ### Reading -/

/-- The value of a digit. -/
def digitValue? (c : Char) : Option Nat :=
  if c.isLower then some (c.toNat - 97) else if c.isDigit then some (c.toNat - 22) else none

/-- The highest difference that is read. -/
def highest : Nat := Nat.pow 2 32 - 1

/-- Reads the digits of a difference, each with a weight, adds them to a sum, and gives the text
behind them. -/
def readDigits? (bias : Nat) : Nat → Nat → Nat → List Char → Option (Nat × List Char)
  | _, _, _, [] => none
  | position, weight, sum, c :: rest => do
    let value ← digitValue? c
    let sum := sum + value * weight
    let t := threshold position bias
    if highest < sum then none
    else if value < t then some (sum, rest)
    else if highest < weight * (36 - t) then none
    else readDigits? bias (position + 36) (weight * (36 - t)) sum rest

/-- Inserts the characters that the digits tell, at most so many, behind a place of the label. -/
def insertAll? : Nat → Nat → Nat → Nat → List Char → List Char → Option (List Char)
  | _, _, _, _, label, [] => some label
  | 0, _, _, _, _, _ => none
  | fuel + 1, bias, point, start, label, digits => do
    let (reached, rest) ← readDigits? bias 36 1 start digits
    let count := label.length + 1
    let point := point + reached / count
    let index := reached % count
    if point.isValidChar then
      insertAll? fuel (adapt (reached - start) count (start == 0)) point (index + 1)
        (label.take index ++ Char.ofNat point :: label.drop index) rest
    else none

/-- The label of an ASCII form without its mark. The last hyphen ends the characters of ASCII. -/
def decode? (text : List Char) : Option (List Char) :=
  let behind := (text.reverse.takeWhile (· != '-')).reverse
  let plain := text.take (text.length - behind.length - 1)
  let digits := if plain.isEmpty then text else behind
  insertAll? digits.length 72 128 0 plain digits

end Punycode

end Endpoint.Url
