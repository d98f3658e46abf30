/-!
Whole numbers as source text writes them: digits to the base ten or to one that the text names,
with underscores among them, and a suffix behind them.
-/

namespace Endpoint.Source

/-- A whole number and the suffix that names its type, empty if it has none. -/
structure Numeral where
  value : Nat
  suffix : String

namespace Numeral

/-- The value of a digit to the base. -/
def digit? (base : Nat) (c : Char) : Option Nat :=
  if c.isDigit then some (c.toNat - 48)
  else if base ≤ 10 then none
  else if 97 ≤ c.toNat && c.toNat ≤ 102 then some (c.toNat - 87)
  else if 65 ≤ c.toNat && c.toNat ≤ 70 then some (c.toNat - 55)
  else none

/-- Whether an exponent stands behind an `e`: a sign, or a digit behind underscores. -/
def beginsExponent : List Char → Bool
  | '_' :: rest => beginsExponent rest
  | c :: _ => c == '-' || c == '+' || c.isDigit
  | [] => false

/-- Reads digits behind those that have been read. There is no whole number if a digit is too
great for the base, or if a fraction or exponent follows. -/
def digits (base : Nat) : Option Nat → List Char → Option Numeral
  | value, [] => value.map (⟨·, ""⟩)
  | value, c :: rest =>
    match digit? base c with
    | some digit => if base ≤ digit then none else digits base (some (value.getD 0 * base + digit)) rest
    | none =>
      if c == '_' then digits base value rest
      else if base == 10 && (c == '.' || ((c == 'e' || c == 'E') && beginsExponent rest)) then none
      else value.map (⟨·, String.ofList (c :: rest)⟩)

/-- The whole number that the text of a literal is, if it is one. -/
def read? (text : String) : Option Numeral :=
  match text.toList with
  | '0' :: 'x' :: rest => digits 16 none rest
  | '0' :: 'o' :: rest => digits 8 none rest
  | '0' :: 'b' :: rest => digits 2 none rest
  | c :: rest => if c.isDigit then digits 10 none (c :: rest) else none
  | [] => none

end Numeral

end Endpoint.Source
