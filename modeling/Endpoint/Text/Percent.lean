/-!
Percent-encoding of text. Unreserved characters stand for themselves; every other character is
written as the bytes of its UTF-8 form, each as `%` and two hexadecimal digits.
-/

namespace Endpoint.Text

/-- Letters and digits of ASCII and the characters `-`, `.`, `_`, `~`. -/
def isUnreserved (c : Char) : Bool :=
  c.isAlphanum || c == '-' || c == '.' || c == '_' || c == '~'

/-- The capital hexadecimal digit of a number below sixteen. -/
def hexCapital (n : Nat) : Char := Char.ofNat (if n < 10 then 48 + n else 55 + n)

/-- A byte as `%` and two digits. -/
def percentByte (byte : UInt8) : List Char :=
  ['%', hexCapital (byte.toNat / 16), hexCapital (byte.toNat % 16)]

/-- One character, escaped unless the test keeps it. -/
def percentChar (keeps : Char → Bool) (c : Char) : List Char :=
  if keeps c then [c] else (String.utf8EncodeChar c).flatMap percentByte

/-- The text with every character escaped that the test does not keep. -/
def percentEncodeUnless (keeps : Char → Bool) (text : String) : String :=
  String.ofList (text.toList.flatMap (percentChar keeps))

/-- The text with all but unreserved characters escaped. -/
def percentEncode (text : String) : String := percentEncodeUnless isUnreserved text

/-- The value of a hexadecimal digit, capital or small. -/
def hexValue? (c : Char) : Option Nat :=
  if c.isDigit then some (c.toNat - 48)
  else if 'A' ≤ c && c ≤ 'F' then some (c.toNat - 55)
  else if 'a' ≤ c && c ≤ 'f' then some (c.toNat - 87)
  else none

/-- The bytes that percent-encoded characters stand for. A `%` without two digits behind it
stands for itself. -/
def percentBytes : List Char → List UInt8
  | '%' :: a :: b :: rest =>
    match hexValue? a, hexValue? b with
    | some high, some low => UInt8.ofNat (16 * high + low) :: percentBytes rest
    | _, _ => String.utf8EncodeChar '%' ++ percentBytes (a :: b :: rest)
  | c :: rest => String.utf8EncodeChar c ++ percentBytes rest
  | [] => []

end Endpoint.Text
