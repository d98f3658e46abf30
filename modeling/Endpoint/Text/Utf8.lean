/-!
Text from bytes. Bytes that are no UTF-8 are replaced: each longest start of a character that
breaks off becomes one replacement character.
-/

namespace Endpoint.Text

/-- A byte between the given bounds, as a number. -/
def byteIn (low high : Nat) : List UInt8 → Option (Nat × List UInt8)
  | byte :: rest =>
    if low ≤ byte.toNat && byte.toNat ≤ high then some (byte.toNat - 0x80, rest) else none
  | [] => none

/-- The number of bytes behind a first byte, the bits that the first byte gives, and the bounds
of the second byte. -/
def leadByte? (n : Nat) : Option (Nat × Nat × Nat × Nat) :=
  if 0xc2 ≤ n && n ≤ 0xdf then some (1, n - 0xc0, 0x80, 0xbf)
  else if n == 0xe0 then some (2, 0, 0xa0, 0xbf)
  else if n == 0xed then some (2, 0xd, 0x80, 0x9f)
  else if 0xe1 ≤ n && n ≤ 0xef then some (2, n - 0xe0, 0x80, 0xbf)
  else if n == 0xf0 then some (3, 0, 0x90, 0xbf)
  else if 0xf1 ≤ n && n ≤ 0xf3 then some (3, n - 0xf0, 0x80, 0xbf)
  else if n == 0xf4 then some (3, 4, 0x80, 0x8f)
  else none

/-- Reads further bytes of a character: its number, or nothing if it breaks off, and the rest. -/
def moreBytes : Nat → Nat → Nat → Nat → List UInt8 → Option Nat × List UInt8
  | 0, value, _, _, rest => (some value, rest)
  | count + 1, value, low, high, rest =>
    match byteIn low high rest with
    | some (bits, rest) => moreBytes count (64 * value + bits) 0x80 0xbf rest
    | none => (none, rest)

/-- The first character, or nothing if the bytes break off, and the rest. -/
def nextChar (byte : UInt8) (rest : List UInt8) : Option Char × List UInt8 :=
  let n := byte.toNat
  if n < 0x80 then (some (Char.ofNat n), rest)
  else
    match leadByte? n with
    | some (count, bits, low, high) =>
      let (value, rest) := moreBytes count bits low high rest
      (value.map Char.ofNat, rest)
    | none => (none, rest)

theorem moreBytes_length (count value low high : Nat) (bytes : List UInt8) :
    (moreBytes count value low high bytes).2.length ≤ bytes.length := by
  induction count generalizing value low high bytes with
  | zero => simp [moreBytes]
  | succ count ih =>
    unfold moreBytes
    split
    · next bits rest found =>
      cases bytes with
      | nil => simp [byteIn] at found
      | cons byte tail =>
        have shorter := ih (64 * value + bits) 0x80 0xbf rest
        simp only [byteIn] at found
        split at found
        · simp only [Option.some.injEq, Prod.mk.injEq] at found
          obtain ⟨_, rfl⟩ := found
          simp only [List.length_cons]
          omega
        · simp at found
    · simp

theorem nextChar_length (byte : UInt8) (bytes : List UInt8) :
    (nextChar byte bytes).2.length ≤ bytes.length := by
  unfold nextChar
  dsimp only
  split
  · simp
  · split
    · exact moreBytes_length ..
    · simp

/-- The characters of the bytes, nothing standing for each start that breaks off. -/
def decodeChars : List UInt8 → List (Option Char)
  | [] => []
  | byte :: rest =>
    have := nextChar_length byte rest
    (nextChar byte rest).1 :: decodeChars (nextChar byte rest).2
termination_by bytes => bytes.length

/-- The text of the bytes with replacement characters where they are no UTF-8. -/
def lossyText (bytes : List UInt8) : String :=
  String.ofList ((decodeChars bytes).map (·.getD (Char.ofNat 0xfffd)))

/-- The text of the bytes, if they are UTF-8. -/
def strictText? (bytes : List UInt8) : Option String :=
  ((decodeChars bytes).mapM id).map String.ofList

/-- The bytes of a text. -/
def textBytes (text : String) : List UInt8 := text.toList.flatMap String.utf8EncodeChar

end Endpoint.Text
