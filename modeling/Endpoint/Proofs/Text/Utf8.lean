import Endpoint.Text.Utf8

/-!
The bytes of a text are read as the text.
-/

namespace Endpoint.Text

/-! ### Bytes -/

theorem byteOf_toNat {number : Nat} (small : number < 256) :
    (UInt8.ofNat number).toNat = number := by
  rw [UInt8.toNat_ofNat', Nat.mod_eq_of_lt small]

/-- A byte behind the first one gives its six lower bits. -/
theorem moreBytes_bounded {low high bits : Nat} (small : bits < 64) (above : low ≤ bits + 128)
    (below : bits + 128 ≤ high) (count value : Nat) (rest : List UInt8) :
    moreBytes (count + 1) value low high (UInt8.ofNat (bits + 128) :: rest) =
      moreBytes count (64 * value + bits) 0x80 0xbf rest := by
  have back : (UInt8.ofNat (bits + 128)).toNat = bits + 128 := byteOf_toNat (by omega)
  have inside : byteIn low high (UInt8.ofNat (bits + 128) :: rest) = some (bits, rest) := by
    rw [byteIn, back, decide_eq_true above, decide_eq_true below, Nat.add_sub_cancel]
    rfl
  rw [moreBytes, inside]

/-- A byte that the first one does not bound further. -/
theorem moreBytes_tail {bits : Nat} (small : bits < 64) (count value : Nat)
    (rest : List UInt8) :
    moreBytes (count + 1) value 0x80 0xbf (UInt8.ofNat (bits + 128) :: rest) =
      moreBytes count (64 * value + bits) 0x80 0xbf rest :=
  moreBytes_bounded small (by omega) (by omega) count value rest

theorem leadByte?_two : ∀ lead < 30, leadByte? (lead + 2 + 192) =
    some (1, lead + 2, 0x80, 0xbf) := by
  decide

theorem leadByte?_three : ∀ lead < 16, leadByte? (lead + 224) =
    some (2, lead, if lead = 0 then 0xa0 else 0x80, if lead = 13 then 0x9f else 0xbf) := by
  decide

theorem leadByte?_four : ∀ lead < 5, leadByte? (lead + 240) =
    some (3, lead, if lead = 0 then 0x90 else 0x80, if lead = 4 then 0x8f else 0xbf) := by
  decide

/-- A first byte beyond ASCII says what follows. -/
theorem decodeChars_lead {number count bits low high : Nat} (beyond : 0x80 ≤ number)
    (small : number < 256) (lead : leadByte? number = some (count, bits, low, high))
    (bytes : List UInt8) :
    decodeChars (UInt8.ofNat number :: bytes) =
      ((moreBytes count bits low high bytes).1).map Char.ofNat ::
        decodeChars (moreBytes count bits low high bytes).2 := by
  have next : nextChar (UInt8.ofNat number) bytes =
      (((moreBytes count bits low high bytes).1).map Char.ofNat,
        (moreBytes count bits low high bytes).2) := by
    rw [nextChar, byteOf_toNat small, if_neg (Nat.not_lt.mpr beyond), lead]
  rw [decodeChars, next]

/-! ### Characters -/

/-- The bytes of a character are read as the character. -/
theorem decodeChars_utf8EncodeChar (c : Char) (rest : List UInt8) :
    decodeChars (String.utf8EncodeChar c ++ rest) = some c :: decodeChars rest := by
  have self : Char.ofNat c.val.toNat = c := Char.ofNat_toNat c
  have valid : c.val.toNat < 0xd800 ∨ 0xdfff < c.val.toNat ∧ c.val.toNat < 0x110000 := c.valid
  rw [String.utf8EncodeChar]
  generalize c.val.toNat = number at self valid
  split
  case isTrue one =>
    have next : nextChar (UInt8.ofNat number) rest = (some c, rest) := by
      rw [nextChar, byteOf_toNat (by omega), if_pos (by omega), self]
    rw [List.singleton_append, decodeChars, next]
  split
  case isTrue two =>
    obtain ⟨lead, high⟩ : ∃ lead, number / 64 % 32 = lead + 2 :=
      ⟨number / 64 % 32 - 2, by omega⟩
    have whole : 64 * (lead + 2) + number % 64 = number := by omega
    rw [high, List.cons_append, List.singleton_append,
      decodeChars_lead (by omega) (by omega) (leadByte?_two lead (by omega)),
      moreBytes_tail (by omega), moreBytes, whole, Option.map_some, self]
  split
  case isTrue three =>
    have whole : 64 * (64 * (number / 4096 % 16) + number / 64 % 64) + number % 64 = number := by
      omega
    rw [List.cons_append, List.cons_append, List.singleton_append,
      decodeChars_lead (by omega) (by omega) (leadByte?_three _ (by omega)),
      moreBytes_bounded (by omega) (by split <;> omega) (by split <;> omega),
      moreBytes_tail (by omega), moreBytes, whole, Option.map_some, self]
  case isFalse four =>
    have whole : 64 * (64 * (64 * (number / 262144 % 8) + number / 4096 % 64) +
        number / 64 % 64) + number % 64 = number := by omega
    rw [List.cons_append, List.cons_append, List.cons_append, List.singleton_append,
      decodeChars_lead (by omega) (by omega) (leadByte?_four _ (by omega)),
      moreBytes_bounded (by omega) (by split <;> omega) (by split <;> omega),
      moreBytes_tail (by omega), moreBytes_tail (by omega), moreBytes, whole, Option.map_some,
      self]

/-! ### Texts -/

/-- The bytes of a text are read as its characters. -/
theorem decodeChars_encoded (cs : List Char) :
    decodeChars (cs.flatMap String.utf8EncodeChar) = cs.map some := by
  induction cs with
  | nil => rw [List.flatMap_nil, decodeChars, List.map_nil]
  | cons c cs ih => rw [List.flatMap_cons, decodeChars_utf8EncodeChar, ih, List.map_cons]

/-- The bytes of a text are read as the text. -/
theorem strictText?_encoded (cs : List Char) :
    strictText? (cs.flatMap String.utf8EncodeChar) = some (String.ofList cs) := by
  have gathered : (cs.map some).mapM id = some cs := by
    induction cs with
    | nil => rfl
    | cons c cs ih => simp [ih]
  rw [strictText?, decodeChars_encoded, gathered, Option.map_some]

theorem strictText?_textBytes (text : String) : strictText? (textBytes text) = some text := by
  rw [textBytes, strictText?_encoded, String.ofList_toList]

/-- Texts with the same bytes are the same. -/
theorem textBytes_inj {first second : String} (same : textBytes first = textBytes second) :
    first = second := by
  have read := congrArg strictText? same
  rw [strictText?_textBytes, strictText?_textBytes] at read
  exact Option.some.inj read

end Endpoint.Text
