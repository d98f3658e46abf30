import Endpoint.Proofs.Text.Ascii
import Endpoint.Proofs.Text.Percent
import Endpoint.Query

/-!
Values are escaped alike wherever they stand in an address. Main statement: the escaped form of a
text is its bytes, each as the unreserved character that it is or as an escape, so the bytes are
read back from it, only unreserved text stays as it is, and pieces are escaped one by one.
-/

namespace Endpoint.Text

/-! ### Characters of escaped text -/

/-- The digits that escapes are written with. -/
def isCapitalHex (c : Char) : Bool := c.isDigit || ('A' ≤ c && c ≤ 'F')

/-- Text of unreserved characters and of escapes, each a percent sign and two capital digits. -/
inductive IsEscaped : List Char → Prop
  | nil : IsEscaped []
  | unreserved {c : Char} {rest : List Char} :
    isUnreserved c = true → IsEscaped rest → IsEscaped (c :: rest)
  | escape {high low : Char} {rest : List Char} :
    isCapitalHex high = true → isCapitalHex low = true → IsEscaped rest →
      IsEscaped ('%' :: high :: low :: rest)

private theorem hexCapital_isCapitalHex : ∀ n < 16, isCapitalHex (hexCapital n) = true := by decide

theorem IsEscaped.percentByte {rest : List Char} (escaped : IsEscaped rest) (byte : UInt8) :
    IsEscaped (percentByte byte ++ rest) := by
  have bound := byte.toNat_lt
  exact .escape (hexCapital_isCapitalHex _ (by omega)) (hexCapital_isCapitalHex _ (by omega)) escaped

/-! ### Bytes -/

/-- What stands for a byte: the unreserved character that it is, or its escape. -/
def byteForm (byte : UInt8) : List Char :=
  if isUnreserved (Char.ofNat byte.toNat) then [Char.ofNat byte.toNat] else percentByte byte

theorem IsEscaped.byteForm {rest : List Char} (escaped : IsEscaped rest) (byte : UInt8) :
    IsEscaped (byteForm byte ++ rest) := by
  unfold Text.byteForm
  split
  · rename_i unreserved
    exact .unreserved unreserved escaped
  · exact escaped.percentByte byte

theorem isEscaped_byteForms (bytes : List UInt8) : IsEscaped (bytes.flatMap byteForm) := by
  induction bytes with
  | nil => exact .nil
  | cons byte bytes ih => exact ih.byteForm byte

theorem utf8EncodeChar_ascii {c : Char} (ascii : c.toNat < 128) :
    String.utf8EncodeChar c = [UInt8.ofNat c.toNat] :=
  if_pos (Nat.le_of_lt_succ ascii)

/-- Beyond ASCII no byte of a character is one of ASCII. -/
theorem utf8EncodeChar_beyond {c : Char} (beyond : 128 ≤ c.toNat) :
    ∀ byte ∈ String.utf8EncodeChar c, 128 ≤ byte.toNat := by
  have large (offset part : Nat) (above : 128 ≤ offset) (below : part + offset < 256) :
      128 ≤ (UInt8.ofNat (part + offset)).toNat := by
    rw [UInt8.toNat_ofNat', Nat.mod_eq_of_lt below]
    omega
  change 128 ≤ c.val.toNat at beyond
  intro byte member
  rw [String.utf8EncodeChar, if_neg (by omega)] at member
  split at member
  · simp only [List.mem_cons, List.not_mem_nil, or_false] at member
    rcases member with rfl | rfl <;> exact large _ _ (by omega) (by omega)
  · split at member
    all_goals
      simp only [List.mem_cons, List.not_mem_nil, or_false] at member
      rcases member with rfl | rfl | rfl | rfl <;> exact large _ _ (by omega) (by omega)

theorem byteForm_beyond {byte : UInt8} (beyond : 128 ≤ byte.toNat) :
    byteForm byte = percentByte byte := by
  have bound := byte.toNat_lt
  have same : (Char.ofNat byte.toNat).toNat = byte.toNat := by
    rw [Char.ofNat, dif_pos (.inl (by omega))]
    rfl
  refine if_neg fun unreserved => ?_
  have ascii := isUnreserved_ascii unreserved
  omega

/-- A character is escaped byte by byte. -/
theorem percentChar_eq_byteForms (c : Char) :
    percentChar isUnreserved c = (String.utf8EncodeChar c).flatMap byteForm := by
  by_cases ascii : c.toNat < 128
  · have back : Char.ofNat (UInt8.ofNat c.toNat).toNat = c := by
      rw [UInt8.toNat_ofNat', Nat.mod_eq_of_lt (by omega), Char.ofNat_toNat]
    simp only [percentChar, utf8EncodeChar_ascii ascii, List.flatMap_singleton, byteForm, back]
  · have reserved : isUnreserved c = false :=
      Bool.eq_false_iff.mpr fun unreserved => ascii (isUnreserved_ascii unreserved)
    have beyond := utf8EncodeChar_beyond (Nat.le_of_not_lt ascii)
    rw [percentChar, reserved, if_neg Bool.false_ne_true]
    simp only [List.flatMap_def, List.map_congr_left fun byte member =>
      byteForm_beyond (beyond byte member)]

/-- A text is escaped byte by byte. -/
theorem percentEncode_toList (text : String) :
    (percentEncode text).toList = (textBytes text).flatMap byteForm := by
  rw [percentEncode, percentEncodeUnless, String.toList_ofList, textBytes, List.flatMap_assoc]
  exact congrArg (List.flatMap · text.toList) (funext percentChar_eq_byteForms)

theorem textBytes_toByteArray (text : String) : (textBytes text).toByteArray = text.toUTF8 := by
  conv => rhs; rw [← String.ofList_toList (s := text)]
  exact String.toByteArray_ofList.symm

/-! ### Text that stays as it is -/

theorem length_percentChar (keeps : Char → Bool) (c : Char) :
    1 ≤ (percentChar keeps c).length ∧
      ((percentChar keeps c).length = 1 → keeps c = true) := by
  cases kept : keeps c with
  | true => simp [percentChar, kept]
  | false =>
    obtain ⟨byte, bytes, some⟩ := List.exists_cons_of_ne_nil (String.utf8EncodeChar_ne_nil (c := c))
    simp [percentChar, kept, some, percentByte]

theorem length_le_percentChars (keeps : Char → Bool) (cs : List Char) :
    cs.length ≤ (cs.flatMap (percentChar keeps)).length := by
  induction cs with
  | nil => exact Nat.le_refl 0
  | cons c cs ih =>
    have first := (length_percentChar keeps c).1
    rw [List.flatMap_cons, List.length_append, List.length_cons]
    omega

/-- Only kept characters are written as one character each. -/
theorem kept_of_length_percentChars {keeps : Char → Bool} {cs : List Char}
    (same : (cs.flatMap (percentChar keeps)).length = cs.length) :
    ∀ c ∈ cs, keeps c = true := by
  induction cs with
  | nil => simp
  | cons c cs ih =>
    obtain ⟨some, one⟩ := length_percentChar keeps c
    have rest := length_le_percentChars keeps cs
    rw [List.flatMap_cons, List.length_append, List.length_cons] at same
    exact List.forall_mem_cons.mpr ⟨one (by omega), ih (by omega)⟩

/-- Exactly unreserved text stays as it is. -/
theorem percentEncode_eq_self_iff {text : String} :
    percentEncode text = text ↔ ∀ c ∈ text.toList, isUnreserved c = true := by
  refine ⟨fun same => kept_of_length_percentChars ?_, percentEncodeUnless_kept⟩
  have chars := congrArg String.toList same
  rw [percentEncode, percentEncodeUnless, String.toList_ofList] at chars
  rw [chars]

/-! ### Escaping -/

theorem percentEncode_append (first second : String) :
    percentEncode (first ++ second) = percentEncode first ++ percentEncode second := by
  simp [percentEncode, percentEncodeUnless]

theorem percentEncode_injective {first second : String}
    (same : percentEncode first = percentEncode second) : first = second := by
  have read := congrArg (fun text => percentDecode? text.toList) same
  simpa only [percentDecode?_percentEncode, Option.some.injEq] using read

/-- A text is escaped in a path as it is in a query, key or value: byte by byte, unreserved
characters as they are and all else by escapes. The bytes of the text are read back from it. -/
theorem percentEncode_exact (text : String) :
    (∀ (pairs : Query.Pairs) (other : String),
      pairs.push text (.text other) .always = pairs ++ [(percentEncode text, percentEncode other)] ∧
        pairs.push other (.text text) .always =
          pairs ++ [(percentEncode other, percentEncode text)]) ∧
      (percentEncode text).toList = (textBytes text).flatMap byteForm ∧
      IsEscaped (percentEncode text).toList ∧
      (percentBytes (percentEncode text).toList).toByteArray = text.toUTF8 ∧
      (∀ other, percentEncode other = percentEncode text → other = text) ∧
      (percentEncode text = text ↔ ∀ c ∈ text.toList, isUnreserved c = true) ∧
      ∀ other, percentEncode (text ++ other) = percentEncode text ++ percentEncode other := by
  refine ⟨fun pairs other => ⟨rfl, rfl⟩, percentEncode_toList text, ?_, ?_,
    fun other => percentEncode_injective, percentEncode_eq_self_iff, percentEncode_append text⟩
  · rw [percentEncode_toList]
    exact isEscaped_byteForms _
  · rw [percentEncode, percentBytes_percentEncodeUnless (by decide), textBytes_toByteArray]

end Endpoint.Text
