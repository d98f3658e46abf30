import Endpoint.Proofs.Text.Utf8
import Endpoint.Text.Percent

/-!
Percent-encoded text: which characters it is made of, when it is the text itself, and that it is
decoded to the text, as text without percent signs is to itself.
-/

namespace Endpoint.Text

/-! ### Encoding -/

/-- A character of an escape: the percent sign or a capital hexadecimal digit. -/
def isEscape (c : Char) : Bool := c == '%' || c.isDigit || ('A' ≤ c && c ≤ 'F')

theorem isEscape_ascii {c : Char} (escape : isEscape c = true) : c.toNat < 128 := by
  simp only [isEscape, Char.isDigit, Bool.or_eq_true, beq_iff_eq, Bool.and_eq_true,
    decide_eq_true_eq, Char.le_def, ge_iff_le, UInt32.le_iff_toNat_le] at escape
  rcases escape with (rfl | digit) | letter
  · decide
  · exact Nat.lt_of_le_of_lt digit.2 (by decide)
  · exact Nat.lt_of_le_of_lt letter.2 (by decide)

private theorem hexCapital_isEscape {n : Nat} (small : n < 16) :
    isEscape (hexCapital n) = true := by
  have all : ∀ m < 16, isEscape (hexCapital m) = true := by decide
  exact all n small

theorem percentByte_isEscape (byte : UInt8) : ∀ c ∈ percentByte byte, isEscape c = true := by
  have high : byte.toNat / 16 < 16 := by
    have bound := byte.toNat_lt
    omega
  have low : byte.toNat % 16 < 16 := Nat.mod_lt _ (by decide)
  intro c member
  simp only [percentByte, List.mem_cons, List.not_mem_nil, or_false] at member
  rcases member with rfl | rfl | rfl
  · rfl
  · exact hexCapital_isEscape high
  · exact hexCapital_isEscape low

theorem percentChar_chars (keeps : Char → Bool) (c : Char) :
    ∀ d ∈ percentChar keeps c, keeps d = true ∧ d = c ∨ isEscape d = true := by
  intro d member
  unfold percentChar at member
  split at member
  · rename_i kept
    obtain rfl := List.mem_singleton.mp member
    exact .inl ⟨kept, rfl⟩
  · obtain ⟨byte, _, inside⟩ := List.mem_flatMap.mp member
    exact .inr (percentByte_isEscape byte d inside)

/-- Every character of encoded text is a kept one of the text or belongs to an escape. -/
theorem percentEncodeUnless_chars (keeps : Char → Bool) (text : String) :
    ∀ d ∈ (percentEncodeUnless keeps text).toList,
      keeps d = true ∧ d ∈ text.toList ∨ isEscape d = true := by
  intro d member
  rw [percentEncodeUnless, String.toList_ofList] at member
  obtain ⟨c, here, inside⟩ := List.mem_flatMap.mp member
  rcases percentChar_chars keeps c d inside with ⟨kept, rfl⟩ | escape
  · exact .inl ⟨kept, here⟩
  · exact .inr escape

/-- Text of kept characters stands for itself. -/
theorem percentEncodeUnless_kept {keeps : Char → Bool} {text : String}
    (kept : ∀ c ∈ text.toList, keeps c = true) : percentEncodeUnless keeps text = text := by
  have same : text.toList.flatMap (percentChar keeps) = text.toList := by
    generalize text.toList = cs at kept
    induction cs with
    | nil => rfl
    | cons c rest ih =>
      simp only [List.mem_cons, forall_eq_or_imp] at kept
      simp [percentChar, kept.1, ih kept.2]
  rw [percentEncodeUnless, same, String.ofList_toList]

theorem percentEncode_kept {text : String} (kept : text.toList.all isUnreserved = true) :
    percentEncode text = text :=
  percentEncodeUnless_kept (List.all_eq_true.mp kept)

theorem percentChar_escaped {keeps : Char → Bool} {c : Char} (escaped : keeps c = false) :
    ∃ more, percentChar keeps c = '%' :: more := by
  obtain ⟨byte, rest, bytes⟩ :=
    List.exists_cons_of_ne_nil (String.utf8EncodeChar_ne_nil (c := c))
  exact ⟨_, by rw [percentChar, escaped, bytes]; rfl⟩

/-- An encoded character begins with itself or with a percent sign. -/
theorem percentChar_start (keeps : Char → Bool) (c : Char) :
    ∃ first more, percentChar keeps c = first :: more ∧ (first = c ∨ first = '%') := by
  cases kept : keeps c with
  | true => exact ⟨c, [], by rw [percentChar, if_pos kept], .inl rfl⟩
  | false =>
    obtain ⟨more, escaped⟩ := percentChar_escaped kept
    exact ⟨'%', more, escaped, .inr rfl⟩

theorem percentEncodeUnless_empty {keeps : Char → Bool} {text : String}
    (empty : percentEncodeUnless keeps text = "") : text = "" := by
  have none : text.toList.flatMap (percentChar keeps) = [] := by
    simpa [percentEncodeUnless] using empty
  apply String.toList_eq_nil_iff.mp
  apply List.eq_nil_iff_forall_not_mem.mpr
  intro c member
  obtain ⟨first, more, encoded, _⟩ := percentChar_start keeps c
  rw [List.flatMap_eq_nil_iff.mp none c member] at encoded
  cases encoded

/-- A character that is neither unreserved nor in an escape is not in encoded text. -/
theorem not_mem_percentEncode {c : Char} (reserved : isUnreserved c = false)
    (other : isEscape c = false) (text : String) : c ∉ (percentEncode text).toList := by
  intro member
  rcases percentEncodeUnless_chars isUnreserved text c member with ⟨kept, -⟩ | escape
  · rw [reserved] at kept
    cases kept
  · rw [other] at escape
    cases escape

/-! ### Decoding -/

/-- The text that percent-encoded characters stand for, if their bytes are UTF-8. -/
def percentDecode? (cs : List Char) : Option String := strictText? (percentBytes cs)

theorem percentBytes_cons {c : Char} (plain : c ≠ '%') (rest : List Char) :
    percentBytes (c :: rest) = String.utf8EncodeChar c ++ percentBytes rest := by
  rw [percentBytes]
  intro a b more same
  exact absurd same plain

private theorem hexValue?_hexCapital : ∀ n < 16, hexValue? (hexCapital n) = some n := by decide

/-- A byte that is written as an escape is read as the byte. -/
theorem percentBytes_percentByte (byte : UInt8) (rest : List Char) :
    percentBytes (percentByte byte ++ rest) = byte :: percentBytes rest := by
  have bound := byte.toNat_lt
  have high := hexValue?_hexCapital (byte.toNat / 16) (by omega)
  have low := hexValue?_hexCapital (byte.toNat % 16) (by omega)
  simp only [percentByte, List.cons_append, List.nil_append, percentBytes, high, low,
    Nat.div_add_mod, UInt8.ofNat_toNat]

/-- An encoded character stands for its bytes. -/
theorem percentBytes_percentChar {keeps : Char → Bool} {c : Char}
    (percent : c = '%' → keeps '%' = false) (rest : List Char) :
    percentBytes (percentChar keeps c ++ rest) =
      String.utf8EncodeChar c ++ percentBytes rest := by
  unfold percentChar
  split
  case isTrue kept =>
    refine percentBytes_cons ?_ rest
    rintro rfl
    rw [percent rfl] at kept
    cases kept
  case isFalse =>
    generalize String.utf8EncodeChar c = bytes
    induction bytes with
    | nil => rfl
    | cons byte bytes ih =>
      rw [List.flatMap_cons, List.append_assoc, percentBytes_percentByte, ih, List.cons_append]

/-- Encoded text stands for the bytes of the text. -/
theorem percentBytes_percentEncodeUnless {keeps : Char → Bool} (percent : keeps '%' = false)
    (text : String) : percentBytes (percentEncodeUnless keeps text).toList = textBytes text := by
  rw [percentEncodeUnless, String.toList_ofList, textBytes]
  induction text.toList with
  | nil => rfl
  | cons c rest ih =>
    rw [List.flatMap_cons, percentBytes_percentChar fun _ => percent, ih, List.flatMap_cons]

/-- Encoded text is decoded to the text. -/
theorem percentDecode?_percentEncode (text : String) :
    percentDecode? (percentEncode text).toList = some text := by
  rw [percentDecode?, percentEncode, percentBytes_percentEncodeUnless (by decide),
    strictText?_textBytes]

/-- Text without percent signs stands for itself. -/
theorem strictText?_percentBytes {cs : List Char} (plain : '%' ∉ cs) :
    strictText? (percentBytes cs) = some (String.ofList cs) := by
  have bytes : percentBytes cs = cs.flatMap String.utf8EncodeChar := by
    induction cs with
    | nil => rfl
    | cons c rest ih =>
      rw [List.mem_cons, not_or] at plain
      rw [percentBytes_cons (Ne.symm plain.1), ih plain.2, List.flatMap_cons]
  rw [bytes, strictText?_encoded]

/-! ### Encoding that keeps escapes -/

/-- Whether text begins with two hexadecimal digits. -/
def startsHex : List Char → Bool
  | a :: b :: _ => (hexValue? a).isSome && (hexValue? b).isSome
  | _ => false

theorem startsHex_eq_false {a b : Char} {rest : List Char}
    (plain : ∀ high low, hexValue? a = some high → hexValue? b = some low → False) :
    startsHex (a :: b :: rest) = false := by
  rw [startsHex, Bool.and_eq_false_imp]
  intro first
  obtain ⟨high, first⟩ := Option.isSome_iff_exists.mp first
  refine Bool.eq_false_iff.mpr fun second => ?_
  obtain ⟨low, second⟩ := Option.isSome_iff_exists.mp second
  exact plain high low first second

/-- A percent sign without two digits behind it stands for itself. -/
theorem percentBytes_percent {cs : List Char} (plain : startsHex cs = false) :
    percentBytes ('%' :: cs) = String.utf8EncodeChar '%' ++ percentBytes cs := by
  match cs with
  | [] => rfl
  | [a] => simp [percentBytes]
  | a :: b :: rest =>
    rw [startsHex, Bool.and_eq_false_iff, Option.isSome_eq_false_iff, Option.isSome_eq_false_iff,
      Option.isNone_iff_eq_none, Option.isNone_iff_eq_none] at plain
    rw [percentBytes]
    rcases plain with high | low
    · rw [high]
    · rw [low]
      cases hexValue? a <;> rfl

section KeepsDigits

variable {keeps : Char → Bool} (digits : ∀ c, (hexValue? c).isSome = true → keeps c = true)

include digits

/-- Where hexadecimal digits are kept, encoding adds none in front. -/
theorem startsHex_encode (cs : List Char) :
    startsHex (cs.flatMap (percentChar keeps)) = startsHex cs := by
  have noDigit {c : Char} (escaped : keeps c = false) : (hexValue? c).isSome = false := by
    refine Bool.eq_false_iff.mpr fun digit => ?_
    rw [digits c digit] at escaped
    cases escaped
  have percent : (hexValue? '%').isSome = false := rfl
  have kept {c : Char} (kept : keeps c = true) : percentChar keeps c = [c] := by
    rw [percentChar, if_pos kept]
  match cs with
  | [] => rfl
  | [a] =>
    cases here : keeps a with
    | true => simp [kept here, startsHex]
    | false =>
      obtain ⟨more, escaped⟩ := percentChar_escaped here
      cases more <;> simp [escaped, startsHex, percent]
  | a :: b :: rest =>
    cases here : keeps a with
    | true =>
      cases there : keeps b with
      | true => simp [kept here, kept there, startsHex]
      | false =>
        obtain ⟨more, escaped⟩ := percentChar_escaped there
        simp [kept here, escaped, startsHex, percent, noDigit there]
    | false =>
      obtain ⟨more, escaped⟩ := percentChar_escaped here
      rw [List.flatMap_cons, escaped, List.cons_append]
      generalize more ++ _ = ds
      cases ds <;> simp [startsHex, percent, noDigit here]

/-- Where percent signs and digits are kept, encoding does not change what text stands for. -/
theorem percentBytes_encoded (percent : keeps '%' = true) (cs : List Char) :
    percentBytes (cs.flatMap (percentChar keeps)) = percentBytes cs := by
  have sign : percentChar keeps '%' = ['%'] := by rw [percentChar, if_pos percent]
  induction cs using percentBytes.induct with
  | case1 a b rest high low second first ih =>
    have kept {c : Char} {value : Nat} (known : hexValue? c = some value) :
        percentChar keeps c = [c] := by
      rw [percentChar, if_pos (digits c (by rw [known]; rfl))]
    simp only [List.flatMap_cons, sign, kept first, kept second, List.singleton_append]
    simp only [percentBytes, first, second, ih]
  | case2 a b rest plain ih =>
    have noDigits : startsHex (a :: b :: rest) = false := startsHex_eq_false plain
    rw [List.flatMap_cons, sign, List.singleton_append,
      percentBytes_percent (by rw [startsHex_encode digits, noDigits]), ih,
      percentBytes_percent noDigits]
  | case3 c rest plain ih =>
    rw [List.flatMap_cons]
    by_cases same : c = '%'
    · subst same
      have noDigits : startsHex rest = false := by
        match rest with
        | [] | [_] => rfl
        | a :: b :: more => exact absurd rfl (plain a b more rfl)
      rw [sign, List.singleton_append,
        percentBytes_percent (by rw [startsHex_encode digits, noDigits]), ih,
        percentBytes_percent noDigits]
    · rw [percentBytes_percentChar fun here => absurd here same, ih, percentBytes_cons same]
  | case4 => rfl

end KeepsDigits

end Endpoint.Text
