import Endpoint.Text.Quoted

/-!
Reading quoted text gives the text back.
-/

namespace Endpoint.Text

/-! ### Numbered characters -/

theorem bracedNumber_digit {digit : Nat} (small : digit < 16) (value : Nat) (rest : List Char) :
    bracedNumber value (digit.digitChar :: rest) = bracedNumber (value * 16 + digit) rest := by
  have plain : ∀ digit < 16, digit.digitChar.toNat ≠ 125 ∧ digit.digitChar ≠ '_' ∧
      hexDigit? digit.digitChar = some digit := by decide
  obtain ⟨open', joint, known⟩ := plain digit small
  simp [bracedNumber, open', joint, known]

/-- The digits of a number count as the number. -/
theorem bracedNumber_toDigits (number : Nat) (rest : List Char) :
    bracedNumber 0 (Nat.toDigits 16 number ++ rest) = bracedNumber number rest := by
  induction number using Nat.strongRecOn generalizing rest with
  | ind number ih =>
    by_cases small : number < 16
    · rw [Nat.toDigits_of_lt_base small, List.singleton_append, bracedNumber_digit small]
      simp
    · have large : 16 ≤ number := Nat.le_of_not_lt small
      rw [Nat.toDigits_of_base_le (by decide) large, List.append_assoc,
        ih (number / 16) (by omega), List.singleton_append,
        bracedNumber_digit (Nat.mod_lt _ (by decide)), Nat.div_add_mod']

theorem bracedNumber_end (value : Nat) {c : Char} (closing : c.toNat = 125) (rest : List Char) :
    bracedNumber value (c :: rest) = some (value, rest) := by
  simp [bracedNumber, closing]

/-! ### One character -/

/-- A character that stands for itself inside quotes. -/
theorem unescape_plain {c : Char} (quote : c ≠ '"') (backslash : c ≠ '\\') (turn : c ≠ '\r')
    (fuel : Nat) (rest : List Char) :
    unescape (fuel + 1) (c :: rest) = unescape.prepend c (unescape fuel rest) := by
  rw [unescape]
  all_goals simp_all

/-- The escape of a character is read as the character. -/
theorem unescape_escapeChar (c : Char) (fuel : Nat) (rest : List Char) :
    unescape (fuel + 1) ((escapeChar c).toList ++ rest) =
      unescape.prepend c (unescape fuel rest) := by
  unfold escapeChar
  by_cases quoteMark : c = '"'
  · subst c
    rfl
  by_cases backslash : c = '\\'
  · subst c
    rfl
  by_cases newLine : c = '\n'
  · subst c
    rfl
  by_cases turn : c = '\r'
  · subst c
    rfl
  by_cases tab : c = '\t'
  · subst c
    rfl
  simp only [beq_iff_eq, quoteMark, backslash, newLine, turn, tab, if_false]
  by_cases numbered : isNumbered c = true
  · have shown : ("\\u\x7b" ++ hexadecimal c.toNat ++ "\x7d").toList =
        '\\' :: 'u' :: Char.ofNat 123 :: (Nat.toDigits 16 c.toNat ++ [Char.ofNat 125]) := by
      simp [hexadecimal]
    have number : bracedNumber 0 (Nat.toDigits 16 c.toNat ++ Char.ofNat 125 :: rest) =
        some (c.toNat, rest) := by
      rw [bracedNumber_toDigits, bracedNumber_end _ (by decide)]
    simp only [numbered, if_true, shown, List.cons_append, List.append_assoc, List.nil_append]
    simp [unescape, number]
  · simp only [numbered, Bool.false_eq_true, if_false]
    simpa using unescape_plain quoteMark backslash turn fuel rest

/-! ### Texts -/

theorem unescape_escapeChars (cs : List Char) {fuel : Nat} (enough : cs.length < fuel)
    (rest : List Char) :
    unescape fuel ((escapeChars cs).toList ++ '"' :: rest) = some (cs, rest) := by
  induction cs generalizing fuel with
  | nil =>
    obtain ⟨fuel, rfl⟩ := Nat.exists_eq_add_one_of_ne_zero (Nat.ne_of_gt enough)
    rfl
  | cons c cs ih =>
    obtain ⟨fuel, rfl⟩ := Nat.exists_eq_add_one_of_ne_zero (by omega : fuel ≠ 0)
    have tail : unescape fuel ((escapeChars cs).toList ++ '"' :: rest) = some (cs, rest) :=
      ih (by simpa using enough)
    by_cases null : c.toNat = 0
    · obtain rfl : c = Char.ofNat 0 := Char.toNat_inj.mp null
      by_cases octal : startsOctal cs = true
      · simpa [escapeChars, octal, unescape, hexDigit?, unescape.prepend] using tail
      · simpa [escapeChars, octal, unescape, unescape.prepend] using tail
    · simp only [escapeChars, beq_iff_eq, null, if_false, String.toList_append, List.append_assoc,
        unescape_escapeChar, tail, unescape.prepend, Option.map_some]

theorem escapeChar_ne_nil (c : Char) : (escapeChar c).toList ≠ [] := by
  unfold escapeChar
  repeat' split
  all_goals simp

theorem length_le_escapeChars (cs : List Char) : cs.length ≤ (escapeChars cs).toList.length := by
  induction cs with
  | nil => exact Nat.zero_le _
  | cons c cs ih =>
    have one := List.length_pos_iff.mpr (escapeChar_ne_nil c)
    simp only [escapeChars, String.toList_append, List.length_append, List.length_cons]
    split
    · split <;> simp <;> omega
    · omega

/-- Quoted text is read as the text. -/
theorem unquote?_quote (text : String) : unquote? (quote text) = some text := by
  have shown : (quote text).toList = '"' :: ((escapeChars text.toList).toList ++ ['"']) := by
    simp [quote]
  have enough : text.toList.length < ((escapeChars text.toList).toList ++ ['"']).length + 1 := by
    have least := length_le_escapeChars text.toList
    simp only [List.length_append]
    omega
  simp only [unquote?, shown, unescape_escapeChars _ enough, Option.map_some, String.ofList_toList]

end Endpoint.Text
