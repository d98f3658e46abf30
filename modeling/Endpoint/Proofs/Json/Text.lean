import Endpoint.Json.Reader

/-!
Text that is written between quotes in JSON is read as the text.
-/

namespace Endpoint.Json

namespace Reader

/-- The character in front of what is read behind it. -/
def prepend (c : Char) (read : Option (List Char × List Char)) :
    Option (List Char × List Char) :=
  read.map fun (more, rest) => (c :: more, rest)

/-- A character that stands for itself between quotes. -/
theorem chars?_plain {c : Char} (quote : c ≠ '"') (backslash : c ≠ '\\') (shown : 32 ≤ c.toNat)
    (outline : Outline) (fuel : Nat) (rest : List Char) :
    chars? outline (fuel + 1) (c :: rest) = prepend c (chars? outline fuel rest) := by
  rw [chars?, if_neg (by simpa using quote), if_neg (by simpa using backslash),
    if_neg (Nat.not_lt.mpr shown), prepend]
  cases chars? outline fuel rest <;> rfl

/-- An escape that is known. -/
theorem chars?_escaped {outline : Outline} (escape : List Char) {rest : List Char} {c : Char}
    (known : escaped? outline (escape ++ rest) = some (c, rest)) (fuel : Nat) :
    chars? outline (fuel + 1) ('\\' :: (escape ++ rest)) =
      prepend c (chars? outline fuel rest) := by
  rw [chars?, if_neg (by decide), if_pos (by decide), known, prepend]
  simp only [Option.bind_eq_bind, Option.bind_some]
  cases chars? outline fuel rest <;> rfl

/-- The four digits of a small number. -/
theorem unit?_digits {number : Nat} (small : number < 256) (rest : List Char) :
    unit? ('0' :: '0' :: Nat.digitChar (number / 16) :: Nat.digitChar (number % 16) :: rest) =
      some (number, rest) := by
  have value : ∀ digit < 16, Text.hexValue? (Nat.digitChar digit) = some digit := by decide
  have zero : Text.hexValue? '0' = some 0 := by decide
  have high := value (number / 16) (by omega)
  have low := value (number % 16) (by omega)
  simp only [unit?, zero, high, low, Option.bind_eq_bind, Option.bind_some, Option.pure_def,
    Option.some.injEq, Prod.mk.injEq, and_true]
  omega

/-- The escape of a control character by its number. -/
theorem escaped?_numbered {c : Char} (control : c.toNat < 32) (rest : List Char) :
    escaped? .whole ('u' :: '0' :: '0' :: Nat.digitChar (c.toNat / 16) ::
      Nat.digitChar (c.toNat % 16) :: rest) = some (c, rest) := by
  have digits := unit?_digits (by omega : c.toNat < 256) rest
  have low : ¬ (55296 ≤ c.toNat ∧ c.toNat < 56320) := by omega
  have high : ¬ (56320 ≤ c.toNat ∧ c.toNat < 57344) := by omega
  simp [escaped?, unicode?, digits, low, high]

/-- The escape of a character is read as the character. -/
theorem chars?_escape (c : Char) (fuel : Nat) (rest : List Char) :
    chars? .whole (fuel + 1) (escape c ++ rest) = prepend c (chars? .whole fuel rest) := by
  unfold escape
  by_cases quote : c = '"'
  · subst c
    exact chars?_escaped ['"'] rfl fuel
  by_cases backslash : c = '\\'
  · subst c
    exact chars?_escaped ['\\'] rfl fuel
  by_cases newLine : c = '\n'
  · subst c
    exact chars?_escaped ['n'] rfl fuel
  by_cases turn : c = '\r'
  · subst c
    exact chars?_escaped ['r'] rfl fuel
  by_cases tab : c = '\t'
  · subst c
    exact chars?_escaped ['t'] rfl fuel
  by_cases back : c.toNat = 8
  · obtain rfl : c = Char.ofNat 8 := Char.toNat_inj.mp back
    exact chars?_escaped ['b'] rfl fuel
  by_cases feed : c.toNat = 12
  · obtain rfl : c = Char.ofNat 12 := Char.toNat_inj.mp feed
    exact chars?_escaped ['f'] rfl fuel
  simp only [beq_iff_eq, quote, backslash, newLine, turn, tab, back, feed, if_false]
  split
  case isTrue control =>
    have numbered := escaped?_numbered control rest
    exact chars?_escaped ['u', '0', '0', _, _] numbered fuel
  case isFalse shown => exact chars?_plain quote backslash (Nat.le_of_not_lt shown) _ fuel rest

theorem chars?_flatMap_escape (cs : List Char) {fuel : Nat} (enough : cs.length < fuel)
    (rest : List Char) :
    chars? .whole fuel (cs.flatMap escape ++ '"' :: rest) = some (cs, rest) := by
  induction cs generalizing fuel with
  | nil =>
    obtain ⟨fuel, rfl⟩ := Nat.exists_eq_add_one_of_ne_zero (Nat.ne_of_gt enough)
    rfl
  | cons c cs ih =>
    obtain ⟨fuel, rfl⟩ := Nat.exists_eq_add_one_of_ne_zero (by omega : fuel ≠ 0)
    have behind := ih (by simpa using enough)
    rw [List.flatMap_cons, List.append_assoc, chars?_escape, behind, prepend, Option.map_some]

theorem length_le_flatMap_escape (cs : List Char) : cs.length ≤ (cs.flatMap escape).length := by
  induction cs with
  | nil => exact Nat.le_refl _
  | cons c cs ih =>
    have one : 0 < (escape c).length := by
      unfold escape
      repeat' split
      all_goals exact Nat.succ_pos _
    rw [List.flatMap_cons, List.length_append, List.length_cons]
    omega

/-- Text between quotes is read as the text. -/
theorem text?_flatMap_escape (text : String) (rest : List Char) :
    text? .whole (text.toList.flatMap escape ++ '"' :: rest) = some (text, rest) := by
  have least := length_le_flatMap_escape text.toList
  have enough : text.toList.length <
      (text.toList.flatMap escape ++ '"' :: rest).length + 1 := by
    rw [List.length_append]
    omega
  rw [text?, chars?_flatMap_escape _ enough]
  simp only [Option.bind_eq_bind, Option.bind_some, String.ofList_toList, Option.pure_def]

end Reader

theorem quoted_toList (text : String) :
    (quoted text).toList = '"' :: (text.toList.flatMap escape ++ ['"']) := by
  rw [quoted, String.toList_ofList]

end Endpoint.Json
