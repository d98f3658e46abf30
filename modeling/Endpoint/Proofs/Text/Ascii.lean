import Endpoint.Text.LowerCase
import Endpoint.Text.Percent

/-!
Facts about the characters of ASCII, each tried on all of them. Lower-casing keeps lengths apart from
the letters around a character, and text without capitals stays as it is at the end of any other.
-/

namespace Endpoint.Text

/-- What holds of the first 128 characters holds of ASCII. -/
theorem ascii_induction {P : Char → Prop} (all : ∀ n < 128, P (Char.ofNat n)) {c : Char}
    (ascii : c.toNat < 128) : P c := by
  have here := all c.toNat ascii
  rwa [Char.ofNat_toNat] at here

theorem toLower_ascii {c : Char} (ascii : c.toNat < 128) : c.toLower.toNat < 128 :=
  ascii_induction (P := fun c => c.toLower.toNat < 128) (by decide) ascii

theorem toLower_toLower {c : Char} (ascii : c.toNat < 128) :
    c.toLower.toLower = c.toLower :=
  ascii_induction (P := fun c => c.toLower.toLower = c.toLower) (by decide) ascii

/-- Only ASCII is written as ASCII in small letters. -/
theorem ascii_of_toLower {c : Char} (ascii : c.toLower.toNat < 128) : c.toNat < 128 := by
  refine Nat.lt_of_not_le fun beyond => ?_
  have same : c.toLower = c := by
    refine dif_neg ?_
    rintro ⟨-, below⟩
    have small : c.toNat ≤ 90 := UInt32.le_iff_toNat_le.mp below
    omega
  rw [same] at ascii
  omega

/-- Characters by their small form, as tried on all of ASCII. -/
theorem toLower_eq_iff (d : Char) (P : Char → Prop) (ascii : d.toNat < 128)
    (inside : ∀ c, P c → c.toNat < 128)
    (all : ∀ n < 128, (Char.ofNat n).toLower = d ↔ P (Char.ofNat n)) (c : Char) :
    c.toLower = d ↔ P c := by
  have here (ascii : c.toNat < 128) : c.toLower = d ↔ P c :=
    ascii_induction (P := fun c => c.toLower = d ↔ P c) all ascii
  exact ⟨fun same => (here (ascii_of_toLower (same ▸ ascii))).mp same,
    fun holds => (here (inside c holds)).mpr holds⟩

theorem isAlphanum_ascii {c : Char} (letter : c.isAlphanum = true) : c.toNat < 128 := by
  rcases Bool.or_eq_true_iff.mp letter with alpha | digit
  · rcases Bool.or_eq_true_iff.mp alpha with capital | small
    · exact Nat.lt_of_le_of_lt (of_decide_eq_true capital).2 (by decide)
    · exact Nat.lt_of_le_of_lt (of_decide_eq_true (Bool.and_eq_true_iff.mp small).2) (by decide)
  · exact Nat.lt_of_le_of_lt (Char.isDigit_iff_toNat.mp digit).2 (by decide)

theorem isUnreserved_ascii {c : Char} (unreserved : isUnreserved c = true) : c.toNat < 128 := by
  simp only [isUnreserved, Bool.or_eq_true, beq_iff_eq] at unreserved
  rcases unreserved with (((letter | rfl) | rfl) | rfl) | rfl
  · exact isAlphanum_ascii letter
  all_goals decide

theorem hexValue?_ascii {c : Char} (digit : (hexValue? c).isSome = true) : c.toNat < 128 := by
  have bound {last : Char} (below : c ≤ last) (ascii : last.toNat < 128) : c.toNat < 128 :=
    Nat.lt_of_le_of_lt (UInt32.le_iff_toNat_le.mp below) ascii
  unfold hexValue? at digit
  split at digit
  · rename_i decimal
    exact isAlphanum_ascii (by simp [Char.isAlphanum, decimal])
  · split at digit
    · rename_i capital
      exact bound (of_decide_eq_true (Bool.and_eq_true_iff.mp capital).2) (by decide)
    · split at digit
      · rename_i small
        exact bound (of_decide_eq_true (Bool.and_eq_true_iff.mp small).2) (by decide)
      · cases digit

theorem hexValue?_lt {c : Char} {value : Nat} (known : hexValue? c = some value) : value < 16 := by
  have all : (hexValue? c).all (· < 16) = true :=
    ascii_induction (P := fun c => (hexValue? c).all (· < 16) = true) (by decide)
      (hexValue?_ascii (by rw [known]; rfl))
  simpa [known] using all

/-! ### Small letters -/

/-- A character that no rule of lower-casing changes, whatever stands around it. -/
def isSmallPlain (c : Char) : Bool := c.toNat < 128 && c.toLower == c

theorem lowerChar_smallPlain (plain : isSmallPlain c = true) : lowerChar c = [c] := by
  simp only [isSmallPlain, Bool.and_eq_true, decide_eq_true_eq, beq_iff_eq] at plain
  simp [lowerChar, plain.1, plain.2]

theorem lowerChars_smallPlain (before cs : List Char) (plain : cs.all isSmallPlain = true) :
    lowerChars before cs = cs := by
  induction cs generalizing before with
  | nil => rfl
  | cons c rest ih =>
    simp only [List.all_cons, Bool.and_eq_true] at plain
    have small : c.toNat < 128 := by
      have here := plain.1
      simp only [isSmallPlain, Bool.and_eq_true, decide_eq_true_eq] at here
      exact here.1
    have noSigma : ¬ c.toNat = 0x3a3 := by omega
    simp [lowerChars, noSigma, lowerChar_smallPlain plain.1, ih _ plain.2]

/-- The number of characters in the small form of a text, wherever the text stands. -/
def lowerLength (cs : List Char) : Nat := (cs.flatMap lowerChar).length

@[simp] theorem lowerLength_cons (c : Char) (rest : List Char) :
    lowerLength (c :: rest) = (lowerChar c).length + lowerLength rest := by
  simp [lowerLength]

@[simp] theorem lowerLength_append (front back : List Char) :
    lowerLength (front ++ back) = lowerLength front + lowerLength back := by
  simp [lowerLength]

private theorem lowerChar_sigma : (lowerChar (Char.ofNat 0x3a3)).length = 1 := by decide

private theorem eq_sigma {c : Char} (point : c.toNat = 0x3a3) : c = Char.ofNat 0x3a3 := by
  rw [← point, Char.ofNat_toNat]

theorem lowerChars_length (before cs : List Char) :
    (lowerChars before cs).length = lowerLength cs := by
  induction cs generalizing before with
  | nil => rfl
  | cons c rest ih =>
    simp only [lowerChars, List.length_append, ih, lowerLength_cons]
    congr 1
    by_cases sigma : c.toNat = 0x3a3
    · simp only [sigma, beq_self_eq_true, ↓reduceIte, List.length_singleton]
      rw [eq_sigma sigma, lowerChar_sigma]
    · simp [sigma]

/-- Behind any text, characters without capitals stay as they are. -/
theorem lowerChars_append_smallPlain (before cs tail : List Char)
    (plain : tail.all isSmallPlain = true) :
    ∃ front, lowerChars before (cs ++ tail) = front ++ tail ∧ front.length = lowerLength cs := by
  induction cs generalizing before with
  | nil => exact ⟨[], by simpa using lowerChars_smallPlain before tail plain, rfl⟩
  | cons c rest ih =>
    obtain ⟨front, same, _⟩ := ih (c :: before)
    have whole := lowerChars_length before (c :: rest ++ tail)
    simp only [List.cons_append, lowerChars, same] at whole ⊢
    refine ⟨_, (List.append_assoc ..).symm, ?_⟩
    have tailLength : lowerLength tail = tail.length := by
      rw [← lowerChars_length [] tail, lowerChars_smallPlain [] tail plain]
    simp only [List.length_append, lowerLength_cons, lowerLength_append] at whole ⊢
    omega

/-- Two texts that begin alike and end without capitals have different small forms if they end
differently. -/
theorem tails_of_lowerCase (start : String) {first second : List Char}
    (firstPlain : first.all isSmallPlain = true) (secondPlain : second.all isSmallPlain = true)
    (same : lowerCase (String.ofList (start.toList ++ first)) =
      lowerCase (String.ofList (start.toList ++ second))) : first = second := by
  simp only [lowerCase, String.toList_ofList, String.ofList_inj] at same
  obtain ⟨front, one, length⟩ := lowerChars_append_smallPlain [] start.toList first firstPlain
  obtain ⟨other, two, same'⟩ := lowerChars_append_smallPlain [] start.toList second secondPlain
  rw [one, two] at same
  exact (List.append_inj same (length.trans same'.symm)).2

end Endpoint.Text
