import Endpoint.Proofs.Outcome
import Endpoint.Proofs.Text.Split
import Endpoint.Url.Host
import Mathlib.Algebra.Group.Nat.Defs
import Mathlib.Data.List.Induction

/-!
Addresses of version four: what is read fits four bytes, and such an address is read back from
its decimal parts.
-/

namespace Endpoint.Url

/-! ### What is read -/

/-- The last number and those before it, each with the weight of its place. -/
def weighted (weight : Nat → Nat) (first : List Nat) (last : Nat) : Nat :=
  first.zipIdx.foldl (fun sum (number, index) => sum + number * weight index) last

theorem weighted_concat (weight : Nat → Nat) (first : List Nat) (number last : Nat) :
    weighted weight (first ++ [number]) last =
      weighted weight first last + number * weight first.length := by
  simp [weighted, List.zipIdx_append]

/-- Bytes in front leave the room of their places to the last number. -/
theorem weighted_le {first : List Nat} (small : ∀ number ∈ first, number < 256)
    (few : first.length ≤ 4) (last : Nat) :
    weighted (fun index => 256 ^ (3 - index)) first last + 256 ^ (4 - first.length) ≤
      last + 256 ^ 4 := by
  induction first using List.reverseRecOn with
  | nil => exact Nat.le_refl _
  | append_singleton first number ih =>
    rw [List.length_append, List.length_singleton] at few
    have before := ih (fun other member => small other (by simp [member])) (by omega)
    have byte : number + 1 ≤ 256 := small number (by simp)
    have place : 4 - first.length = (3 - first.length) + 1 := by omega
    have next : 4 - (first.length + 1) = 3 - first.length := by omega
    have room : (number + 1) * 256 ^ (3 - first.length) ≤ 256 ^ (4 - first.length) := by
      rw [place, Nat.pow_succ']
      exact Nat.mul_le_mul_right _ byte
    rw [Nat.succ_mul] at room
    rw [weighted_concat, List.length_append, List.length_singleton, next]
    omega

/-- The numbers of an address: up to three bytes, and a last one that fills what they leave. -/
theorem addressFour_ok_iff {domain : List Char} {address : Nat} :
    addressFour domain = .ok address ↔
      ∃ numbers last, (addressParts domain).mapM addressNumber? = some numbers ∧
        numbers.getLast? = some last ∧ numbers.length ≤ 4 ∧
        (∀ number ∈ numbers.dropLast, number < 256) ∧ last < 256 ^ (5 - numbers.length) ∧
        address = weighted (fun index => 256 ^ (3 - index)) numbers.dropLast last := by
  unfold addressFour
  cases found : (addressParts domain).mapM addressNumber? with
  | none => simp
  | some numbers =>
    cases isLast : numbers.getLast? with
    | none => simp [isLast]
    | some last =>
      simp only [isLast]
      split
      · rename_i wrong
        simp only [reduceCtorEq, false_iff, not_exists, not_and]
        rintro numbers' last' same isLast' few small least
        cases same
        rw [isLast] at isLast'
        cases isLast'
        simp only [Bool.or_eq_true, decide_eq_true_eq, List.any_eq_true] at wrong
        rcases wrong with (many | ⟨number, member, large⟩) | large
        · exact absurd few (Nat.not_le_of_lt many)
        · exact absurd (small number member) (by omega)
        · exact absurd least (Nat.not_lt_of_le large)
      · rename_i fits
        simp only [Bool.or_eq_true, decide_eq_true_eq, not_or, Nat.not_lt, ge_iff_le,
          Nat.not_le, List.any_eq_true, not_exists, not_and] at fits
        obtain ⟨⟨few, small⟩, least⟩ := fits
        constructor
        · intro same
          refine ⟨numbers, last, rfl, isLast, few, ?_, least, (Except.ok.inj same).symm⟩
          intro number member
          exact Nat.lt_succ_of_le (small number member)
        · rintro ⟨numbers', last', same, isLast', _, _, _, rfl⟩
          cases same
          rw [isLast] at isLast'
          cases isLast'
          rfl

/-- An address has four bytes. -/
theorem addressFour_lt {domain : List Char} {address : Nat}
    (done : addressFour domain = .ok address) : address < 256 ^ 4 := by
  obtain ⟨numbers, last, _, isLast, few, small, least, rfl⟩ := addressFour_ok_iff.mp done
  have some : 0 < numbers.length :=
    List.length_pos_iff.mpr fun none => by simp [none] at isLast
  have front : numbers.dropLast.length = numbers.length - 1 := List.length_dropLast
  have room : 4 - (numbers.length - 1) = 5 - numbers.length := by omega
  have bound := weighted_le small (by omega) last
  rw [front, room] at bound
  omega

/-! ### Reading back -/

private theorem addressNumber?_byte {byte : Nat} (small : byte < 256) :
    addressNumber? (Nat.toDigits 10 byte) = some byte := by
  have all : ∀ n < 256, addressNumber? (Nat.toDigits 10 n) = some n := by decide +kernel
  exact all byte small

/-- The four bytes of an address, highest first. -/
def addressBytes (address : Nat) : List Nat :=
  [address / 256 ^ 3 % 256, address / 256 ^ 2 % 256, address / 256 ^ 1 % 256,
    address / 256 ^ 0 % 256]

theorem addressFourText_toList (address : Nat) :
    (addressFourText address).toList =
      ['.'].intercalate ((addressBytes address).map (Nat.toDigits 10)) := by
  simp [addressFourText, addressBytes]

theorem digits_isDigit (byte : Nat) : ∀ c ∈ Nat.toDigits 10 byte, c.isDigit = true :=
  fun _ inside => Nat.isDigit_of_mem_toDigits (by decide) (by decide) inside

theorem addressParts_text (address : Nat) :
    addressParts (addressFourText address).toList =
      (addressBytes address).map (Nat.toDigits 10) := by
  have split : Text.splitAt (· == '.') (addressFourText address).toList =
      (addressBytes address).map (Nat.toDigits 10) := by
    rw [addressFourText_toList]
    apply Text.splitAt_intercalate '.' (by simp [addressBytes])
    intro part member dot
    obtain ⟨byte, _, rfl⟩ := List.mem_map.mp member
    exact absurd (digits_isDigit byte '.' dot) (by decide)
  simp [addressParts, split, addressBytes]

theorem endsInNumber_text (address : Nat) :
    endsInNumber (addressFourText address).toList = true := by
  have digits : (Nat.toDigits 10 (address / 256 ^ 0 % 256)).all Char.isDigit = true :=
    List.all_eq_true.mpr (digits_isDigit _)
  simp only [endsInNumber, addressParts_text, addressBytes, List.map_cons, List.map_nil,
    List.getLast?_cons_cons, List.getLast?_singleton, digits, Bool.and_true, Bool.or_eq_true]
  exact .inl (by simp)

/-- An address is read back from its text. -/
theorem addressFour_text {address : Nat} (fits : address < 256 ^ 4) :
    addressFour (addressFourText address).toList = .ok address := by
  have byte (n : Nat) : addressNumber? (Nat.toDigits 10 (n % 256)) = some (n % 256) :=
    addressNumber?_byte (Nat.mod_lt _ (by decide))
  apply addressFour_ok_iff.mpr
  refine ⟨addressBytes address, address / 256 ^ 0 % 256, ?_, rfl, Nat.le_refl 4, ?_, ?_, ?_⟩
  · simp [addressParts_text, addressBytes, byte]
  · intro number member
    simp only [addressBytes, List.dropLast_cons_cons, List.dropLast_singleton, List.mem_cons,
      List.not_mem_nil, or_false] at member
    rcases member with rfl | rfl | rfl <;> exact Nat.mod_lt _ (by decide)
  · exact Nat.mod_lt _ (by decide)
  · simp only [addressBytes, List.dropLast_cons_cons, List.dropLast_singleton]
    simp [weighted] at fits ⊢
    omega

/-- Text of an address is made of digits and points. -/
theorem addressFourText_chars (address : Nat) :
    ∀ c ∈ (addressFourText address).toList, c.isDigit = true ∨ c = '.' := by
  intro c member
  rw [addressFourText_toList] at member
  rcases Text.mem_intercalate member with dot | ⟨part, inParts, inside⟩
  · exact .inr (List.mem_singleton.mp dot)
  · obtain ⟨byte, _, rfl⟩ := List.mem_map.mp inParts
    exact .inl (digits_isDigit byte c inside)

end Endpoint.Url
