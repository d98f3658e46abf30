import Endpoint.Proofs.Outcome
import Endpoint.Proofs.Text.Ascii
import Endpoint.Proofs.Text.Split
import Endpoint.Url.Host
import Mathlib.Algebra.Group.Nat.Defs

/-!
Addresses of version six: what is read has eight pieces of two bytes, and such an address is read
back from its text, whichever run of zeros is left out of it.
-/

namespace Endpoint.Url

/-! ### What is read -/

/-- The number that hexadecimal digits name behind the digits of another. -/
def hexNumber (sum : Nat) (digits : List Char) : Nat :=
  digits.foldl (fun sum c => 16 * sum + (Text.hexValue? c).getD 0) sum

theorem hexNumber_lt (digits : List Char) {sum bound : Nat} (small : sum < bound) :
    hexNumber sum digits < bound * 16 ^ digits.length := by
  induction digits generalizing sum bound with
  | nil => simpa [hexNumber] using small
  | cons c rest ih =>
    have digit : (Text.hexValue? c).getD 0 < 16 := by
      cases known : Text.hexValue? c with
      | none => decide
      | some value => exact Text.hexValue?_lt known
    have next : 16 * sum + (Text.hexValue? c).getD 0 < bound * 16 := by omega
    have behind := ih next
    rw [List.length_cons, Nat.pow_succ, Nat.mul_comm (16 ^ _) 16, ← Nat.mul_assoc]
    exact behind

theorem piece?_lt {part : List Char} {piece : Nat} (known : sixPieces?.piece? part = some piece) :
    piece < 65536 := by
  unfold sixPieces?.piece? at known
  split at known
  · rename_i fits
    simp only [Bool.and_eq_true, decide_eq_true_eq] at fits
    cases known
    have bound : hexNumber 0 part < 1 * 16 ^ part.length := hexNumber_lt part (by decide)
    have power : 16 ^ part.length ≤ 16 ^ 4 := Nat.pow_le_pow_right (by decide) fits.1.2
    rw [Nat.one_mul] at bound
    exact Nat.lt_of_lt_of_le bound power
  · cases known

theorem sixPieces?_lt {lastAllowed : Bool} {parts : List (List Char)} {pieces : List Nat}
    (known : sixPieces? lastAllowed parts = some pieces) : ∀ piece ∈ pieces, piece < 65536 := by
  induction parts generalizing pieces with
  | nil =>
    cases known
    simp
  | cons first rest ih =>
    cases rest with
    | nil =>
      rw [sixPieces?] at known
      split at known
      · simp only [Option.bind_eq_bind, Option.bind_eq_some_iff] at known
        obtain ⟨bytes, read, known⟩ := known
        split at known
        · rename_i a b c d
          cases known
          have byte : ∀ n ∈ [a, b, c, d], n ≤ 255 := by
            intro n member
            obtain ⟨part, _, gives⟩ := exists_of_mem_mapM read n member
            split at gives
            · rename_i fits
              simp only [Bool.and_eq_true, decide_eq_true_eq] at fits
              cases gives
              exact fits.2
            · cases gives
          simp only [List.mem_cons, List.not_mem_nil, or_false, forall_eq_or_imp,
            forall_eq] at byte ⊢
          omega
        · cases known
      · simp only [Option.bind_eq_bind, Option.bind_eq_some_iff, Option.pure_def,
          Option.some.injEq] at known
        obtain ⟨piece, here, rfl⟩ := known
        intro other member
        obtain rfl := List.mem_singleton.mp member
        exact piece?_lt here
    | cons second rest =>
      simp only [sixPieces?, Option.bind_eq_bind, Option.bind_eq_some_iff, Option.pure_def,
        Option.some.injEq] at known
      obtain ⟨piece, here, more, behind, rfl⟩ := known
      intro other member
      rcases List.mem_cons.mp member with rfl | later
      · exact piece?_lt here
      · exact ih behind other later

theorem sixSide?_lt {lastAllowed : Bool} {side : List Char} {pieces : List Nat}
    (known : sixSide? lastAllowed side = some pieces) : ∀ piece ∈ pieces, piece < 65536 := by
  unfold sixSide? at known
  split at known
  · cases known
    simp
  · exact sixPieces?_lt known

/-- An address has eight pieces of two bytes each. -/
theorem addressSix_pieces {text : List Char} {pieces : List Nat}
    (done : addressSix text = .ok pieces) :
    pieces.length = 8 ∧ ∀ piece ∈ pieces, piece < 65536 := by
  simp only [addressSix] at done
  split at done
  · rename_i found
    cases done
    split at found
    · rename_i before behind _
      simp only [Option.bind_eq_bind, Option.bind_eq_some_iff] at found
      obtain ⟨left, inLeft, right, inRight, found⟩ := found
      split at found
      · cases found
      · cases found
        refine ⟨by simp only [List.length_append, List.length_replicate]; omega, ?_⟩
        intro piece member
        simp only [List.mem_append, List.mem_replicate] at member
        rcases member with (inside | ⟨_, rfl⟩) | inside
        · exact sixSide?_lt inLeft piece inside
        · decide
        · exact sixSide?_lt inRight piece inside
    · simp only [Option.bind_eq_bind, Option.bind_eq_some_iff] at found
      obtain ⟨all, inside, found⟩ := found
      split at found
      · rename_i eight
        cases found
        exact ⟨eq_of_beq eight, sixPieces?_lt inside⟩
      · cases found
  · cases done

/-! ### Reading back -/

private theorem hexValue?_digitChar {digit : Nat} (small : digit < 16) :
    Text.hexValue? digit.digitChar = some digit := by
  have all : ∀ n < 16, Text.hexValue? n.digitChar = some n := by decide
  exact all digit small

/-- The digits of a number name it. -/
theorem hexNumber_toDigits (number : Nat) : hexNumber 0 (Nat.toDigits 16 number) = number := by
  induction number using Nat.strongRecOn with
  | ind number ih =>
    by_cases small : number < 16
    · rw [Nat.toDigits_of_lt_base small]
      simp [hexNumber, hexValue?_digitChar small]
    · have large : 16 ≤ number := Nat.le_of_not_lt small
      have front := ih (number / 16) (by omega)
      unfold hexNumber at front ⊢
      rw [Nat.toDigits_of_base_le (by decide) large, List.foldl_append, front]
      simp only [List.foldl_cons, List.foldl_nil,
        hexValue?_digitChar (Nat.mod_lt number (by decide : 0 < 16)), Option.getD_some]
      omega

/-- A hexadecimal digit of ASCII. -/
def IsHex (c : Char) : Prop := c.toNat < 128 ∧ (Text.hexValue? c).isSome = true

instance (c : Char) : Decidable (IsHex c) := inferInstanceAs (Decidable (_ ∧ _))

/-- The digits of a number have values, and none is a mark of an address. -/
theorem toDigits_hex (number : Nat) :
    ∀ c ∈ Nat.toDigits 16 number, IsHex c ∧ c ≠ ':' ∧ c ≠ '.' := by
  induction number using Nat.strongRecOn with
  | ind number ih =>
    have digit (n : Nat) (small : n < 16) :
        IsHex n.digitChar ∧ n.digitChar ≠ ':' ∧ n.digitChar ≠ '.' := by
      have all : ∀ n < 16, IsHex n.digitChar ∧ n.digitChar ≠ ':' ∧ n.digitChar ≠ '.' := by
        decide
      exact all n small
    intro c member
    by_cases small : number < 16
    · rw [Nat.toDigits_of_lt_base small] at member
      obtain rfl := List.mem_singleton.mp member
      exact digit number small
    · have large : 16 ≤ number := Nat.le_of_not_lt small
      rw [Nat.toDigits_of_base_le (by decide) large] at member
      rcases List.mem_append.mp member with front | last
      · exact ih (number / 16) (by omega) c front
      · obtain rfl := List.mem_singleton.mp last
        exact digit (number % 16) (Nat.mod_lt _ (by decide))

theorem piece?_toDigits {piece : Nat} (small : piece < 65536) :
    sixPieces?.piece? (Nat.toDigits 16 piece) = some piece := by
  have some : (Nat.toDigits 16 piece).isEmpty = false := by simp
  have short : (Nat.toDigits 16 piece).length ≤ 4 :=
    (Nat.length_toDigits_le_iff (by decide) (by decide)).mpr small
  have digits : ((Nat.toDigits 16 piece).all fun c => (Text.hexValue? c).isSome) = true :=
    List.all_eq_true.mpr fun c member => (toDigits_hex piece c member).1.2
  have number := hexNumber_toDigits piece
  unfold hexNumber at number
  simp [sixPieces?.piece?, some, short, digits, number]

/-- Pieces in hexadecimal digits are read back. -/
theorem sixPieces?_toDigits (lastAllowed : Bool) {pieces : List Nat}
    (small : ∀ piece ∈ pieces, piece < 65536) :
    sixPieces? lastAllowed (pieces.map (Nat.toDigits 16)) = some pieces := by
  induction pieces with
  | nil => rfl
  | cons piece rest ih =>
    simp only [List.mem_cons, forall_eq_or_imp] at small
    cases rest with
    | nil =>
      have noPoint : '.' ∉ Nat.toDigits 16 piece := fun member =>
        (toDigits_hex piece '.' member).2.2 rfl
      simp [sixPieces?, noPoint, piece?_toDigits small.1]
    | cons second rest =>
      have behind := ih small.2
      rw [List.map_cons] at behind
      simp [sixPieces?, piece?_toDigits small.1, behind]

theorem hexText_toList (pieces : List Nat) :
    (hexText pieces).toList = [':'].intercalate (pieces.map (Nat.toDigits 16)) := by
  simp [hexText, Function.comp_def]

theorem splitAt_hexText {pieces : List Nat} (some : pieces ≠ []) :
    Text.splitAt (· == ':') (hexText pieces).toList = pieces.map (Nat.toDigits 16) := by
  rw [hexText_toList]
  apply Text.splitAt_intercalate ':' (by simpa using some)
  intro part member colon
  obtain ⟨piece, _, rfl⟩ := List.mem_map.mp member
  exact (toDigits_hex piece ':' colon).2.1 rfl

/-! ### The double colon -/

theorem cutDoubleColon_cons {c : Char} (plain : c ≠ ':') (rest : List Char) :
    cutDoubleColon (c :: rest) =
      (cutDoubleColon rest).map fun (before, behind) => (c :: before, behind) := by
  rw [cutDoubleColon]
  intro _ same
  exact absurd same plain

theorem cutDoubleColon_piece {piece : List Char} (plain : ':' ∉ piece) (rest : List Char) :
    cutDoubleColon (piece ++ rest) =
      (cutDoubleColon rest).map fun (before, behind) => (piece ++ before, behind) := by
  induction piece with
  | nil => simp
  | cons c piece ih =>
    simp only [List.mem_cons, not_or] at plain
    rw [List.cons_append, cutDoubleColon_cons (Ne.symm plain.1), ih plain.2, Option.map_map]
    rfl

/-- A colon between two pieces is a single one. -/
theorem cutDoubleColon_colon {c : Char} (plain : c ≠ ':') (rest : List Char) :
    cutDoubleColon (':' :: c :: rest) =
      (cutDoubleColon (c :: rest)).map fun (before, behind) => (':' :: before, behind) := by
  rw [cutDoubleColon]
  intro _ _ same
  exact absurd (List.cons.inj same).1 plain

/-- Pieces between single colons are passed over. -/
theorem cutDoubleColon_intercalate {pieces : List (List Char)} (some : pieces ≠ [])
    (plain : ∀ piece ∈ pieces, piece ≠ [] ∧ ':' ∉ piece) (rest : List Char) :
    cutDoubleColon ([':'].intercalate pieces ++ rest) =
      (cutDoubleColon rest).map fun (before, behind) =>
        ([':'].intercalate pieces ++ before, behind) := by
  induction pieces with
  | nil => exact absurd rfl some
  | cons piece more ih =>
    simp only [List.mem_cons, forall_eq_or_imp] at plain
    cases more with
    | nil => simpa using cutDoubleColon_piece plain.1.2 rest
    | cons next more =>
      have nextPlain := plain.2 next (by simp)
      obtain ⟨c, tail, rfl⟩ := List.exists_cons_of_ne_nil nextPlain.1
      have noColon : c ≠ ':' := by
        rintro rfl
        exact nextPlain.2 (by simp)
      have behind := ih (by simp) plain.2
      obtain ⟨joined, split⟩ : ∃ joined, [':'].intercalate ((c :: tail) :: more) = c :: joined := by
        cases more with
        | nil => exact ⟨tail, by simp⟩
        | cons third more => exact ⟨_, by rw [List.intercalate_cons_cons]; rfl⟩
      rw [List.intercalate_cons_cons, List.append_assoc, List.append_assoc,
        cutDoubleColon_piece plain.1.2]
      rw [split] at behind ⊢
      rw [List.singleton_append, List.cons_append, cutDoubleColon_colon noColon,
        ← List.cons_append, behind, Option.map_map, Option.map_map]
      congr 1
      funext cut
      simp

theorem toDigits_plain (pieces : List Nat) :
    ∀ part ∈ pieces.map (Nat.toDigits 16), part ≠ [] ∧ ':' ∉ part := by
  intro part member
  obtain ⟨piece, _, rfl⟩ := List.mem_map.mp member
  exact ⟨Nat.toDigits_ne_nil, fun colon => (toDigits_hex piece ':' colon).2.1 rfl⟩

theorem cutDoubleColon_hexText {pieces : List Nat} (some : pieces ≠ []) :
    cutDoubleColon (hexText pieces).toList = none := by
  have parts := cutDoubleColon_intercalate (by simpa using some) (toDigits_plain pieces) []
  rw [hexText_toList, ← List.append_nil ([':'].intercalate _), parts]
  rfl

theorem cutDoubleColon_between (pieces : List Nat) (behind : List Char) :
    cutDoubleColon ((hexText pieces).toList ++ ':' :: ':' :: behind) =
      some ((hexText pieces).toList, behind) := by
  by_cases empty : pieces = []
  · subst empty
    simp [hexText, cutDoubleColon]
  · rw [hexText_toList, cutDoubleColon_intercalate (by simpa using empty) (toDigits_plain pieces)]
    simp [cutDoubleColon]

theorem sixSide?_hexText (lastAllowed : Bool) {pieces : List Nat}
    (small : ∀ piece ∈ pieces, piece < 65536) :
    sixSide? lastAllowed (hexText pieces).toList = some pieces := by
  by_cases empty : pieces = []
  · subst empty
    simp [hexText, sixSide?]
  · have split := splitAt_hexText empty
    have some : (hexText pieces).toList.isEmpty = false := by
      rw [List.isEmpty_eq_false_iff]
      intro none
      rw [none] at split
      obtain ⟨piece, rest, rfl⟩ := List.exists_cons_of_ne_nil empty
      rw [List.map_cons] at split
      exact Nat.toDigits_ne_nil (List.cons.inj split).1.symm
    rw [sixSide?, some, if_neg (by simp), split, sixPieces?_toDigits lastAllowed small]

/-! ### Runs of zeros -/

theorem take_zeroRun (pieces : List Nat) :
    pieces = List.replicate (zeroRun pieces) 0 ++ pieces.drop (zeroRun pieces) := by
  induction pieces with
  | nil => rfl
  | cons piece rest ih =>
    by_cases zero : piece = 0
    · subst zero
      have run : zeroRun (0 :: rest) = zeroRun rest + 1 := by simp [zeroRun]
      rw [run, List.replicate_succ, List.cons_append, List.drop_succ_cons, ← ih]
    · have run : zeroRun (piece :: rest) = 0 := by simp [zeroRun, zero]
      simp [run]

/-- The run of zeros that is left out is one of two zeros at least. -/
theorem longestZeros_some {pieces : List Nat} {place length : Nat}
    (found : longestZeros pieces = some (place, length)) :
    2 ≤ length ∧ place < pieces.length ∧ length = zeroRun (pieces.drop place) := by
  unfold longestZeros at found
  dsimp only at found
  split at found
  · cases found
  · rename_i long
    have longest := List.find?_some found
    obtain ⟨place', inside, same⟩ := List.mem_map.mp (List.mem_of_find?_eq_some found)
    cases same
    simp only [beq_iff_eq] at longest
    refine ⟨?_, List.mem_range.mp inside, rfl⟩
    omega

/-- An address is read back from its text. -/
theorem addressSix_text {pieces : List Nat} (eight : pieces.length = 8)
    (small : ∀ piece ∈ pieces, piece < 65536) :
    addressSix (addressSixText pieces).toList = .ok pieces := by
  have some : pieces ≠ [] := by
    rintro rfl
    cases eight
  unfold addressSixText
  split
  · rename_i place length found
    obtain ⟨long, before, run⟩ := longestZeros_some found
    have zeros := take_zeroRun (pieces.drop place)
    rw [← run, List.drop_drop] at zeros
    have whole : pieces =
        pieces.take place ++ List.replicate length 0 ++ pieces.drop (place + length) := by
      rw [List.append_assoc, ← zeros, List.take_append_drop]
    have counts := congrArg List.length whole
    simp only [List.length_append, List.length_replicate] at counts
    generalize pieces.take place = left at whole counts
    generalize pieces.drop (place + length) = right at whole counts
    have smallLeft : ∀ piece ∈ left, piece < 65536 := fun piece member =>
      small piece (by simp [whole, member])
    have smallRight : ∀ piece ∈ right, piece < 65536 := fun piece member =>
      small piece (by simp [whole, member])
    have text : (hexText left ++ "::" ++ hexText right).toList =
        (hexText left).toList ++ ':' :: ':' :: (hexText right).toList := by
      simp
    have room : ¬ left.length + right.length > 7 := by omega
    have rest : 8 - left.length - right.length = length := by omega
    simp only [addressSix, text, cutDoubleColon_between, sixSide?_hexText false smallLeft,
      sixSide?_hexText true smallRight, Option.bind_eq_bind, Option.bind_some, room, if_false,
      rest, ← whole]
  · have cut := cutDoubleColon_hexText some
    simp [addressSix, cut, splitAt_hexText some, sixPieces?_toDigits true small, eight]

/-- Text of an address is made of hexadecimal digits and colons. -/
theorem addressSixText_chars (pieces : List Nat) :
    ∀ c ∈ (addressSixText pieces).toList, IsHex c ∨ c = ':' := by
  have text (pieces : List Nat) : ∀ c ∈ (hexText pieces).toList, IsHex c ∨ c = ':' := by
    intro c member
    rw [hexText_toList] at member
    rcases Text.mem_intercalate member with colon | ⟨part, inParts, inside⟩
    · exact .inr (List.mem_singleton.mp colon)
    · obtain ⟨piece, _, rfl⟩ := List.mem_map.mp inParts
      exact .inl (toDigits_hex piece c inside).1
  intro c member
  unfold addressSixText at member
  split at member
  · rename_i place length _
    simp only [String.toList_append, List.mem_append] at member
    rcases member with (left | colons) | right
    · exact text _ c left
    · exact .inr (by simpa using colons)
    · exact text _ c right
  · exact text pieces c member

end Endpoint.Url
