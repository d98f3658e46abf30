import Endpoint.Text.Split

/-!
Splitting at separators is the library's, and joining the pieces undoes it.
-/

namespace Endpoint.Text

theorem splitAt_eq_splitOnP (isSeparator : Char → Bool) (cs : List Char) :
    splitAt isSeparator cs = cs.splitOnP isSeparator := by
  induction cs with
  | nil => rfl
  | cons c rest ih =>
    rw [splitAt, List.splitOnP_cons_eq_if_modifyHead, ih]
    split
    · rfl
    · obtain ⟨first, more, split⟩ :=
        List.exists_cons_of_ne_nil (List.splitOnP_ne_nil isSeparator rest)
      rw [split, List.modifyHead_cons]

/-- Only the characters of the text matter to how it is split. -/
theorem splitAt_congr {isSeparator isOther : Char → Bool} {cs : List Char}
    (same : ∀ c ∈ cs, isSeparator c = isOther c) :
    splitAt isSeparator cs = splitAt isOther cs := by
  induction cs with
  | nil => rfl
  | cons c rest ih =>
    simp only [List.mem_cons, forall_eq_or_imp] at same
    rw [splitAt, splitAt, same.1, ih same.2]

theorem splitAt_ne_nil (isSeparator : Char → Bool) (cs : List Char) :
    splitAt isSeparator cs ≠ [] := by
  rw [splitAt_eq_splitOnP]
  exact List.splitOnP_ne_nil _ _

/-- Joined by the separator, the pieces are the text. -/
theorem intercalate_splitAt (separator : Char) (cs : List Char) :
    [separator].intercalate (splitAt (· == separator) cs) = cs := by
  rw [splitAt_eq_splitOnP]
  exact List.intercalate_splitOn separator

/-- Pieces without the separator that are joined by it come apart again. -/
theorem splitAt_intercalate (separator : Char) {pieces : List (List Char)} (some : pieces ≠ [])
    (plain : ∀ piece ∈ pieces, separator ∉ piece) :
    splitAt (· == separator) ([separator].intercalate pieces) = pieces := by
  rw [splitAt_eq_splitOnP]
  exact List.splitOn_intercalate separator plain some

/-- Text without the separator is one piece. -/
theorem splitAt_plain {separator : Char} {piece : List Char} (plain : separator ∉ piece) :
    splitAt (· == separator) piece = [piece] := by
  have pieces : ∀ other ∈ [piece], separator ∉ other := by simpa using plain
  have alone := splitAt_intercalate separator (List.cons_ne_nil piece []) pieces
  rwa [List.intercalate_singleton] at alone

/-- Text with the separator in one place is two pieces. -/
theorem splitAt_pair {separator : Char} {first second : List Char} (before : separator ∉ first)
    (behind : separator ∉ second) :
    splitAt (· == separator) (first ++ separator :: second) = [first, second] := by
  have pieces : ∀ piece ∈ [first, second], separator ∉ piece := by simpa using ⟨before, behind⟩
  have both := splitAt_intercalate separator (List.cons_ne_nil first [second]) pieces
  rwa [List.intercalate_cons_cons, List.intercalate_singleton, List.append_assoc,
    List.singleton_append] at both

/-- The pieces hold the characters that are no separators. -/
theorem mem_splitAt {isSeparator : Char → Bool} {cs piece : List Char}
    (member : piece ∈ splitAt isSeparator cs) :
    ∀ c ∈ piece, c ∈ cs ∧ isSeparator c = false := by
  induction cs generalizing piece with
  | nil =>
    intro c inside
    simp only [splitAt, List.mem_singleton] at member
    simp [member] at inside
  | cons d rest ih =>
    intro c inside
    unfold splitAt at member
    split at member
    · rcases List.mem_cons.mp member with rfl | behind
      · cases inside
      · obtain ⟨here, other⟩ := ih behind c inside
        exact ⟨List.mem_cons_of_mem _ here, other⟩
    · rename_i plain
      cases split : splitAt isSeparator rest with
      | nil => exact absurd split (splitAt_ne_nil _ _)
      | cons first more =>
        rw [split] at member ih
        rcases List.mem_cons.mp member with rfl | behind
        · rcases List.mem_cons.mp inside with rfl | later
          · exact ⟨by simp, by simpa using plain⟩
          · obtain ⟨here, other⟩ := ih (by simp) c later
            exact ⟨List.mem_cons_of_mem _ here, other⟩
        · obtain ⟨here, other⟩ := ih (List.mem_cons_of_mem _ behind) c inside
          exact ⟨List.mem_cons_of_mem _ here, other⟩

theorem mem_intercalate {separator : List Char} {pieces : List (List Char)} {c : Char}
    (member : c ∈ separator.intercalate pieces) :
    c ∈ separator ∨ ∃ piece ∈ pieces, c ∈ piece := by
  induction pieces with
  | nil => cases member
  | cons piece rest ih =>
    cases rest with
    | nil => exact .inr ⟨piece, by simp, by simpa using member⟩
    | cons next rest =>
      rw [List.intercalate_cons_cons, List.append_assoc] at member
      rcases List.mem_append.mp member with here | behind
      · exact .inr ⟨piece, by simp, here⟩
      · rcases List.mem_append.mp behind with between | later
        · exact .inl between
        · rcases ih later with between | ⟨origin, inside, here⟩
          · exact .inl between
          · exact .inr ⟨origin, List.mem_cons_of_mem _ inside, here⟩

end Endpoint.Text
