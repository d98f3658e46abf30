import Mathlib.Data.List.Forall2

/-!
Sorting does not depend on the order that a list had, and keeps lists with equal keys side by side.
-/

namespace Endpoint.Sorting

/-- Lists with the same members sort alike, if members that do not come before each other are
equal. -/
theorem mergeSort_eq_of_perm {le : α → α → Bool}
    (trans : ∀ a b c, le a b = true → le b c = true → le a c = true)
    (total : ∀ a b, (le a b || le b a) = true) {first second : List α}
    (same : first.Perm second)
    (apart : ∀ a ∈ first, ∀ b ∈ first, le a b = true → le b a = true → a = b) :
    first.mergeSort le = second.mergeSort le := by
  refine List.Perm.eq_of_pairwise ?_ (List.pairwise_mergeSort trans total first)
    (List.pairwise_mergeSort trans total second)
    ((List.mergeSort_perm ..).trans (same.trans (List.mergeSort_perm ..).symm))
  intro a b one two
  exact apart a (List.mem_mergeSort.mp one) b (same.mem_iff.mpr (List.mem_mergeSort.mp two))

/-- Sorting by a text brings the members in the order of their texts. -/
theorem pairwise_mergeSort_text (text : α → String) (list : List α) :
    (list.mergeSort fun a b => text a ≤ text b).Pairwise fun a b => text a ≤ text b := by
  refine (List.pairwise_mergeSort ?_ ?_ list).imp (by simp)
  · intro a b c first second
    simp only [decide_eq_true_eq] at first second ⊢
    exact String.le_trans first second
  · intro a b
    simp only [Bool.or_eq_true, decide_eq_true_eq]
    exact String.le_total ..

/-- Lists that are related member by member are so when sorted, if related members compare
alike. -/
theorem forall₂_mergeSort {R : α → β → Prop} {le : α → α → Bool} {other : β → β → Bool}
    (alike : ∀ a a' b b', R a a' → R b b' → le a b = other a' b') {first : List α}
    {second : List β} (related : List.Forall₂ R first second) :
    List.Forall₂ R (first.mergeSort le) (second.mergeSort other) := by
  obtain ⟨length, pairs⟩ := List.forall₂_iff_zip.mp related
  have left : (first.zip second).map Prod.fst = first := List.map_fst_zip (by omega)
  have right : (first.zip second).map Prod.snd = second := List.map_snd_zip (by omega)
  let sorted := (first.zip second).mergeSort fun a b => le a.1 b.1
  have lefts : sorted.map Prod.fst = first.mergeSort le := by
    rw [List.map_mergeSort (s := le) (fun _ _ _ _ => rfl), left]
  have rights : sorted.map Prod.snd = second.mergeSort other := by
    rw [List.map_mergeSort (s := other), right]
    intro a one b two
    exact alike _ _ _ _ (pairs one) (pairs two)
  rw [← lefts, ← rights, List.forall₂_map_left_iff, List.forall₂_map_right_iff,
    List.forall₂_same]
  intro pair member
  exact pairs (List.mem_mergeSort.mp member)

end Endpoint.Sorting
