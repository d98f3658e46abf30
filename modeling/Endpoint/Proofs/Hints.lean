import Endpoint.Hints
import Endpoint.Proofs.Table
import Endpoint.Proofs.Text.Ascii
import Mathlib.Data.List.Nodup
import Std.Data.String.ToNat

/-!
Hints stay apart: the two tables of a cache say the same, and no two owners share a hint even
where capitals and small letters are not told apart.
-/

namespace Endpoint.Hints

/-! ### Choices -/

/-- The end of a choice behind the dotted identity. -/
def choiceEnd (kind : Kind) : Nat → List Char
  | 0 => '.' :: kind.text.toList
  | index + 1 => '_' :: ((index + 2).repr.toList ++ '.' :: kind.text.toList)

theorem choice_eq (owner : HintOwner) (index : Nat) :
    choice owner index =
      String.ofList (owner.identity.dotted.toList ++ choiceEnd owner.kind index) := by
  apply String.toList_inj.mp
  cases index <;> simp [choice, choiceEnd, toString]

private theorem kindText_plain (kind : Kind) : kind.text.toList.all Text.isSmallPlain = true := by
  cases kind <;> decide

private theorem digit_plain {c : Char} (digit : c.isDigit = true) : Text.isSmallPlain c = true := by
  have ascii : c.toNat < 128 :=
    Nat.lt_of_le_of_lt (Char.isDigit_iff_toNat.mp digit).2 (by decide)
  exact Text.ascii_induction (P := fun c => c.isDigit = true → Text.isSmallPlain c = true)
    (by decide) ascii digit

theorem choiceEnd_plain (kind : Kind) (index : Nat) :
    (choiceEnd kind index).all Text.isSmallPlain = true := by
  cases index with
  | zero =>
    have mark : Text.isSmallPlain '.' = true := by decide
    simp only [choiceEnd, List.all_cons, mark, kindText_plain, Bool.and_self]
  | succ index =>
    have digits : (index + 2).repr.toList.all Text.isSmallPlain = true := by
      rw [List.all_eq_true]
      intro c member
      exact digit_plain (Nat.isDigit_of_mem_toDigits (b := 10) (by decide) (by decide)
        (by simpa [Nat.repr] using member))
    have marks : Text.isSmallPlain '_' = true ∧ Text.isSmallPlain '.' = true := by decide
    simp only [choiceEnd, List.all_cons, List.all_append, digits, kindText_plain, marks.1, marks.2,
      Bool.and_self]

theorem choiceEnd_injective {kind : Kind} {first second : Nat}
    (same : choiceEnd kind first = choiceEnd kind second) : first = second := by
  cases first with
  | zero =>
    cases second with
    | zero => rfl
    | succ second => simp [choiceEnd] at same
  | succ first =>
    cases second with
    | zero => simp [choiceEnd] at same
    | succ second =>
      simp only [choiceEnd, List.cons.injEq, List.append_cancel_right_eq, true_and] at same
      have numbers := Nat.repr_injective (String.toList_inj.mp same)
      omega

/-- Different choices of an owner differ even in small letters. -/
theorem choice_lowerCase_injective {owner : HintOwner} {first second : Nat}
    (same : Text.lowerCase (choice owner first) = Text.lowerCase (choice owner second)) :
    first = second := by
  rw [choice_eq, choice_eq] at same
  exact choiceEnd_injective (Text.tails_of_lowerCase _ (choiceEnd_plain ..) (choiceEnd_plain ..) same)

/-! ### The first free choice -/

/-- Reserving looks at choices in order: those before the one it ends at are taken, and that one
is free unless as many as allowed have been looked at. -/
theorem firstFree_spec (hints : Hints) (owner : HintOwner) (count index : Nat) :
    ∃ reached, index ≤ reached ∧ reached ≤ index + count ∧
      hints.firstFree owner count index = choice owner reached ∧
      (∀ earlier, index ≤ earlier → earlier < reached →
        hints.isTaken (choice owner earlier) = true) ∧
      (hints.isTaken (choice owner reached) = true → reached = index + count) := by
  induction count generalizing index with
  | zero => exact ⟨index, by omega, by omega, rfl, by omega, by omega⟩
  | succ count ih =>
    by_cases taken : hints.isTaken (choice owner index) = true
    · obtain ⟨reached, after, within, same, before, last⟩ := ih (index + 1)
      refine ⟨reached, by omega, by omega, by simpa [firstFree, taken] using same, ?_, ?_⟩
      · intro earlier low high
        by_cases here : earlier = index
        · exact here ▸ taken
        · exact before earlier (by omega) high
      · intro held
        have bound := last held
        omega
    · exact ⟨index, by omega, by omega, by simp [firstFree, taken], by omega,
        fun held => absurd held taken⟩

theorem isTaken_iff (hints : Hints) (hint : String) :
    hints.isTaken hint = true ↔ Text.lowerCase hint ∈ hints.byHint.map Prod.fst := by
  simp only [isTaken, List.find?_isSome, List.mem_map, beq_iff_eq]

/-- Of the choices of an owner, one more than there are hints cannot all be taken. -/
theorem firstFree_free (hints : Hints) (owner : HintOwner) :
    hints.isTaken (hints.firstFree owner hints.byHint.length 0) = false := by
  obtain ⟨reached, _, _, same, before, last⟩ := hints.firstFree_spec owner hints.byHint.length 0
  rw [same]
  apply Bool.eq_false_iff.mpr
  intro taken
  have bound : reached = hints.byHint.length := by simpa using last taken
  let tried := (List.range (reached + 1)).map fun index => Text.lowerCase (choice owner index)
  have distinct : tried.Nodup := by
    apply List.Nodup.map_on _ List.nodup_range
    intro first _ second _ equal
    exact choice_lowerCase_injective equal
  have held : tried ⊆ hints.byHint.map Prod.fst := by
    intro key member
    obtain ⟨index, within, equal⟩ := List.mem_map.mp member
    subst key
    apply (hints.isTaken_iff _).mp
    by_cases here : index = reached
    · exact here ▸ taken
    · have small := List.mem_range.mp within
      exact before index (by omega) (by omega)
  have length := distinct.length_le_of_subset held
  simp only [tried, List.length_map, List.length_range] at length
  omega

/-! ### Caches -/

/-- The caches that reserving builds, from the empty one on. -/
inductive Reachable : Hints → Prop
  | empty : Reachable .empty
  | reserve (earlier : Reachable hints) (owner : HintOwner) : Reachable (hints.reserve owner).2

/-- Each table of a cache says what the other says, no owner is entered twice, and no two hints
are equal in small letters. -/
structure Consistent (hints : Hints) : Prop where
  inverse : hints.byHint = hints.byOwner.map fun entry => (Text.lowerCase entry.2, entry.1)
  owners : (hints.byOwner.map Prod.fst).Nodup
  keys : (hints.byHint.map Prod.fst).Nodup

theorem Consistent.empty : Consistent .empty := ⟨rfl, List.nodup_nil, List.nodup_nil⟩

theorem get?_eq_none_iff (hints : Hints) (owner : HintOwner) :
    hints.get? owner = none ↔ owner ∉ hints.byOwner.map Prod.fst :=
  Table.get?_eq_none_iff hints.byOwner owner

theorem mem_of_get? {hints : Hints} {owner : HintOwner} (found : hints.get? owner = some hint) :
    (owner, hint) ∈ hints.byOwner :=
  Table.mem_of_get? found

theorem reserve_of_get? {hints : Hints} {owner : HintOwner} (found : hints.get? owner = some hint) :
    hints.reserve owner = (hint, hints) := by
  simp [reserve, found]

theorem reserve_of_get?_eq_none {hints : Hints} {owner : HintOwner}
    (missing : hints.get? owner = none) :
    hints.reserve owner =
      (hints.firstFree owner hints.byHint.length 0,
        ⟨hints.byOwner ++ [(owner, hints.firstFree owner hints.byHint.length 0)],
          hints.byHint ++
            [(Text.lowerCase (hints.firstFree owner hints.byHint.length 0), owner)]⟩) := by
  simp [reserve, missing]

theorem Consistent.reserve {hints : Hints} (valid : hints.Consistent) (owner : HintOwner) :
    (hints.reserve owner).2.Consistent := by
  cases found : hints.get? owner with
  | some hint => simpa [reserve_of_get? found] using valid
  | none =>
    have free := (hints.isTaken_iff _).not.mp
      (Bool.eq_false_iff.mp (hints.firstFree_free owner))
    have absent := (hints.get?_eq_none_iff owner).mp found
    rw [reserve_of_get?_eq_none found]
    refine ⟨by simp [valid.inverse], ?_, ?_⟩
    · rw [List.map_append, List.map_singleton, ← List.concat_eq_append]
      exact List.Nodup.concat absent valid.owners
    · rw [List.map_append, List.map_singleton, ← List.concat_eq_append]
      exact List.Nodup.concat free valid.keys

theorem Reachable.consistent {hints : Hints} (reachable : hints.Reachable) : hints.Consistent := by
  induction reachable with
  | empty => exact .empty
  | reserve _ owner ih => exact ih.reserve owner

/-- An owner has the hint that reserving hands out. -/
theorem get?_reserve (hints : Hints) (owner : HintOwner) :
    (hints.reserve owner).2.get? owner = some (hints.reserve owner).1 := by
  cases found : hints.get? owner with
  | some hint => simpa [reserve_of_get? found] using found
  | none =>
    have absent : hints.byOwner.find? (·.1 == owner) = none := Option.map_eq_none_iff.mp found
    rw [reserve_of_get?_eq_none found]
    simp [get?, List.find?_append, absent]

/-- A hint once reserved stays. -/
theorem get?_reserve_of_get? {hints : Hints} {other : HintOwner}
    (found : hints.get? other = some hint) (owner : HintOwner) :
    (hints.reserve owner).2.get? other = some hint := by
  cases own : hints.get? owner with
  | some _ => simpa [reserve_of_get? own] using found
  | none =>
    obtain ⟨entry, selected, same⟩ := Option.map_eq_some_iff.mp found
    rw [reserve_of_get?_eq_none own]
    simp [get?, List.find?_append, selected, same]

/-- Owners whose hints are equal in small letters are one. -/
theorem Consistent.owner_unique {hints : Hints} (valid : hints.Consistent)
    {first second : HintOwner} (one : hints.get? first = some hint)
    (two : hints.get? second = some other) (same : Text.lowerCase hint = Text.lowerCase other) :
    first = second := by
  have firstKey : (Text.lowerCase hint, first) ∈ hints.byHint := by
    rw [valid.inverse]
    exact List.mem_map.mpr ⟨_, mem_of_get? one, rfl⟩
  have secondKey : (Text.lowerCase hint, second) ∈ hints.byHint := by
    rw [valid.inverse, same]
    exact List.mem_map.mpr ⟨_, mem_of_get? two, rfl⟩
  have equal := List.inj_on_of_nodup_map valid.keys firstKey secondKey rfl
  exact congrArg Prod.snd equal

end Endpoint.Hints
