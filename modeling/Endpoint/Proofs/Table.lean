import Endpoint.Alias
import Mathlib.Data.List.Nodup
import Mathlib.Data.List.Perm.Basic

/-!
Tables as lists of keys with values, where a look-up gives the value of the first entry of a key. A
table of aliases in which nothing stands twice leads from variants to aliases and back.
-/

namespace Endpoint.Table

variable {α β : Type}

section

variable [BEq α] [LawfulBEq α]

/-- Nothing is found for a key exactly if no entry has it. -/
theorem get?_eq_none_iff (table : List (α × β)) (key : α) :
    (table.find? (·.1 == key)).map (·.2) = none ↔ key ∉ table.map Prod.fst := by
  simp only [Option.map_eq_none_iff, List.find?_eq_none, beq_iff_eq, List.mem_map, not_exists,
    not_and]

/-- What is found is in the table. -/
theorem mem_of_get? {table : List (α × β)} {key : α} {value : β}
    (found : (table.find? (·.1 == key)).map (·.2) = some value) : (key, value) ∈ table := by
  obtain ⟨entry, selected, rfl⟩ := Option.map_eq_some_iff.mp found
  have same : entry.1 = key := by simpa using List.find?_some selected
  exact same ▸ List.mem_of_find?_eq_some selected

/-- What is in a table without repeated keys is found. -/
theorem get?_iff {table : List (α × β)} (distinct : (table.map Prod.fst).Nodup) (key : α)
    (value : β) : (table.find? (·.1 == key)).map (·.2) = some value ↔ (key, value) ∈ table := by
  constructor
  · exact mem_of_get?
  · intro member
    cases found : (table.find? (·.1 == key)).map (·.2) with
    | none => exact absurd (List.mem_map.mpr ⟨_, member, rfl⟩) ((get?_eq_none_iff ..).mp found)
    | some other =>
      have same := List.inj_on_of_nodup_map distinct (mem_of_get? found) member rfl
      exact congrArg some (congrArg Prod.snd same)

end

/-- Where no two members give something, it does not matter in what order they are asked. -/
theorem findSome?_eq_of_perm {f : α → Option β} {first second : List α} (same : first.Perm second)
    (apart : first.Pairwise fun a b => f a = none ∨ f b = none) :
    first.findSome? f = second.findSome? f := by
  induction same with
  | nil => rfl
  | cons a _ ih =>
    rw [List.findSome?_cons, List.findSome?_cons, ih (List.pairwise_cons.mp apart).2]
  | swap a b rest =>
    have one := (List.pairwise_cons.mp apart).1 a (by simp)
    rcases one with none | none <;> simp [List.findSome?_cons, none]
  | trans one _ first second =>
    have symmetric : ∀ {a b}, (f a = none ∨ f b = none) → (f b = none ∨ f a = none) := Or.symm
    exact (first apart).trans (second (one.pairwise apart symmetric))

end Endpoint.Table

namespace Endpoint.AliasTable

variable {α : Type} {table : AliasTable α}

/-- No variant and no alias stands in the table twice. -/
structure Distinct (table : AliasTable α) : Prop where
  variants : (table.map Prod.fst).Nodup
  aliases : (table.map Prod.snd).Nodup

theorem alias?_eq_some_iff [BEq α] [LawfulBEq α] (distinct : table.Distinct) (variant : α)
    (text : String) : table.alias? variant = some text ↔ (variant, text) ∈ table :=
  Table.get?_iff distinct.variants variant text

/-- Looking a variant up by its alias is looking up in the table turned around. -/
theorem ofAlias?_eq (table : AliasTable α) (text : String) :
    table.ofAlias? text = ((table.map Prod.swap).find? (·.1 == text)).map (·.2) := by
  rw [ofAlias?, List.find?_map, Option.map_map]
  rfl

theorem ofAlias?_eq_some_iff (distinct : table.Distinct) (text : String) (variant : α) :
    table.ofAlias? text = some variant ↔ (variant, text) ∈ table := by
  have keys : ((table.map Prod.swap).map Prod.fst).Nodup := by
    rw [List.map_map]
    exact distinct.aliases
  rw [ofAlias?_eq, Table.get?_iff keys, List.mem_map]
  constructor
  · rintro ⟨entry, member, swapped⟩
    obtain rfl : entry = (variant, text) := by rw [← Prod.swap_swap entry, swapped]; rfl
    exact member
  · exact fun member => ⟨_, member, rfl⟩

end Endpoint.AliasTable
