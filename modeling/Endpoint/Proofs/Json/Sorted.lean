import Endpoint.Json.Entries

/-!
Sorting the entries of records by their keys changes no look-up, and no text that is looked up.
-/

namespace Endpoint.Json

/-- What a record with these entries holds under a key. -/
def lookup (entries : List (String × Json)) (key : String) : Option Json :=
  (Json.record entries).get? key

theorem lookup_cons (first : String × Json) (rest : List (String × Json)) (key : String) :
    lookup (first :: rest) key =
      (lookup rest key).or (if first.1 == key then some first.2 else none) := by
  simp only [lookup, get?, List.reverse_cons, List.find?_append, Option.map_or]
  by_cases same : first.1 == key <;> simp [same]

theorem lookup_isSome (entries : List (String × Json)) (key : String) :
    (lookup entries key).isSome = entries.any (·.1 == key) := by
  induction entries with
  | nil => rfl
  | cons first rest ih =>
    rw [lookup_cons, Option.isSome_or, ih, List.any_cons, Bool.or_comm]
    by_cases same : first.1 == key <;> simp [same]

/-- An entry under a new key is found, and the others are found as before. -/
theorem lookup_insertEntry {name : String} {entries : List (String × Json)}
    (fresh : entries.any (·.1 == name) = false) (value : Json) (key : String) :
    lookup (insertEntry name value entries) key =
      (lookup entries key).or (if name == key then some value else none) := by
  induction entries with
  | nil => rw [insertEntry, lookup_cons]
  | cons first rest ih =>
    obtain ⟨other, held⟩ := first
    rw [List.any_cons, Bool.or_eq_false_iff] at fresh
    have apart : (name == other) = false := by
      rw [beq_eq_false_iff_ne] at fresh ⊢
      exact Ne.symm fresh.1
    rw [insertEntry, apart]
    simp only [Bool.false_eq_true, if_false]
    split
    · rw [lookup_cons]
    · rw [lookup_cons, lookup_cons, ih fresh.2]
      by_cases here : other == key
      · have elsewhere : (name == key) = false := by
          rw [beq_iff_eq] at here
          rwa [← here]
        simp [elsewhere]
      · simp [here]

theorem lookup_sortedEntries (entries : List (String × Json)) (key : String) :
    lookup (sortedEntries entries) key = (lookup entries key).map sorted := by
  induction entries with
  | nil => rfl
  | cons first rest ih =>
    obtain ⟨name, value⟩ := first
    rw [sortedEntries, lookup_cons, Option.map_or, ← ih]
    split
    case isTrue later =>
      by_cases here : name == key
      · -- The entry does not count: a later one with the same key is found first.
        rw [beq_iff_eq.mp here, ← lookup_isSome, Option.isSome_iff_exists] at later
        obtain ⟨held, found⟩ := later
        rw [found, Option.some_or]
      · simp [here]
    case isFalse fresh =>
      rw [lookup_insertEntry (Bool.eq_false_iff.mpr fresh)]
      by_cases here : name == key <;> simp [here]

/-- What a value holds under a key is found in the sorted value too. -/
theorem get?_sorted (json : Json) (key : String) :
    json.sorted.get? key = (json.get? key).map sorted := by
  cases json with
  | record entries =>
    rw [sorted]
    exact lookup_sortedEntries entries key
  | list items => rw [sorted]; rfl
  | _ => rfl

/-! ### Texts -/

theorem entry_sorted (json : Json) (key : String) :
    json.sorted.entry key = (json.entry key).sorted := by
  rw [entry, entry, get?_sorted]
  cases json.get? key <;> rfl

theorem textAt?_sorted (json : Json) (key : String) :
    json.sorted.textAt? key = json.textAt? key := by
  rw [textAt?, textAt?, entry_sorted]
  cases json.entry key <;> rfl

theorem textAt_sorted (json : Json) (key : String) : json.sorted.textAt key = json.textAt key := by
  rw [textAt, textAt, textOr, textOr, textAt?_sorted]

theorem sortedList_eq_map (items : List Json) : sortedList items = items.map sorted := by
  induction items with
  | nil => rfl
  | cons item items ih => rw [sortedList, ih, List.map_cons]

theorem textsAt_sorted (json : Json) (key : String) :
    json.sorted.textsAt key = json.textsAt key := by
  rw [textsAt, textsAt, entry_sorted]
  cases json.entry key with
  | list held =>
    rw [sorted, textItems, textItems, items, items, sortedList_eq_map, List.filterMap_map]
    congr 1
    funext item
    cases item <;> rfl
  | _ => rfl

end Endpoint.Json
