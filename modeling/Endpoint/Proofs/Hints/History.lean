import Endpoint.Proofs.Hints
import Endpoint.Proofs.Table
import Mathlib.Data.List.Dedup
import Mathlib.Data.List.Induction

/-!
Histories of a cache: whatever it has been asked, an owner keeps the hint that it got first, and
that hint was the most preferred one that no other owner had.
-/

namespace Endpoint.Hints

/-- What a cache may be asked. -/
inductive Call
  | reserve (owner : HintOwner)
  | get (owner : HintOwner)
deriving DecidableEq, Repr

/-- The owner that a call reserves a hint for. -/
def Call.reserved? : Call → Option HintOwner
  | .reserve owner => some owner
  | .get _ => none

/-- The answer to a call, and the cache after it. -/
def answer (hints : Hints) : Call → Option String × Hints
  | .reserve owner => (some (hints.reserve owner).1, (hints.reserve owner).2)
  | .get owner => (hints.get? owner, hints)

/-- The cache after the calls, from the empty one on. -/
def after (calls : List Call) : Hints :=
  calls.foldl (fun hints call => (hints.answer call).2) .empty

/-- The owner of the hint that is the key in small letters. -/
def owner? (hints : Hints) (key : String) : Option HintOwner :=
  (hints.byHint.find? (·.1 == key)).map (·.2)

/-- No owner has a hint that is the text but for capitals. -/
def IsFree (hints : Hints) (text : String) : Prop :=
  ∀ owner hint, hints.get? owner = some hint → Text.lowerCase hint ≠ Text.lowerCase text

/-- The search for a hint, from one choice on and without a bound: it ends where it comes to a free
choice. -/
inductive Search (hints : Hints) (owner : HintOwner) : Nat → String → Prop
  | found (free : hints.IsFree (choice owner index)) : Search hints owner index (choice owner index)
  | next (taken : ¬ hints.IsFree (choice owner index)) (rest : Search hints owner (index + 1) hint) :
      Search hints owner index hint

/-- The hint for a new owner: the plain one if it is free, else the one with the least number that
makes it free. The numbers begin at two, and no more than there are hints are tried in vain. -/
inductive Chosen (hints : Hints) (owner : HintOwner) : String → Prop
  | plain (free : hints.IsFree s!"{owner.identity.dotted}.{owner.kind.text}") :
      Chosen hints owner s!"{owner.identity.dotted}.{owner.kind.text}"
  | numbered (number : Nat)
      (taken : ¬ hints.IsFree s!"{owner.identity.dotted}.{owner.kind.text}")
      (start : 2 ≤ number) (bound : number ≤ hints.count + 1)
      (free : hints.IsFree s!"{owner.identity.dotted}_{number}.{owner.kind.text}")
      (least : ∀ smaller, 2 ≤ smaller → smaller < number →
        ¬ hints.IsFree s!"{owner.identity.dotted}_{smaller}.{owner.kind.text}") :
      Chosen hints owner s!"{owner.identity.dotted}_{number}.{owner.kind.text}"

/-! ### Look-ups -/

theorem Consistent.get?_iff {hints : Hints} (valid : hints.Consistent) (owner : HintOwner)
    (hint : String) : hints.get? owner = some hint ↔ (owner, hint) ∈ hints.byOwner :=
  Table.get?_iff valid.owners owner hint

/-- The table of hints leads back to the owners that they belong to, and to no others. -/
theorem Consistent.owner?_iff {hints : Hints} (valid : hints.Consistent) (owner : HintOwner)
    (key : String) :
    hints.owner? key = some owner ↔
      ∃ hint, hints.get? owner = some hint ∧ Text.lowerCase hint = key := by
  rw [owner?, Table.get?_iff valid.keys, valid.inverse, List.mem_map]
  simp only [valid.get?_iff]
  constructor
  · rintro ⟨entry, member, same⟩
    cases same
    exact ⟨entry.2, member, rfl⟩
  · rintro ⟨hint, member, rfl⟩
    exact ⟨_, member, rfl⟩

theorem Consistent.isTaken_eq_false_iff {hints : Hints} (valid : hints.Consistent) (text : String) :
    hints.isTaken text = false ↔ hints.IsFree text := by
  rw [← Bool.not_eq_true, isTaken_iff, valid.inverse]
  simp only [List.map_map, List.mem_map, Function.comp_apply, not_exists, not_and, Prod.forall,
    IsFree, valid.get?_iff]

/-! ### New hints -/

/-- A search that passes over taken choices ends where it began to look. -/
theorem Search.of_taken {hints : Hints} {owner : HintOwner} {index reached : Nat}
    (ahead : index ≤ reached) (free : hints.IsFree (choice owner reached))
    (taken : ∀ earlier, index ≤ earlier → earlier < reached → ¬ hints.IsFree (choice owner earlier)) :
    Search hints owner index (choice owner reached) := by
  obtain ⟨count, rfl⟩ := Nat.exists_eq_add_of_le ahead
  induction count generalizing index with
  | zero => exact .found free
  | succ count ih =>
    have here := taken index (Nat.le_refl _) (by omega)
    rw [show index + (count + 1) = index + 1 + count by omega] at free taken ⊢
    exact .next here (ih (by omega) free fun earlier low high => taken earlier (by omega) high)

/-- Reserving ends, for a new owner, at the first of its choices that is free. -/
theorem Consistent.reserve_first {hints : Hints} (valid : hints.Consistent) {owner : HintOwner}
    (missing : hints.get? owner = none) :
    ∃ reached, reached ≤ hints.count ∧ (hints.reserve owner).1 = choice owner reached ∧
      hints.IsFree (choice owner reached) ∧
      ∀ earlier, earlier < reached → ¬ hints.IsFree (choice owner earlier) := by
  have size : hints.byHint.length = hints.count := by simp [valid.inverse, count]
  obtain ⟨reached, _, within, same, before, _⟩ :=
    hints.firstFree_spec owner hints.byHint.length 0
  have free := hints.firstFree_free owner
  rw [same] at free
  refine ⟨reached, by omega, by rw [reserve_of_get?_eq_none missing]; exact same,
    (valid.isTaken_eq_false_iff _).mp free, ?_⟩
  intro earlier small open'
  have taken := before earlier (by omega) small
  rw [(valid.isTaken_eq_false_iff _).mpr open'] at taken
  exact absurd taken Bool.false_ne_true

theorem Consistent.reserve_search {hints : Hints} (valid : hints.Consistent) {owner : HintOwner}
    (missing : hints.get? owner = none) : Search hints owner 0 (hints.reserve owner).1 := by
  obtain ⟨reached, _, same, free, before⟩ := valid.reserve_first missing
  rw [same]
  exact .of_taken (Nat.zero_le _) free fun earlier _ => before earlier

theorem Consistent.reserve_chosen {hints : Hints} (valid : hints.Consistent) {owner : HintOwner}
    (missing : hints.get? owner = none) : Chosen hints owner (hints.reserve owner).1 := by
  obtain ⟨reached, within, same, free, before⟩ := valid.reserve_first missing
  rw [same]
  cases reached with
  | zero => exact .plain free
  | succ index =>
    refine .numbered (index + 2) (before 0 (by omega)) (by omega) (by omega) free ?_
    intro smaller low high
    obtain ⟨earlier, rfl⟩ := Nat.exists_eq_add_of_le' low
    exact before (earlier + 1) (by omega)

/-! ### What calls leave behind -/

theorem after_concat (calls : List Call) (call : Call) :
    after (calls ++ [call]) = ((after calls).answer call).2 := by
  simp [after]

theorem after_reachable (calls : List Call) : (after calls).Reachable := by
  induction calls using List.reverseRecOn with
  | nil => exact .empty
  | append_singleton calls call ih =>
    rw [after_concat]
    cases call with
    | reserve owner => exact ih.reserve owner
    | get owner => exact ih

/-- A hint stays through all later calls. -/
theorem get?_after_of_get? {calls : List Call} {owner : HintOwner} {hint : String}
    (found : (after calls).get? owner = some hint) (behind : List Call) :
    (after (calls ++ behind)).get? owner = some hint := by
  induction behind using List.reverseRecOn with
  | nil => simpa using found
  | append_singleton behind call ih =>
    rw [← List.append_assoc, after_concat]
    cases call with
    | reserve other => exact get?_reserve_of_get? ih other
    | get _ => exact ih

/-- The owners in a cache are those that a hint was reserved for. -/
theorem mem_owners_after (calls : List Call) (owner : HintOwner) :
    owner ∈ (after calls).byOwner.map Prod.fst ↔ .reserve owner ∈ calls := by
  induction calls using List.reverseRecOn with
  | nil => simp [after, Hints.empty]
  | append_singleton calls call ih =>
    rw [after_concat, List.mem_append, List.mem_singleton]
    cases call with
    | get other => simpa [answer] using ih
    | reserve other =>
      cases known : (after calls).get? other with
      | some hint =>
        have old : owner = other → .reserve owner ∈ calls := by
          rintro rfl
          exact ih.mp (List.mem_map.mpr ⟨_, mem_of_get? known, rfl⟩)
        simp only [answer, reserve_of_get? known, ih, Call.reserve.injEq]
        exact ⟨.inl, fun held => held.elim id old⟩
      | none =>
        simp only [answer, reserve_of_get?_eq_none known, List.map_append, List.mem_append, ih,
          List.map_singleton, List.mem_singleton, Call.reserve.injEq]

theorem get?_after_eq_none_iff (calls : List Call) (owner : HintOwner) :
    (after calls).get? owner = none ↔ .reserve owner ∉ calls := by
  rw [get?_eq_none_iff, mem_owners_after]

/-- An owner has the hint that any call to reserve one for it was answered with. -/
theorem get?_after_reserve (before : List Call) (owner : HintOwner) (behind : List Call) :
    (after (before ++ .reserve owner :: behind)).get? owner =
      some ((after before).reserve owner).1 := by
  have here : (after (before ++ [.reserve owner])).get? owner =
      some ((after before).reserve owner).1 := by
    rw [after_concat]
    exact get?_reserve ..
  simpa using get?_after_of_get? here behind

/-- An owner has a hint exactly if a call to reserve one for it was answered with it. -/
theorem get?_after_iff (calls : List Call) (owner : HintOwner) (hint : String) :
    (after calls).get? owner = some hint ↔
      ∃ before behind, calls = before ++ .reserve owner :: behind ∧
        ((after before).reserve owner).1 = hint := by
  constructor
  · intro found
    have member : .reserve owner ∈ calls := by
      by_contra missing
      simp [(get?_after_eq_none_iff ..).mpr missing] at found
    obtain ⟨before, behind, rfl⟩ := List.append_of_mem member
    rw [get?_after_reserve] at found
    exact ⟨before, behind, rfl, Option.some.inj found⟩
  · rintro ⟨before, behind, rfl, rfl⟩
    exact get?_after_reserve ..

/-- A cache has as many entries as there are owners that a hint was reserved for. -/
theorem count_after (calls : List Call) :
    (after calls).count = (calls.filterMap Call.reserved?).dedup.length := by
  have owners := (after_reachable calls).consistent.owners
  have same : ((after calls).byOwner.map Prod.fst).Perm (calls.filterMap Call.reserved?).dedup := by
    rw [List.perm_ext_iff_of_nodup owners (List.nodup_dedup _)]
    intro owner
    rw [mem_owners_after, List.mem_dedup, List.mem_filterMap]
    constructor
    · exact fun member => ⟨_, member, rfl⟩
    · rintro ⟨call, member, reserved⟩
      cases call with
      | reserve other =>
        obtain rfl : other = owner := by simpa [Call.reserved?] using reserved
        exact member
      | get _ => simp [Call.reserved?] at reserved
  simpa [count] using same.length_eq

/-- What a cache owes to calls that began with it empty. -/
structure Lawful (calls : List Call) : Prop where
  /-- All calls to reserve a hint for an owner are answered with the hint that it has. -/
  reserved : ∀ before owner behind, calls = before ++ .reserve owner :: behind →
    ((after before).answer (.reserve owner)).1 = (after calls).get? owner
  /-- Different owners have hints that differ even in small letters. -/
  apart : ∀ first second hint other, (after calls).get? first = some hint →
    (after calls).get? second = some other → first ≠ second →
      Text.lowerCase hint ≠ Text.lowerCase other
  /-- Each table is the other one read backwards. -/
  inverse : ∀ owner key, (after calls).owner? key = some owner ↔
    ∃ hint, (after calls).get? owner = some hint ∧ Text.lowerCase hint = key
  count : (after calls).count = (calls.filterMap Call.reserved?).dedup.length
  /-- A call to get the hint of an owner is answered with the one reserved before, if any. -/
  got : ∀ before owner behind, calls = before ++ .get owner :: behind → ∀ hint,
    ((after before).answer (.get owner)).1 = some hint ↔
      ∃ early late, before = early ++ .reserve owner :: late ∧
        ((after early).answer (.reserve owner)).1 = some hint
  unchanged : ∀ before owner behind, calls = before ++ .get owner :: behind →
    after (before ++ [.get owner]) = after before
  /-- The search for the hint of a new owner ends, and with the most preferred free choice. -/
  chosen : ∀ before owner behind, calls = before ++ .reserve owner :: behind →
    .reserve owner ∉ before →
      Search (after before) owner 0 ((after before).reserve owner).1 ∧
      Chosen (after before) owner ((after before).reserve owner).1

/-- Every history of a cache is lawful. -/
theorem history_lawful (calls : List Call) : Lawful calls where
  reserved := by
    rintro before owner behind rfl
    exact (get?_after_reserve ..).symm
  apart := by
    intro first second hint other one two different same
    exact different ((after_reachable calls).consistent.owner_unique one two same)
  inverse := (after_reachable calls).consistent.owner?_iff
  count := count_after calls
  got := by
    intro before owner _ _ hint
    simpa [answer] using get?_after_iff before owner hint
  unchanged := by
    intro before owner _ _
    rw [after_concat]
    rfl
  chosen := by
    intro before owner _ _ new
    have missing := (get?_after_eq_none_iff before owner).mpr new
    have valid := (after_reachable before).consistent
    exact ⟨valid.reserve_search missing, valid.reserve_chosen missing⟩

end Endpoint.Hints
