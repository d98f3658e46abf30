import Endpoint.Proofs.Outcome
import Endpoint.Proofs.Text.Ascii
import Endpoint.Proofs.Text.Split
import Endpoint.Url.Domain

/-!
Domain names in ASCII: reading gives small ASCII letters and no character that a domain name may
not hold, and small ASCII text that is read again stays as it is.
-/

namespace Endpoint.Url.Domain

/-! ### Text in ASCII -/

theorem form?_ascii {c : Char} (ascii : c.toNat < 128) : form? c = some [c.toLower] := by
  simp [form?, ascii]

private theorem marks_beyond : ∀ run ∈ compositions, 128 ≤ run.1 := by
  have all : (compositions.all fun run => 128 ≤ run.1) = true := by decide +kernel
  intro run member
  simpa using List.all_eq_true.mp all run member

private theorem classes_beyond : ∀ run ∈ classRuns, 128 ≤ run.1 := by
  have all : (classRuns.all fun run => 128 ≤ run.1) = true := by decide +kernel
  intro run member
  simpa using List.all_eq_true.mp all run member

theorem combiningClass_ascii {c : Char} (ascii : c.toNat < 128) : combiningClass c = 0 := by
  have none : classRuns.find? (fun run => run.1 ≤ c.toNat && c.toNat ≤ run.2.1) = none := by
    apply List.find?_eq_none.mpr
    intro run member
    have beyond := classes_beyond run member
    simp only [Bool.and_eq_true, decide_eq_true_eq, not_and]
    omega
  simp [combiningClass, none]

theorem decompose_ascii {c : Char} (ascii : c.toNat < 128) (depth : Nat) :
    decompose depth c = [c] := by
  cases depth with
  | zero => rfl
  | succ depth =>
    have before : c.toNat < 0xac00 := by omega
    simp [decompose, parts?, syllableParts?, before, ascii]

/-- Nothing is composed with a character of ASCII behind it. -/
theorem compose?_ascii (start : Char) {c : Char} (ascii : c.toNat < 128) :
    compose? start c = none := by
  have noSyllable : syllable? start.toNat c.toNat = none := by
    have noVowel : ¬ 0x1161 ≤ c.toNat := by omega
    have noFinal : ¬ 0x11a8 ≤ c.toNat := by omega
    simp [syllable?, noVowel, noFinal]
  rw [compose?, noSyllable]
  apply List.findSome?_eq_none_iff.mpr
  intro run member
  have other : ¬ run.1 = c.toNat := by
    have beyond := marks_beyond run member
    omega
  simp [other]

theorem ordered_ascii {cs : List Char} (ascii : ∀ c ∈ cs, c.toNat < 128) : ordered cs = cs := by
  induction cs with
  | nil => rfl
  | cons c rest ih =>
    simp only [List.mem_cons, forall_eq_or_imp] at ascii
    have behind := ih ascii.2
    unfold ordered at behind ⊢
    rw [List.foldr_cons, behind]
    cases rest with
    | nil => rfl
    | cons d rest => simp [place, combiningClass_ascii (ascii.2 d (by simp))]

theorem composeBehind_ascii (start : Char) {cs : List Char} (ascii : ∀ c ∈ cs, c.toNat < 128) :
    composeBehind start [] cs = start :: cs := by
  induction cs generalizing start with
  | nil => rfl
  | cons c rest ih =>
    simp only [List.mem_cons, forall_eq_or_imp] at ascii
    simp [composeBehind, compose?_ascii start ascii.1, combiningClass_ascii ascii.1,
      ih c ascii.2]

/-- Text in ASCII is composed. -/
theorem composed_ascii {cs : List Char} (ascii : ∀ c ∈ cs, c.toNat < 128) : composed cs = cs := by
  have parts : cs.flatMap (decompose 4) = cs := by
    induction cs with
    | nil => rfl
    | cons c rest ih =>
      simp only [List.mem_cons, forall_eq_or_imp] at ascii
      simp [decompose_ascii ascii.1, ih ascii.2]
  rw [composed, parts, ordered_ascii ascii]
  cases cs with
  | nil => rfl
  | cons c rest => exact composeBehind_ascii c fun d member => ascii d (List.mem_cons_of_mem _ member)

theorem mapM_form?_small {cs : List Char} (ascii : ∀ c ∈ cs, c.toNat < 128)
    (small : ∀ c ∈ cs, c.toLower = c) : cs.mapM form? = some (cs.map fun c => [c]) := by
  induction cs with
  | nil => rfl
  | cons c rest ih =>
    simp only [List.mem_cons, forall_eq_or_imp] at ascii small
    simp [form?_ascii ascii.1, small.1, ih ascii.2 small.2]

theorem asciiLabel?_ascii {label : List Char} (ascii : ∀ c ∈ label, c.toNat < 128) :
    asciiLabel? label = some label := by
  have here : isAscii label = true := by simpa [isAscii] using ascii
  rw [asciiLabel?, if_pos here]

/-- Small ASCII text is a domain name if what its labels stand for keeps the rules. -/
theorem ascii?_eq {cs : List Char} (ascii : ∀ c ∈ cs, c.toNat < 128)
    (small : ∀ c ∈ cs, c.toLower = c) :
    ascii? (String.ofList cs) = ((Text.splitAt (· == '.') cs).mapM meaning?).bind fun meanings =>
      if (Text.splitAt (· == '.') cs).any (·.any isForbidden) || !isValid meanings then none
      else some cs := by
  have flat : (cs.map fun c => [c]).flatten = cs := by simp [← List.flatMap_def]
  have labels : (Text.splitAt (· == '.') cs).mapM asciiLabel? =
      some (Text.splitAt (· == '.') cs) :=
    mapM_eq_some_self fun label member =>
      asciiLabel?_ascii fun c inside => ascii c (Text.mem_splitAt member c inside).1
  have same : cs.map Char.toLower = cs := by
    simpa using List.map_congr_left small
  simp only [ascii?, String.toList_ofList, mapM_form?_small ascii small, Option.bind_eq_bind,
    Option.bind_some, flat, composed_ascii ascii, labels, Option.pure_def,
    Text.intercalate_splitAt, same]

/-- Small ASCII text that is read as a domain name stands for itself. -/
theorem ascii?_small {cs name : List Char} (ascii : ∀ c ∈ cs, c.toNat < 128)
    (small : ∀ c ∈ cs, c.toLower = c) (read : ascii? (String.ofList cs) = some name) :
    name = cs := by
  rw [ascii?_eq ascii small, Option.bind_eq_some_iff] at read
  obtain ⟨meanings, _, read⟩ := read
  split at read
  · cases read
  · exact (Option.some.inj read).symm

/-! ### What is read -/

/-- A character that ASCII has and a domain name may hold. -/
def IsPlain (c : Char) : Prop := c.toNat < 128 ∧ isForbidden c = false

private theorem digit_isPlain {n : Nat} (small : n < 36) : IsPlain (Punycode.digit n) := by
  have all : ∀ m < 36, (Punycode.digit m).toNat < 128 ∧ isForbidden (Punycode.digit m) = false :=
    by decide
  exact all n small

theorem digits_plain (position bias value : Nat) :
    ∀ c ∈ Punycode.digits position bias value, IsPlain c := by
  induction value using Nat.strongRecOn generalizing position with
  | ind value ih =>
    intro c member
    have positive := Punycode.threshold_pos position bias
    have bound := Punycode.threshold_le position bias
    rw [Punycode.digits] at member
    split at member
    · rename_i last
      obtain rfl := List.mem_singleton.mp member
      exact digit_isPlain (by omega)
    · rename_i goesOn
      rcases List.mem_cons.mp member with rfl | behind
      · have rest := Nat.mod_lt (value - Punycode.threshold position bias)
          (show 0 < 36 - Punycode.threshold position bias by omega)
        exact digit_isPlain (by omega)
      · have less := Nat.div_le_self (value - Punycode.threshold position bias)
          (36 - Punycode.threshold position bias)
        exact ih _ (by omega) _ c behind

theorem step_plain {state : Punycode.State} (plain : ∀ c ∈ state.out, IsPlain c)
    (basic wanted point : Nat) :
    ∀ c ∈ (Punycode.step basic wanted state point).out, IsPlain c := by
  unfold Punycode.step
  split
  · exact plain
  · split
    · intro c member
      rcases List.mem_append.mp member with before | behind
      · exact plain c before
      · exact digits_plain _ _ _ c behind
    · exact plain

theorem steps_plain {state : Punycode.State} (plain : ∀ c ∈ state.out, IsPlain c)
    (basic wanted : Nat) (points : List Nat) :
    ∀ c ∈ (points.foldl (Punycode.step basic wanted) state).out, IsPlain c := by
  induction points generalizing state with
  | nil => exact plain
  | cons point rest ih => exact ih (step_plain plain basic wanted point)

theorem rounds_plain {state : Punycode.State} (plain : ∀ c ∈ state.out, IsPlain c)
    (points : List Nat) (basic fuel reached : Nat) :
    ∀ c ∈ (Punycode.rounds points basic fuel reached state).out, IsPlain c := by
  induction fuel generalizing reached state with
  | zero => exact plain
  | succ fuel ih =>
    unfold Punycode.rounds
    split
    · exact plain
    · refine ih ?_ _
      apply steps_plain
      exact plain

/-- The digits of a label are letters and digits behind its own characters of ASCII. -/
theorem encode_plain {label : List Char} (allowed : ∀ c ∈ label, isForbidden c = false) :
    ∀ c ∈ Punycode.encode label, IsPlain c := by
  unfold Punycode.encode
  refine rounds_plain ?_ _ _ _ _
  have own : ∀ c ∈ label.filter (·.toNat < 128), IsPlain c := by
    intro c member
    obtain ⟨inside, ascii⟩ := List.mem_filter.mp member
    exact ⟨by simpa using ascii, allowed c inside⟩
  intro c member
  dsimp only at member
  split at member
  · cases member
  · rcases List.mem_append.mp member with before | hyphen
    · exact own c before
    · obtain rfl := List.mem_singleton.mp hyphen
      exact ⟨by decide, by decide⟩

theorem asciiLabel?_plain {label written : List Char}
    (allowed : ∀ c ∈ label, isForbidden c = false) (done : asciiLabel? label = some written) :
    ∀ c ∈ written, IsPlain c := by
  unfold asciiLabel? at done
  split at done
  · rename_i ascii
    cases done
    intro c member
    exact ⟨by simpa using List.all_eq_true.mp ascii c member, allowed c member⟩
  · split at done
    · cases done
    · cases done
      intro c member
      rcases List.mem_append.mp member with mark | behind
      · have chars : c = 'x' ∨ c = 'n' ∨ c = '-' ∨ c = '-' := by simpa using mark
        rcases chars with rfl | rfl | rfl | rfl <;> exact ⟨by decide, by decide⟩
      · exact encode_plain allowed c behind

/-- The small form of a plain character. -/
theorem IsPlain.toLower {c : Char} (plain : IsPlain c) :
    IsPlain c.toLower ∧ c.toLower.toLower = c.toLower := by
  have allowed : isForbidden c.toLower = isForbidden c :=
    Text.ascii_induction (P := fun c => isForbidden c.toLower = isForbidden c) (by decide)
      plain.1
  exact ⟨⟨Text.toLower_ascii plain.1, allowed ▸ plain.2⟩, Text.toLower_toLower plain.1⟩

/-- A domain name that is read consists of small plain characters. -/
theorem ascii?_plain {text : String} {name : List Char} (done : ascii? text = some name) :
    ∀ c ∈ name, IsPlain c ∧ c.toLower = c := by
  simp only [ascii?, Option.bind_eq_bind, Option.bind_eq_some_iff] at done
  obtain ⟨forms, _, meanings, _, done⟩ := done
  split at done
  · cases done
  · rename_i allowed
    simp only [Option.bind_eq_some_iff, Option.pure_def, Option.some.injEq] at done
    obtain ⟨labels, written, rfl⟩ := done
    have noForbidden : ∀ label ∈ Text.splitAt (· == '.') (composed forms.flatten),
        ∀ c ∈ label, isForbidden c = false := by
      simp only [Bool.or_eq_true, not_or] at allowed
      simpa using allowed.1
    intro c member
    obtain ⟨d, inside, rfl⟩ := List.mem_map.mp member
    have plain : IsPlain d := by
      rcases Text.mem_intercalate inside with dot | ⟨label, inLabels, here⟩
      · obtain rfl := List.mem_singleton.mp dot
        exact ⟨by decide, by decide⟩
      · obtain ⟨origin, inOrigins, gives⟩ := exists_of_mem_mapM written label inLabels
        exact asciiLabel?_plain (noForbidden origin inOrigins) gives d here
    exact plain.toLower

end Endpoint.Url.Domain
