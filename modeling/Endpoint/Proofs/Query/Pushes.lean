import Endpoint.Proofs.Query
import Mathlib.Data.List.Forall2
import Mathlib.Data.List.Induction

/-!
Rows of pushes to a query. Main statement: what is kept of them is what the policies say about nulls
and defaults, the query string gives it back, and stricter policies only leave pairs out.
-/

namespace Endpoint

/-- How much a policy leaves out. -/
def Policy.rank : Policy → Nat
  | .always => 0
  | .omitNull => 1
  | .omitNullOrDefault => 2

namespace Query

/-! ### Nulls and defaults -/

namespace Value

/-- A value that is absent, under any number of options and references. -/
inductive IsNull : Value → Prop
  | absent : IsNull .absent
  | present {value : Value} (inner : IsNull value) : IsNull (.present value)
  | reference {value : Value} (inner : IsNull value) : IsNull (.reference value)

/-- A value that is the default of its type: one that is present or referred to is if what it holds
is, a list if it is empty, and a number if it is a zero of either sign. -/
inductive IsDefault : Value → Prop
  | text : IsDefault (.text "")
  | bool : IsDefault (.bool false)
  | char : IsDefault (.char (Char.ofNat 0))
  | whole : IsDefault (.whole 0)
  | real (format : Number.Format) (negative : Bool) (scale : Int) :
      IsDefault (.real format (.finite negative 0 scale))
  | absent : IsDefault .absent
  | present {value : Value} (inner : IsDefault value) : IsDefault (.present value)
  | reference {value : Value} (inner : IsDefault value) : IsDefault (.reference value)
  | list : IsDefault (.list [])

theorem isNull_present {value : Value} : (Value.present value).IsNull ↔ value.IsNull := by
  constructor
  · rintro ⟨⟩
    assumption
  · exact .present

theorem isNull_reference {value : Value} : (Value.reference value).IsNull ↔ value.IsNull := by
  constructor
  · rintro ⟨⟩
    assumption
  · exact .reference

theorem rendered_eq_none_iff : ∀ value : Value, value.rendered = none ↔ value.IsNull
  | .text _ | .bool _ | .char _ | .whole _ | .real _ _ | .list _ =>
    iff_of_false (by simp [rendered]) (by rintro ⟨⟩)
  | .absent => iff_of_true rfl .absent
  | .present value => by rw [rendered, rendered_eq_none_iff value, isNull_present]
  | .reference value => by rw [rendered, rendered_eq_none_iff value, isNull_reference]

theorem isDefault_present {value : Value} : (Value.present value).IsDefault ↔ value.IsDefault := by
  constructor
  · rintro ⟨⟩
    assumption
  · exact .present

theorem isDefault_reference {value : Value} :
    (Value.reference value).IsDefault ↔ value.IsDefault := by
  constructor
  · rintro ⟨⟩
    assumption
  · exact .reference

theorem isDefault_iff : ∀ value : Value, value.isDefault = true ↔ value.IsDefault
  | .text held => by
    rw [isDefault, String.isEmpty_iff]
    constructor
    · rintro rfl
      exact .text
    · rintro ⟨⟩
      rfl
  | .bool held => by
    cases held
    · exact iff_of_true rfl .bool
    · exact iff_of_false (by decide) (by rintro ⟨⟩)
  | .char held => by
    rw [isDefault, beq_iff_eq]
    constructor
    · intro zero
      rw [← Char.ofNat_toNat held, zero]
      exact .char
    · rintro ⟨⟩
      rfl
  | .whole held => by
    rw [isDefault, beq_iff_eq]
    constructor
    · rintro rfl
      exact .whole
    · rintro ⟨⟩
      rfl
  | .real format held => by
    rw [isDefault]
    match held with
    | .undefined | .infinite _ => exact iff_of_false (by simp [Number.Binary.isZero]) (by rintro ⟨⟩)
    | .finite negative units scale =>
      rw [Number.Binary.isZero, beq_iff_eq]
      constructor
      · rintro rfl
        exact .real format negative scale
      · rintro ⟨⟩
        rfl
  | .absent => iff_of_true rfl .absent
  | .present value => by rw [isDefault, isDefault_iff value, isDefault_present]
  | .reference value => by rw [isDefault, isDefault_iff value, isDefault_reference]
  | .list items => by
    rw [isDefault, List.isEmpty_iff]
    constructor
    · rintro rfl
      exact .list
    · rintro ⟨⟩
      rfl

instance : DecidablePred IsNull := fun value => decidable_of_iff _ (rendered_eq_none_iff value)

instance : DecidablePred IsDefault := fun value => decidable_of_iff _ (isDefault_iff value)

end Value

/-! ### Pushes -/

/-- A value that is pushed under a key. -/
structure Push where
  key : String
  value : Value
  policy : Policy

namespace Push

/-- Whether the push adds a pair: a null does if everything is written, another value unless it is
a default and defaults are left out. -/
def Kept (push : Push) : Prop :=
  push.value.IsNull ∧ push.policy = .always ∨
    ¬ push.value.IsNull ∧ ¬ (push.policy = .omitNullOrDefault ∧ push.value.IsDefault)

instance : DecidablePred Kept := fun _ => inferInstanceAs (Decidable (_ ∨ _))

/-- The key and the text of the value, which is empty for a null. -/
def pair (push : Push) : String × String := (push.key, push.value.rendered.getD "")

/-- Whether one push is another under the same policy or a stricter one. -/
def Stricter (loose strict : Push) : Prop :=
  strict.key = loose.key ∧ strict.value = loose.value ∧ loose.policy.rank ≤ strict.policy.rank

end Push

/-- The pairs behind a row of pushes. -/
def Pairs.after (pushes : List Push) : Pairs :=
  pushes.foldl (fun pairs push => pairs.push push.key push.value push.policy) []

/-- The pairs that a row of pushes adds. -/
def kept (pushes : List Push) : List (String × String) := (pushes.filter (·.Kept)).map Push.pair

theorem retained_eq (push : Push) :
    retained push.policy push.value = if push.Kept then some push.pair.2 else none := by
  have null := push.value.rendered_eq_none_iff
  have default := push.value.isDefault_iff
  cases rendered : push.value.rendered with
  | none =>
    have isNull := null.mp rendered
    have here : push.Kept ↔ push.policy = .always := by simp [Push.Kept, isNull]
    simp [retained, rendered, here, Push.pair]
  | some text =>
    have noNull : ¬ push.value.IsNull := by
      simp [← null, rendered]
    have here : push.Kept ↔
        ¬ (push.policy = .omitNullOrDefault ∧ push.value.isDefault = true) := by
      simp [Push.Kept, noNull, default]
    by_cases omitted : push.policy = .omitNullOrDefault ∧ push.value.isDefault = true
    · simp [retained, rendered, here, omitted]
    · simp only [retained, rendered, here, omitted, Push.pair, not_false_eq_true, if_true,
        Option.getD_some, Bool.and_eq_true, beq_iff_eq, if_false]

/-- One push adds its pair or nothing. -/
theorem Pairs.push_eq (pairs : Pairs) (push : Push) :
    pairs.push push.key push.value push.policy =
      pairs ++ (kept [push]).map escapedPair := by
  rw [Pairs.push, retained_eq]
  by_cases here : push.Kept <;> simp [here, kept, escapedPair, Push.pair]

theorem Pairs.after_eq (pushes : List Push) :
    Pairs.after pushes = (kept pushes).map escapedPair := by
  induction pushes using List.reverseRecOn with
  | nil => rfl
  | append_singleton pushes push ih =>
    have before : Pairs.after (pushes ++ [push]) =
        (Pairs.after pushes).push push.key push.value push.policy := by
      simp [Pairs.after, List.foldl_append]
    rw [before, Pairs.push_eq, ih]
    simp [kept, List.filter_append]

/-! ### Reading -/

/-- A key and a value, cut at the first equals sign and decoded. -/
def cutPair? (cs : List Char) : Option (String × String) :=
  match cs.dropWhile (· != '=') with
  | _ :: value => do
    return (← Text.percentDecode? (cs.takeWhile (· != '=')), ← Text.percentDecode? value)
  | [] => none

/-- The pairs between the ampersands of a query string, which is given without its mark. -/
def cutPairs? (query : List Char) : Option (List (String × String)) :=
  (Text.splitAt (· == '&') query).mapM cutPair?

theorem cutPair?_pairText (pair : String × String) : cutPair? (pairText pair) = some pair := by
  have before : '=' ∉ (Text.percentEncode pair.1).toList :=
    Text.not_mem_percentEncode (by decide) (by decide) pair.1
  have all : ∀ c ∈ (Text.percentEncode pair.1).toList, (c != '=') = true := by
    intro c member
    refine bne_iff_ne.mpr ?_
    rintro rfl
    exact before member
  have front : (pairText pair).takeWhile (· != '=') = (Text.percentEncode pair.1).toList := by
    rw [pairText, List.takeWhile_append_of_pos all]
    simp
  have back : (pairText pair).dropWhile (· != '=') =
      '=' :: (Text.percentEncode pair.2).toList := by
    rw [pairText, List.dropWhile_append_of_pos all]
    simp
  rw [cutPair?, back, front]
  simp [Text.percentDecode?_percentEncode]

/-- Nothing is finished to empty text but nothing. -/
theorem finish_eq_empty_iff (pairs : List (String × String)) :
    Pairs.finish (pairs.map escapedPair) = "" ↔ pairs = [] := by
  constructor
  · intro empty
    refine Decidable.byContradiction fun some => ?_
    have start := finish_toList some
    rw [empty] at start
    cases start
  · rintro rfl
    rfl

/-! ### Stricter policies -/

/-- A push that a stricter policy keeps is kept, with the same pair. -/
theorem Push.Stricter.kept {loose strict : Push} (stricter : loose.Stricter strict)
    (here : strict.Kept) : loose.Kept ∧ strict.pair = loose.pair := by
  obtain ⟨key, value, rank⟩ := stricter
  refine ⟨?_, by rw [pair, pair, key, value]⟩
  rw [Kept, value] at here
  rcases here with ⟨isNull, always⟩ | ⟨noNull, noDefault⟩
  · refine .inl ⟨isNull, ?_⟩
    rw [always] at rank
    revert rank
    cases loose.policy <;> simp [Policy.rank]
  · refine .inr ⟨noNull, fun omitted => noDefault ⟨?_, omitted.2⟩⟩
    rw [omitted.1] at rank
    revert rank
    cases strict.policy <;> simp [Policy.rank]

/-- Stricter policies keep some of the pairs, in order. -/
theorem kept_sublist {pushes stricter : List Push}
    (each : List.Forall₂ Push.Stricter pushes stricter) :
    (kept stricter).Sublist (kept pushes) := by
  induction each with
  | nil => exact .slnil
  | @cons loose strict pushes stricter first _ ih =>
    by_cases here : strict.Kept
    · obtain ⟨there, same⟩ := first.kept here
      have both : (strict.pair :: kept stricter).Sublist (strict.pair :: kept pushes) := ih.cons_cons _
      simpa [kept, here, there, same] using both
    · by_cases there : loose.Kept
      · have added : (kept stricter).Sublist (loose.pair :: kept pushes) := ih.cons _
        simpa [kept, here, there] using added
      · simpa [kept, here, there] using ih

/-- A row of pushes comes to the pairs that its policies keep; its query string is empty exactly if
there are none, and is otherwise read back as them; stricter policies only leave pairs out. -/
theorem pushes_exact (pushes : List Push) :
    Pairs.after pushes = (kept pushes).map escapedPair ∧
    ((Pairs.after pushes).finish = "" ↔ kept pushes = []) ∧
    (kept pushes ≠ [] → ∃ query, (Pairs.after pushes).finish.toList = '?' :: query ∧
      cutPairs? query = some (kept pushes)) ∧
    ∀ stricter, List.Forall₂ Push.Stricter pushes stricter →
      List.Forall₂ (fun loose strict => strict.Kept → loose.Kept ∧ strict.pair = loose.pair)
        pushes stricter ∧
      (kept stricter).Sublist (kept pushes) ∧
      (Pairs.after stricter).Sublist (Pairs.after pushes) := by
  refine ⟨Pairs.after_eq pushes, ?_, fun some => ?_, fun stricter each => ⟨?_, ?_⟩⟩
  · rw [Pairs.after_eq]
    exact finish_eq_empty_iff _
  · rw [Pairs.after_eq]
    exact ⟨_, finish_toList some, mapM_splitAt_pairsText cutPair?_pairText some⟩
  · exact each.imp fun _ _ stricter here => stricter.kept here
  · have kept := kept_sublist each
    rw [Pairs.after_eq, Pairs.after_eq]
    exact ⟨kept, kept.map escapedPair⟩

def mixed : List Push :=
  [⟨"", .absent, .always⟩, ⟨"a&b", .reference (.text "=x"), .omitNullOrDefault⟩,
    ⟨"n", .present (.whole 0), .omitNull⟩]

def mixedStricter : List Push :=
  [⟨"", .absent, .omitNull⟩, ⟨"a&b", .reference (.text "=x"), .omitNullOrDefault⟩,
    ⟨"n", .present (.whole 0), .omitNullOrDefault⟩]

theorem pushes_exact_mixed :
    kept mixed = [("", ""), ("a&b", "=x"), ("n", "0")] ∧
    (∃ query, (Pairs.after mixed).finish.toList = '?' :: query ∧
      cutPairs? query = some [("", ""), ("a&b", "=x"), ("n", "0")]) ∧
    kept mixedStricter = [("a&b", "=x")] ∧
    (kept mixedStricter).Sublist (kept mixed) := by
  have all : kept mixed = [("", ""), ("a&b", "=x"), ("n", "0")] := by decide
  have each : List.Forall₂ Push.Stricter mixed mixedStricter :=
    .cons ⟨rfl, rfl, by decide⟩ (.cons ⟨rfl, rfl, by decide⟩ (.cons ⟨rfl, rfl, by decide⟩ .nil))
  obtain ⟨-, -, read, strict⟩ := pushes_exact mixed
  exact ⟨all, all ▸ read (by simp [all]), by decide, (strict _ each).2.1⟩

end Query

end Endpoint
