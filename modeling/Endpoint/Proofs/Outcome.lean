/-!
Outcomes of computations that may fail.
-/

namespace Endpoint

/-- A sequence of two steps succeeds when both do. -/
theorem bind_eq_ok {first : Except ε α} {next : α → Except ε β} {result : β} :
    first >>= next = .ok result ↔ ∃ value, first = .ok value ∧ next value = .ok result := by
  cases first <;> simp [bind, Except.bind]

/-- Steps for each member of a list succeed if all do. -/
theorem forM_eq_ok_iff {check : α → Except ε Unit} {members : List α} :
    members.forM check = .ok () ↔ ∀ member ∈ members, check member = .ok () := by
  induction members with
  | nil => exact iff_of_true rfl (by simp)
  | cons member others ih =>
    rw [List.forM_eq_forM, List.forM_cons, bind_eq_ok, List.forall_mem_cons, ← ih]
    exact ⟨fun ⟨_, here, further⟩ => ⟨here, further⟩, fun ⟨here, further⟩ => ⟨(), here, further⟩⟩

/-- A sequence of two steps fails when the first does, or the second after it. -/
theorem bind_eq_error {first : Except ε α} {next : α → Except ε β} {failure : ε} :
    first >>= next = .error failure ↔
      first = .error failure ∨ ∃ value, first = .ok value ∧ next value = .error failure := by
  cases first <;> simp [bind, Except.bind]

/-- An outcome whose value can be computed is that value. -/
theorem eq_ok_of_toOption {outcome : Except ε α} {value : α}
    (found : outcome.toOption = some value) : outcome = .ok value := by
  cases outcome with
  | error failure => cases found
  | ok result => exact congrArg _ (Option.some.inj found)

/-- The failure of an outcome. -/
def failure? : Except ε α → Option ε
  | .error failure => some failure
  | .ok _ => none

theorem eq_error_of_failure? {outcome : Except ε α} {failure : ε}
    (found : failure? outcome = some failure) : outcome = .error failure := by
  cases outcome with
  | error own => exact congrArg _ (Option.some.inj found)
  | ok result => cases found

/-- What an outcome is mapped to comes from a value. -/
theorem map_eq_ok {first : Except ε α} {f : α → β} {result : β} :
    first.map f = .ok result ↔ ∃ value, first = .ok value ∧ f value = result := by
  cases first <;> simp [Except.map]

/-- A step that always succeeds maps the outcome before it. -/
theorem bind_ok_eq_map (first : Except ε α) (f : α → β) :
    (first >>= fun value => .ok (f value)) = first.map f := by
  cases first <;> rfl

theorem map_map_except (first : Except ε α) (f : α → β) (g : β → γ) :
    (first.map f).map g = first.map (g ∘ f) := by
  cases first <;> rfl

/-- Outcomes that are mapped to the same both succeed, or both fail. -/
theorem ok_iff_of_map_eq {first : Except ε α} {second : Except ε β} {f : α → γ} {g : β → γ}
    (same : first.map f = second.map g) :
    (∃ value, first = .ok value) ↔ ∃ value, second = .ok value := by
  cases first <;> cases second <;> simp [Except.map] at same ⊢

/-! ### Exact outcomes -/

/-- The values that a computation gives are those of the first kind, its failures those of the
second. -/
structure Exactly (outcome : Except ε α) (gives : α → Prop) (fails : ε → Prop) : Prop where
  ok : ∀ value, outcome = .ok value ↔ gives value
  error : ∀ failure, outcome = .error failure ↔ fails failure

/-- It is enough to follow each kind into the computation, if there is always one that applies. -/
theorem Exactly.of_cases {outcome : Except ε α} {gives : α → Prop} {fails : ε → Prop}
    (passes : ∀ value, gives value → outcome = .ok value)
    (breaks : ∀ failure, fails failure → outcome = .error failure)
    (either : (∃ value, gives value) ∨ ∃ failure, fails failure) :
    Exactly outcome gives fails := by
  refine ⟨fun value => ⟨fun done => ?_, passes value⟩,
    fun failure => ⟨fun done => ?_, breaks failure⟩⟩
  · rcases either with ⟨other, given⟩ | ⟨failure, failed⟩
    · cases done.symm.trans (passes other given)
      exact given
    · cases done.symm.trans (breaks failure failed)
  · rcases either with ⟨value, given⟩ | ⟨other, failed⟩
    · cases done.symm.trans (passes value given)
    · cases done.symm.trans (breaks other failed)
      exact failed

/-- A sequence of two steps fails as the first does, or as the second does behind it. -/
theorem Exactly.bind {first : Except ε α} {next : α → Except ε β} {gives : α → Prop}
    {fails : ε → Prop} {givesNext : α → β → Prop} {failsNext : α → ε → Prop}
    (one : Exactly first gives fails)
    (two : ∀ value, gives value → Exactly (next value) (givesNext value) (failsNext value)) :
    Exactly (first >>= next) (fun result => ∃ value, gives value ∧ givesNext value result)
      (fun failure => fails failure ∨ ∃ value, gives value ∧ failsNext value failure) := by
  constructor
  · intro result
    rw [bind_eq_ok]
    refine exists_congr fun value => ?_
    rw [one.ok]
    exact and_congr_right fun given => (two value given).ok result
  · intro failure
    rw [bind_eq_error, one.error]
    refine or_congr_right (exists_congr fun value => ?_)
    rw [one.ok]
    exact and_congr_right fun given => (two value given).error failure

/-- The same outcome in other words. -/
theorem Exactly.congr {outcome : Except ε α} {gives gives' : α → Prop} {fails fails' : ε → Prop}
    (exact : Exactly outcome gives fails) (given : ∀ value, gives value ↔ gives' value)
    (failed : ∀ failure, fails failure ↔ fails' failure) : Exactly outcome gives' fails' :=
  ⟨fun value => (exact.ok value).trans (given value),
    fun failure => (exact.error failure).trans (failed failure)⟩

/-- A list that is checked member by member, each against those before it, is sound or has a first
member that is not. -/
theorem sound_or_first {sound : List α → Prop} {bad : List α → α → Prop}
    (step : ∀ done member, sound done → sound (done ++ [member]) ∨ bad done member)
    (members : List α) (start : sound []) :
    sound members ∨ ∃ before member behind, members = before ++ member :: behind ∧
      sound before ∧ bad before member := by
  suffices general : ∀ done, sound done → sound (done ++ members) ∨
      ∃ before member behind, members = before ++ member :: behind ∧
        sound (done ++ before) ∧ bad (done ++ before) member from general [] start
  induction members with
  | nil => exact fun done early => .inl (by simpa using early)
  | cons first rest ih =>
    intro done early
    rcases step done first early with further | stop
    · rcases ih _ further with all | ⟨before, member, behind, rfl, sound, late⟩
      · exact .inl (by simpa using all)
      · exact .inr ⟨first :: before, member, behind, rfl, by simpa using sound, by simpa using late⟩
    · exact .inr ⟨[], first, rest, rfl, by simpa using early, by simpa using stop⟩

/-! ### Outcomes of lists -/

/-- What a list is mapped to comes from its members, if every member gives something. -/
theorem exists_of_mem_mapM {f : α → Option β} {items : List α} {results : List β}
    (done : items.mapM f = some results) :
    ∀ result ∈ results, ∃ item ∈ items, f item = some result := by
  induction items generalizing results with
  | nil =>
    cases done
    simp
  | cons item rest ih =>
    simp only [List.mapM_cons, Option.bind_eq_bind, Option.bind_eq_some_iff, Option.pure_def,
      Option.some.injEq] at done
    obtain ⟨first, here, more, behind, rfl⟩ := done
    intro result member
    rcases List.mem_cons.mp member with rfl | later
    · exact ⟨item, by simp, here⟩
    · obtain ⟨origin, inside, gives⟩ := ih behind result later
      exact ⟨origin, List.mem_cons_of_mem _ inside, gives⟩

/-- Where every member is read as itself, so is a list of them. -/
theorem mapM_eq_some_self {read : α → Option α} {items : List α}
    (each : ∀ item ∈ items, read item = some item) : items.mapM read = some items := by
  induction items with
  | nil => rfl
  | cons item rest ih =>
    simp only [List.mem_cons, forall_eq_or_imp] at each
    simp [each.1, ih each.2]

/-- Where every member is written and read back, so is a list of them. -/
theorem mapM_map_eq_some {write : α → β} {read : β → Option γ} {value : α → γ}
    (back : ∀ item, read (write item) = some (value item)) (items : List α) :
    (items.map write).mapM read = some (items.map value) := by
  induction items with
  | nil => rfl
  | cons item rest ih => simp [back, ih]

theorem mapM_map_eq_some_self {write : α → β} {read : β → Option α}
    (back : ∀ item, read (write item) = some item) (items : List α) :
    (items.map write).mapM read = some items := by
  have whole := mapM_map_eq_some back items
  rwa [List.map_id'] at whole

end Endpoint
