import Endpoint.Proofs.Lowering.Client
import Endpoint.Run

/-!
What comes of one declaration: a unit of its own, or diagnostics that name it. What it adds to a
report depends on the clients collected before it, and on nothing else.
-/

namespace Endpoint.Run

open Source (Trait)

/-- A unit that holds the implementation of all the endpoints of a trait, in order, while the
diagnostics name its other methods. -/
structure Implements (config : Config) (symbols : Symbols) (candidate : Candidate) (item : Trait)
    (unit : GeneratedUnit) (diagnostics : List Diagnostic) : Prop where
  emitted : ∃ context definition,
    Emission.Context.ofConfig config = .ok context ∧
    Emission.render (Emission.clientTokens context definition) unit.hint candidate.kind
      candidate.identity = .ok unit ∧
    definition.trait = item.name ∧
    (Emission.clientTokens context definition).getLast? =
      some (.brace (((Lowering.requiredMethods item).filterMap fun declared =>
        (Lowering.endpoint candidate.imports symbols declared).toOption).flatMap
          (Emission.methodTokens context)))
  named : diagnostics.Perm ((Lowering.requiredMethods item).filterMap
    (Lowering.endpointDiagnostic? candidate.identity candidate.imports symbols))

/-- The unit and the diagnostics of a declaration, as they belong together. -/
structure Accounts (config : Config) (symbols : Symbols) (job : String × Candidate)
    (unit : Option GeneratedUnit) (diagnostics : List Diagnostic) : Prop where
  subjects : ∀ diagnostic ∈ diagnostics, diagnostic.subject = job.2.identity
  missing : unit = none → diagnostics ≠ []
  origin : ∀ held ∈ unit,
    held.hint = job.1 ∧ held.kind = job.2.kind ∧ held.source = job.2.identity
  client : ∀ held ∈ unit, ∀ item, job.2.declaration = .trait item →
    Implements config symbols job.2 item held diagnostics

theorem render_origin {tokens : Source.Tokens} {hint : String} {kind : Kind} {source : Identity}
    {unit : GeneratedUnit} (done : Emission.render tokens hint kind source = .ok unit) :
    unit.hint = hint ∧ unit.kind = kind ∧ unit.source = source := by
  simp only [Emission.render] at done
  split at done
  · cases done
  · split at done
    · cases done
    · cases done
      exact ⟨rfl, rfl, rfl⟩

/-- The code of a client ends with its methods. -/
theorem clientTokens_getLast? (context : Emission.Context) (client : ClientDefinition) :
    (Emission.clientTokens context client).getLast? =
      some (.brace (client.methods.flatMap (Emission.methodTokens context))) := by
  simp only [Emission.clientTokens, Emission.traitTokens, ← List.append_assoc,
    List.getLast?_concat]

/-! ### Traits -/

theorem processClient_accounts {config : Config} {context : Emission.Context} {symbols : Symbols}
    {hint : String} {candidate : Candidate} {item : Trait} {found : Processed}
    (given : Emission.Context.ofConfig config = .ok context)
    (declared : candidate.declaration = .trait item)
    (done : processClient config context symbols hint candidate item = .ok found) :
    Accounts config symbols (hint, candidate) found.unit found.diagnostics := by
  simp only [processClient, bind_eq_ok] at done
  obtain ⟨lowered, lowering, done⟩ := done
  cases present : lowered.definition with
  | none =>
    simp only [present, pure, Except.pure, Except.ok.injEq] at done
    subst found
    rcases Lowering.client_cases lowering with ⟨_, some, subjects⟩ | ⟨definition, held, _⟩
    · exact ⟨subjects, fun _ => some, by simp, by simp⟩
    · simp [present] at held
  | some definition =>
    simp only [present, bind_eq_ok, pure, Except.pure, Except.ok.injEq] at done
    obtain ⟨unit, rendered, rfl⟩ := done
    have accounts := Lowering.client_accounts lowering present
    have origin := render_origin rendered
    refine ⟨?_, by simp, by simpa using origin, ?_⟩
    · intro diagnostic member
      obtain ⟨declared, _, named⟩ := List.mem_filterMap.mp (accounts.diagnostics.subset member)
      exact Lowering.endpointDiagnostic?_subject named
    · intro held member other same
      obtain rfl : unit = held := by simpa using member
      obtain rfl : item = other := by simpa [declared] using same
      refine ⟨⟨context, definition.validate.1, given, ?_, accounts.trait, ?_⟩,
        accounts.diagnostics⟩
      · rw [origin.1]
        exact rendered
      · rw [clientTokens_getLast?, accounts.methods]

/-! ### Enums -/

theorem memberDiagnostics_subject (identity : Identity) (members : List EnumerationMember) :
    ∀ seen, ∀ diagnostic ∈ memberDiagnostics identity seen members,
      diagnostic.subject = identity := by
  induction members with
  | nil => simp [memberDiagnostics]
  | cons member rest ih =>
    intro seen diagnostic held
    simp only [memberDiagnostics] at held
    split at held
    · rcases List.mem_cons.mp held with rfl | later
      · rfl
      · exact ih _ _ later
    · split at held
      · rcases List.mem_cons.mp held with rfl | later
        · rfl
        · exact ih _ _ later
      · exact ih _ _ held

/-- A lowered enum is rejected with diagnostics of its own, or has none. -/
theorem enumeration_cases (candidate : Candidate) (item : Source.Enum) :
    ((Lowering.enumeration candidate item).definition = none ∧
      (Lowering.enumeration candidate item).diagnostics ≠ [] ∧
      ∀ diagnostic ∈ (Lowering.enumeration candidate item).diagnostics,
        diagnostic.subject = candidate.identity) ∨
    ∃ enumeration, (Lowering.enumeration candidate item).definition = some enumeration ∧
      enumeration.identity = candidate.identity ∧
      (Lowering.enumeration candidate item).diagnostics = [] := by
  simp only [Lowering.enumeration]
  split
  · exact .inl ⟨rfl, by simp [Lowered.rejected],
      by simp [Lowered.rejected, Diagnostic.ofDeclaration]⟩
  · split
    · exact .inr ⟨_, rfl, rfl, rfl⟩
    · rename_i refused
      refine .inl ⟨rfl, by simpa [Lowered.rejected] using refused, ?_⟩
      intro diagnostic member
      obtain ⟨variant, _, named⟩ := List.mem_filterMap.mp member
      simp only [Lowering.variantProblem?] at named
      split at named
      · cases named
      · cases named
        rfl

/-- An enum is rejected as such, comes to a serializer, or has members whose names clash. -/
theorem processEnum_cases {context : Emission.Context} {hint : String} {candidate : Candidate}
    {item : Source.Enum} {found : Processed}
    (done : processEnum context hint candidate item = .ok found) :
    (Lowering.enumeration candidate item).definition = none ∧
      found = ⟨hint, none, none, (Lowering.enumeration candidate item).diagnostics⟩ ∨
    ∃ enumeration, (Lowering.enumeration candidate item).definition = some enumeration ∧
      ((∃ unit, enumeration.problems = [] ∧
          Emission.render (Emission.serializerTokens context enumeration) hint candidate.kind
            candidate.identity = .ok unit ∧
          found = ⟨hint, some unit, none, (Lowering.enumeration candidate item).diagnostics⟩) ∨
        enumeration.problems ≠ [] ∧ found = ⟨hint, none, none,
          (Lowering.enumeration candidate item).diagnostics ++ enumeration.problems⟩) := by
  simp only [processEnum] at done
  split at done
  · rename_i rejected
    cases done
    exact .inl ⟨rejected, rfl⟩
  · rename_i enumeration understood
    refine .inr ⟨enumeration, understood, ?_⟩
    split at done
    · rename_i sound
      simp only [bind_eq_ok, pure, Except.pure, Except.ok.injEq] at done
      obtain ⟨unit, rendered, rfl⟩ := done
      exact .inl ⟨unit, List.isEmpty_iff.mp sound, rendered, rfl⟩
    · rename_i unsound
      cases done
      exact .inr ⟨by simpa using unsound, rfl⟩

theorem processEnum_accounts {config : Config} {context : Emission.Context} {symbols : Symbols}
    {hint : String} {candidate : Candidate} {item : Source.Enum} {found : Processed}
    (declared : candidate.declaration = .enum item)
    (done : processEnum context hint candidate item = .ok found) :
    Accounts config symbols (hint, candidate) found.unit found.diagnostics := by
  have lowered := enumeration_cases candidate item
  rcases processEnum_cases done with
    ⟨rejected, rfl⟩ | ⟨held, present, ⟨unit, -, rendered, rfl⟩ | ⟨refused, rfl⟩⟩
  · simp only [rejected, true_and, reduceCtorEq, false_and, exists_false, or_false] at lowered
    exact ⟨lowered.2, fun _ => lowered.1, by simp, by simp⟩
  · obtain ⟨-, none⟩ : held.identity = candidate.identity ∧ _ := by simpa [present] using lowered
    rw [none]
    exact ⟨by simp, by simp, by simpa using render_origin rendered, by simp [declared]⟩
  · obtain ⟨own, none⟩ : held.identity = candidate.identity ∧ _ := by simpa [present] using lowered
    rw [none, List.nil_append]
    refine ⟨?_, fun _ => refused, by simp, by simp⟩
    exact fun diagnostic member => own ▸ memberDiagnostics_subject _ _ _ _ member

/-! ### Declarations -/

/-- Processing accounts for every declaration, whatever it is. -/
theorem process_accounts {config : Config} {symbols : Symbols} {job : String × Candidate}
    {found : Processed} (done : process config symbols job = .ok found) :
    Accounts config symbols job found.unit found.diagnostics := by
  simp only [process, bind_eq_ok] at done
  obtain ⟨context, given, done⟩ := done
  cases declared : job.2.declaration with
  | trait item => exact processClient_accounts given declared (by simpa [declared] using done)
  | enum item => exact processEnum_accounts declared (by simpa [declared] using done)

/-- What came of a declaration is kept under its hint. -/
theorem process_hint {config : Config} {symbols : Symbols} {job : String × Candidate}
    {found : Processed} (done : process config symbols job = .ok found) : found.hint = job.1 := by
  simp only [process, bind_eq_ok] at done
  obtain ⟨context, _, done⟩ := done
  split at done
  · simp only [processClient, bind_eq_ok] at done
    obtain ⟨lowered, _, done⟩ := done
    split at done
    · cases done
      rfl
    · simp only [bind_eq_ok, pure, Except.pure, Except.ok.injEq] at done
      obtain ⟨_, _, rfl⟩ := done
      rfl
  · rcases processEnum_cases done with ⟨-, rfl⟩ | ⟨_, -, ⟨_, -, -, rfl⟩ | ⟨-, rfl⟩⟩ <;> rfl

/-! ### Contributions -/

/-- What a declaration adds to a report, given the clients collected before it. -/
def Processed.contribution (names : ClientNames) (found : Processed) :
    Option GeneratedUnit × List Diagnostic :=
  match found.unit, found.clientName with
  | some unit, some name =>
    match names.find? (·.1 == (unit.source.module, name)) with
    | some (_, owner) =>
      (none, found.diagnostics ++
        [.ofDeclaration unit.source (.clientNameCollision name owner.text)])
    | none => (some unit, found.diagnostics)
  | unit, _ => (unit, found.diagnostics)

/-- The clients collected when the declaration is. -/
def Processed.namesAfter (names : ClientNames) (found : Processed) : ClientNames :=
  match found.unit, found.clientName with
  | some unit, some name =>
    if (names.find? (·.1 == (unit.source.module, name))).isSome then names
    else names ++ [((unit.source.module, name), unit.source)]
  | _, _ => names

/-- A client whose name is free in its module is added, and takes the name. -/
theorem Processed.contribution_of_free {names : ClientNames} {unit : GeneratedUnit} {name : String}
    (free : names.find? (·.1 == (unit.source.module, name)) = none) (hint : String)
    (diagnostics : List Diagnostic) :
    contribution names ⟨hint, some unit, some name, diagnostics⟩ = (some unit, diagnostics) ∧
      namesAfter names ⟨hint, some unit, some name, diagnostics⟩ =
        names ++ [((unit.source.module, name), unit.source)] := by
  simp only [contribution, namesAfter, free, Option.isSome_none, Bool.false_eq_true, if_false,
    and_self]

/-- A client whose name is taken in its module is left out, and a diagnostic names the owner. -/
theorem Processed.contribution_of_taken {names : ClientNames} {unit : GeneratedUnit}
    {name : String} {entry : (Names × String) × Identity}
    (taken : names.find? (·.1 == (unit.source.module, name)) = some entry) (hint : String)
    (diagnostics : List Diagnostic) :
    contribution names ⟨hint, some unit, some name, diagnostics⟩ =
        (none, diagnostics ++
          [.ofDeclaration unit.source (.clientNameCollision name entry.2.text)]) ∧
      namesAfter names ⟨hint, some unit, some name, diagnostics⟩ = names := by
  simp only [contribution, namesAfter, taken, Option.isSome_some, if_true, and_self]

/-- What each declaration adds, one after the other. -/
def contributions : ClientNames → List Processed → List (Option GeneratedUnit × List Diagnostic)
  | _, [] => []
  | names, found :: rest => found.contribution names :: contributions (found.namesAfter names) rest

theorem Collected.add_eq (held : Collected) (found : Processed) :
    held.add found =
      ⟨held.units ++ (found.contribution held.names).1.toList,
        held.diagnostics ++ (found.contribution held.names).2, found.namesAfter held.names⟩ := by
  unfold Collected.add Processed.contribution Processed.namesAfter
  cases found.unit with
  | none => simp
  | some unit =>
    cases found.clientName with
    | none => simp
    | some name => cases taken : held.names.find? (·.1 == (unit.source.module, name)) <;> simp [taken]

theorem foldl_add (founds : List Processed) (held : Collected) :
    (founds.foldl Collected.add held).units =
        held.units ++ (contributions held.names founds).filterMap Prod.fst ∧
      (founds.foldl Collected.add held).diagnostics =
        held.diagnostics ++ (contributions held.names founds).flatMap Prod.snd := by
  induction founds generalizing held with
  | nil => simp [contributions]
  | cons found rest ih =>
    obtain ⟨units, diagnostics⟩ := ih (held.add found)
    rw [List.foldl_cons, units, diagnostics, held.add_eq]
    cases unit : (found.contribution held.names).1 <;> simp [contributions, unit]

/-- What a declaration adds accounts for it as its result does: where its unit is left out, a
diagnostic names it. -/
theorem Processed.contribution_accounts {config : Config} {symbols : Symbols}
    {job : String × Candidate} {found : Processed}
    (accounts : Accounts config symbols job found.unit found.diagnostics) (names : ClientNames) :
    Accounts config symbols job (found.contribution names).1 (found.contribution names).2 := by
  unfold Processed.contribution
  split
  · rename_i unit name present named
    split
    · have origin := accounts.origin unit (by simp [present])
      refine ⟨?_, by simp, by simp, by simp⟩
      intro diagnostic member
      rcases List.mem_append.mp member with own | collision
      · exact accounts.subjects diagnostic own
      · rw [List.mem_singleton.mp collision]
        exact origin.2.2
    · exact present ▸ accounts
  · exact accounts

/-- Declarations in the order in which they are collected. -/
def byHint (founds : List Processed) : List Processed :=
  founds.mergeSort fun a b => a.hint ≤ b.hint

theorem collect_units (diagnostics : List Diagnostic) (founds : List Processed) :
    (collect diagnostics founds).units =
      (contributions [] (byHint founds)).filterMap Prod.fst :=
  (foldl_add (byHint founds) ⟨[], diagnostics, []⟩).1

theorem collect_diagnostics (diagnostics : List Diagnostic) (founds : List Processed) :
    (collect diagnostics founds).diagnostics =
      diagnostics ++ (contributions [] (byHint founds)).flatMap Prod.snd :=
  (foldl_add (byHint founds) ⟨[], diagnostics, []⟩).2

end Endpoint.Run
