import Endpoint.Proofs.Emission.Naming
import Endpoint.Proofs.Run.Spelling

/-!
Clients that are named for their traits. Main statement: settings that can be used never let the
name itself keep emitted code from being read, unless trait and suffix together spell a keyword;
then the run fails.
-/

namespace Endpoint

open Source (Ident Tokens keywords)

/-- The crate that emitted code calls goes by a name. -/
theorem Config.runtime_isName {config : Config} (valid : config.validate = .ok ())
    {context : Emission.Context} (made : Emission.Context.ofConfig config = .ok context) :
    context.runtime.isName = true := by
  obtain ⟨name, read, isName⟩ := Source.isNameText_iff.mp (of_validate valid).2
  rw [Emission.Context.ofConfig, Ident.ofWritten?_of_read read] at made
  split at made
  · rename_i found
    cases made
    obtain ⟨-, same⟩ := Option.ite_none_right_eq_some.mp found
    cases same
    exact isName
  · cases made

namespace Lowering

open Source (Trait)

/-- The name that the client of a trait gets without one of its own. -/
def defaultName (item : Trait) (config : Config) : Ident :=
  ⟨item.name.text ++ config.clientSuffix, false⟩

theorem defaultName_isName {item : Trait} {config : Config} :
    (defaultName item config).isName = false ↔
      item.name.text ++ config.clientSuffix ∈ keywords := by
  simp [Ident.isName, defaultName]

/-- A trait without a name for its client is understood under the name that it gets. -/
theorem client_default {candidate : Candidate} {item : Trait} (symbols : Symbols)
    {config : Config} (proper : item.name.IsProper) (valid : config.validate = .ok ())
    (plain : isGeneric item.generics = false)
    (unnamed : clientName candidate.imports item = .ok none) :
    ∃ lowered, client candidate item symbols config = .ok lowered ∧
      ∀ definition, lowered.definition = some definition →
        definition.name = defaultName item config := by
  have made : identifier (item.name.text ++ config.clientSuffix) =
      .ok (defaultName item config) := by
    simp [identifier, ofWritten?_default proper valid, defaultName]
  unfold client
  simp only [plain, unnamed, Bool.false_eq_true, if_false, Option.getD_none, made]
  dsimp only [bind, Except.bind]
  split
  · exact ⟨_, rfl, fun definition found => by cases found⟩
  · refine ⟨_, rfl, fun definition found => ?_⟩
    cases found
    rfl

end Lowering

namespace Run

/-- A client is refused as its code is. -/
theorem process_eq_emission_iff {config : Config} {context : Emission.Context} {symbols : Symbols}
    {hint : String} {candidate : Candidate} {item : Source.Trait}
    (declared : candidate.declaration = .trait item)
    (made : Emission.Context.ofConfig config = .ok context) {lowered : Lowered ClientDefinition}
    (understood : Lowering.client candidate item symbols config = .ok lowered)
    {definition : ClientDefinition} (defined : lowered.definition = some definition) :
    process config symbols (hint, candidate) = .error .emission ↔
      Emission.render (Emission.clientTokens context definition.validate.1) hint candidate.kind
        candidate.identity = .error .emission := by
  simp only [process, made, declared, processClient, understood, defined, bind, Except.bind]
  cases Emission.render (Emission.clientTokens context definition.validate.1) hint candidate.kind
    candidate.identity <;> simp [pure, Except.pure]

/-- Text is refused, or has no layout. -/
theorem render_failure {tokens : Tokens} {hint : String} {kind : Kind} {source : Identity}
    {failure : Failure} (failed : Emission.render tokens hint kind source = .error failure) :
    failure = .emission ∨ failure.isAbrupt = true := by
  unfold Emission.render at failed
  split at failed
  · cases failed
    exact .inl rfl
  · split at failed
    · cases failed
      exact .inr rfl
    · cases failed

/-- A declaration fails because its code is refused, or it ends the run at once. -/
theorem process_failure {config : Config} (valid : config.validate = .ok ()) {symbols : Symbols}
    {job : String × Candidate} (named : job.2.declaration.IsNamed) {failure : Failure}
    (failed : process config symbols job = .error failure) :
    failure = .emission ∨ failure.isAbrupt = true := by
  unfold process at failed
  rcases bind_eq_error.mp failed with noContext | ⟨context, -, failed⟩
  · unfold Emission.Context.ofConfig at noContext
    split at noContext
    · cases noContext
    · cases noContext
      exact .inr rfl
  · split at failed
    case h_1 item declared =>
      rw [declared] at named
      rcases bind_eq_error.mp failed with stumbles | ⟨lowered, -, failed⟩
      · obtain ⟨text, -, -, -, rfl⟩ := (Lowering.client_eq_error_iff named valid).mp stumbles
        exact .inr rfl
      · split at failed
        · cases failed
        · rcases bind_eq_error.mp failed with refused | ⟨_, -, ended⟩
          · exact render_failure refused
          · cases ended
    case h_2 item declared =>
      unfold processEnum at failed
      dsimp only at failed
      split at failed
      · cases failed
      · split at failed
        · rcases bind_eq_error.mp failed with refused | ⟨_, -, ended⟩
          · exact render_failure refused
          · cases ended
        · cases failed

/-- A declaration that fails ends the run: code is refused, or the run ends at once. -/
theorem generate_failure {config : Config} (valid : config.validate = .ok ())
    {units : List SourceUnit} (named : ∀ unit ∈ units, unit.IsNamed) {candidate : Candidate}
    (scanned : candidate ∈ (Scan.ofUnits units).candidates)
    (fails : ∀ hint, ∃ failure,
      process config (Symbols.ofUnits units) (hint, candidate) = .error failure) (hints : Hints) :
    ∃ failure, (generate config false hints units).1 = .error failure ∧
      (failure = .emission ∨ failure.isAbrupt = true) := by
  obtain ⟨hint, member⟩ := (mem_jobsOf hints).mpr scanned
  obtain ⟨stumbled, stumbles⟩ := fails hint
  have result := List.mem_map_of_mem (f := process config (Symbols.ofUnits units)) member
  rw [stumbles] at result
  cases settled : settle ((jobsOf hints units).map (process config (Symbols.ofUnits units))) with
  | ok found =>
    rw [settle_ok settled] at result
    obtain ⟨_, -, ⟨⟩⟩ := List.mem_map.mp result
  | error failure =>
    obtain ⟨job, inside, failed⟩ := List.mem_map.mp (mem_of_settle settled)
    have proper := Scan.candidates_named named job.2 ((mem_jobsOf hints).mp ⟨job.1, inside⟩)
    exact ⟨failure, generate_eq_error_iff.mpr settled, process_failure valid proper failed⟩

/-- A trait that gives its client no name is understood, and the client is named for the trait and
the suffix of the settings, which together are an identifier. Its code is refused exactly if they
are a keyword, or if it would be refused under every name; and if they are a keyword, the run
fails. -/
theorem default_name_iff {config : Config} (valid : config.validate = .ok ())
    {units : List SourceUnit} (named : ∀ unit ∈ units, unit.IsNamed) {candidate : Candidate}
    (scanned : candidate ∈ (Scan.ofUnits units).candidates) {item : Source.Trait}
    (declared : candidate.declaration = .trait item)
    (plain : Lowering.isGeneric item.generics = false)
    (unnamed : Lowering.clientName candidate.imports item = .ok none) :
    ∃ lowered, Lowering.client candidate item (Symbols.ofUnits units) config = .ok lowered ∧
      ∀ definition, lowered.definition = some definition →
        Ident.ofWritten? (item.name.text ++ config.clientSuffix) = some definition.name ∧
        (∀ context hint, Emission.Context.ofConfig config = .ok context →
          (process config (Symbols.ofUnits units) (hint, candidate) = .error .emission ↔
            item.name.text ++ config.clientSuffix ∈ keywords ∨
              ∀ other, other.isName = true →
                Emission.render
                  (Emission.clientTokens context (definition.validate.1.named other)) hint
                  candidate.kind candidate.identity = .error .emission)) ∧
        (item.name.text ++ config.clientSuffix ∈ keywords → ∀ hints, ∃ failure,
          (generate config false hints units).1 = .error failure ∧
            (failure = .emission ∨ failure.isAbrupt = true)) := by
  have proper : item.name.IsProper := by
    have proper := Scan.candidates_named named candidate scanned
    rwa [declared] at proper
  obtain ⟨lowered, understood, called⟩ := Lowering.client_default (Symbols.ofUnits units) proper
    valid plain unnamed
  refine ⟨lowered, understood, fun definition defined => ?_⟩
  have refused_iff (context : Emission.Context) (hint : String)
      (made : Emission.Context.ofConfig config = .ok context) :
      process config (Symbols.ofUnits units) (hint, candidate) = .error .emission ↔
        item.name.text ++ config.clientSuffix ∈ keywords ∨
          ∀ other, other.isName = true →
            Emission.render
              (Emission.clientTokens context (definition.validate.1.named other)) hint
              candidate.kind candidate.identity = .error .emission := by
    have kept : definition.validate.1 =
        definition.validate.1.named (Lowering.defaultName item config) := by
      rw [← called definition defined]
      rfl
    rw [process_eq_emission_iff declared made understood defined, ← Lowering.defaultName_isName]
    conv_lhs => rw [kept]
    exact Emission.render_named_iff (Config.runtime_isName valid made) definition.validate.1 _
  refine ⟨?_, refused_iff, fun reserved => generate_failure valid named scanned fun hint => ?_⟩
  · rw [called definition defined]
    exact Lowering.ofWritten?_default proper valid
  · cases made : Emission.Context.ofConfig config with
    | error failure => exact ⟨failure, by simp [process, made, bind, Except.bind]⟩
    | ok context => exact ⟨.emission, (refused_iff context hint made).mpr (.inl reserved)⟩

/-! ### A trait and a suffix that spell a keyword -/

/-- The attribute `#[restgen::api_client]`. -/
def bareMarker : Source.Attribute :=
  ⟨false, ⟨false, [⟨.plain "restgen", .none⟩, ⟨.plain "api_client", .none⟩]⟩, .none⟩

/-- The trait `trait a {}` with that attribute. -/
def bareTrait : Source.Trait :=
  ⟨[bareMarker], .inherited, false, false, .plain "a", ⟨[], false, none⟩, [], false, []⟩

/-- A unit with that trait. -/
def bareUnit : SourceUnit := ⟨"src/lib.rs", [], ⟨[], [.trait bareTrait]⟩⟩

/-- What a scan finds in the unit. -/
def bareCandidate : Candidate := ⟨⟨[], "a"⟩, .client, ⟨[], [], []⟩, .trait bareTrait⟩

/-- Settings whose suffix makes `as` of the name of the trait. -/
def shortConfig : Config := { clientSuffix := "s" }

theorem shortConfig_valid : shortConfig.validate = .ok () :=
  Config.validate_eq_ok_iff.mpr
    ⟨by decide, by decide, Ident.isNameText_of_made ofWritten?_restgen (by decide)⟩

theorem bareUnit_named : bareUnit.IsNamed :=
  have made : Ident.ofWritten? "a" = some (.plain "a") := by cbv
  ⟨(Ident.ofWritten?_eq_some_iff.mp made).2, trivial⟩

theorem bareTrait_unnamed : Lowering.clientName ⟨[], [], []⟩ bareTrait = .ok none := rfl

theorem candidates_bareUnit : (Scan.ofUnits [bareUnit]).candidates = [bareCandidate] := by
  cbv

theorem jobsOf_bareUnit : jobsOf .empty [bareUnit] = [("a.client", bareCandidate)] := by
  cbv

theorem client_bareTrait :
    Lowering.client bareCandidate bareTrait (Symbols.ofUnits [bareUnit]) shortConfig =
      .ok ⟨some ⟨⟨[], "a"⟩, .plain "a", .plain "as", .inherited, false, []⟩, []⟩ := by
  cbv

theorem exists_context_short : ∃ context, Emission.Context.ofConfig shortConfig = .ok context :=
  (Emission.Context.exists_ofConfig_iff shortConfig_valid).mpr
    (Ident.not_isPadded ofWritten?_restgen)

theorem default_name_iff_short :
    (∃ definition, Lowering.client bareCandidate bareTrait (Symbols.ofUnits [bareUnit])
        shortConfig = .ok ⟨some definition, []⟩ ∧
      Ident.ofWritten? "as" = some definition.name) ∧
    process shortConfig (Symbols.ofUnits [bareUnit]) ("a.client", bareCandidate) =
      .error .emission ∧
    ∃ failure, (generate shortConfig false .empty [bareUnit]).1 = .error failure ∧
      (failure = .emission ∨ failure.isAbrupt = true) := by
  have scanned : bareCandidate ∈ (Scan.ofUnits [bareUnit]).candidates := by
    simp [candidates_bareUnit]
  obtain ⟨lowered, understood, follows⟩ := default_name_iff shortConfig_valid
    (by simp [bareUnit_named]) scanned rfl rfl bareTrait_unnamed
  obtain rfl := Except.ok.inj (client_bareTrait.symm.trans understood)
  obtain ⟨called, refused_iff, ends⟩ := follows _ rfl
  obtain ⟨context, ofConfig⟩ := exists_context_short
  have reserved : "a" ++ "s" ∈ keywords := by decide
  exact ⟨⟨_, understood, called⟩, (refused_iff context "a.client" ofConfig).mpr (.inl reserved),
    ends reserved .empty⟩

/-- Settings that can be used, and a trait that gives its client no name, but the code is refused,
and with it the run. -/
theorem suffix_spells_keyword :
    shortConfig.validate = .ok () ∧ (Scan.ofUnits [bareUnit]).candidates = [bareCandidate] ∧
      Lowering.isGeneric bareTrait.generics = false ∧
      Lowering.clientName ⟨[], [], []⟩ bareTrait = .ok none ∧ "as" ∈ keywords ∧
      (generate shortConfig false .empty [bareUnit]).1 = .error .emission := by
  refine ⟨shortConfig_valid, candidates_bareUnit, rfl, bareTrait_unnamed, by decide, ?_⟩
  obtain ⟨context, ofConfig⟩ := exists_context_short
  have usable := Config.runtime_isName shortConfig_valid ofConfig
  have stumbles : process shortConfig (Symbols.ofUnits [bareUnit]) ("a.client", bareCandidate) =
      .error .emission :=
    (process_eq_emission_iff rfl ofConfig client_bareTrait rfl).mpr
      ((Emission.render_named_iff usable _ (.plain "as")).mpr (.inl (by decide)))
  rw [generate_eq_error_iff, jobsOf_bareUnit, List.map_singleton, stumbles]
  rfl

end Run

end Endpoint
