import Endpoint.Proofs.Outcome
import Endpoint.Proofs.Run.Completeness
import Endpoint.Proofs.Scan.Named
import Endpoint.Proofs.Source.Name

/-!
Where a run needs an identifier it makes one of text that it has taken for a name before. Main
statement: it fails to make one exactly of padded text, which it takes for a name all the same.
-/

namespace Endpoint

open Source (Ident IsPadded NamedValue Trait isNameText)

/-! ### Settings -/

namespace Config

theorem validate_eq_ok_iff {config : Config} : config.validate = .ok () ↔
    config.clientSuffix.isEmpty = false ∧ config.clientSuffix.toList.all Char.isAlphanum = true ∧
      isNameText config.runtimeCrate = true := by
  unfold validate
  cases config.clientSuffix.isEmpty <;> cases config.clientSuffix.toList.all Char.isAlphanum <;>
    cases isNameText config.runtimeCrate <;> simp

/-- Settings that can be used have a suffix of letters and digits, and a name for the crate. -/
theorem of_validate {config : Config} (valid : config.validate = .ok ()) :
    config.clientSuffix.toList.all Char.isAlphanum = true ∧
      isNameText config.runtimeCrate = true :=
  (validate_eq_ok_iff.mp valid).2

end Config

/-- Settings that can be used have a context exactly if the name of their crate stands alone. -/
theorem Emission.Context.exists_ofConfig_iff {config : Config} (valid : config.validate = .ok ()) :
    (∃ context, ofConfig config = .ok context) ↔ ¬IsPadded config.runtimeCrate := by
  rw [← Ident.exists_ofWritten?_iff (Config.of_validate valid).2, ofConfig]
  cases Ident.ofWritten? config.runtimeCrate <;> simp

/-! ### Names of clients -/

namespace Lowering

theorem nameOfArguments_accepted {before : Option String} {arguments : List NamedValue}
    {text : String} (known : ∀ name, before = some name → isNameText name = true)
    (given : nameOfArguments before arguments = .ok (some text)) : isNameText text = true := by
  induction arguments generalizing before with
  | nil =>
    obtain rfl := Except.ok.inj given
    exact known text rfl
  | cons argument rest ih =>
    unfold nameOfArguments at given
    split at given
    · cases given
    · split at given
      · cases given
      · split at given
        · rename_i accepted
          exact ih (by rintro _ ⟨⟩; exact accepted) given
        · cases given

/-- The name that a trait gives its client has been taken for one. -/
theorem clientName_accepted {imports : Imports} {item : Trait} {text : String}
    (given : clientName imports item = .ok (some text)) : isNameText text = true := by
  unfold clientName at given
  split at given
  · unfold markerName at given
    split at given
    · cases given
    · cases given
    · split at given
      · cases given
      · exact nameOfArguments_accepted (by simp) given
  · cases given

/-- Of text that has been taken for a name, an identifier is made exactly if it is not padded. -/
theorem exists_identifier_iff {text : String} (accepted : isNameText text = true) :
    (∃ name, identifier text = .ok name) ↔ ¬IsPadded text := by
  rw [← Ident.exists_ofWritten?_iff accepted, identifier]
  cases Ident.ofWritten? text <;> simp

theorem identifier_eq_error_iff {text : String} (accepted : isNameText text = true)
    {failure : Failure} :
    identifier text = .error failure ↔ IsPadded text ∧ failure = .identifier text := by
  rw [← Ident.ofWritten?_eq_none_iff accepted, identifier]
  cases Ident.ofWritten? text <;> simp [eq_comm]

/-- The name that a client gets without one of its own is an identifier. -/
theorem ofWritten?_default {name : Ident} (proper : name.IsProper) {config : Config}
    (valid : config.validate = .ok ()) :
    Ident.ofWritten? (name.text ++ config.clientSuffix) =
      some ⟨name.text ++ config.clientSuffix, false⟩ :=
  Ident.ofWritten?_eq_some_iff.mpr
    ⟨Ident.written_plain rfl, proper.append (Config.of_validate valid).1⟩

/-- Lowering stumbles over the padded name that a trait gives its client, and over nothing else. -/
theorem client_eq_error_iff {candidate : Candidate} {item : Trait} {symbols : Symbols}
    {config : Config} {failure : Failure} (proper : item.name.IsProper)
    (valid : config.validate = .ok ()) :
    client candidate item symbols config = .error failure ↔
      ∃ text, isGeneric item.generics = false ∧
        clientName candidate.imports item = .ok (some text) ∧ IsPadded text ∧
        failure = .identifier text := by
  unfold client
  cases generic : isGeneric item.generics with
  | true => simp [pure, Except.pure]
  | false =>
    simp only [Bool.false_eq_true, if_false, true_and]
    cases given : clientName candidate.imports item with
    | error reason => simp [pure, Except.pure]
    | ok name =>
      -- Only making the identifier can fail: what follows ends with a definition or diagnostics.
      have goesOn {rest : Ident → Except Failure (Lowered ClientDefinition)}
          (ends : ∀ made, ∃ lowered, rest made = .ok lowered) (text : String) :
          (identifier text >>= rest = .error failure ↔ identifier text = .error failure) := by
        rw [bind_eq_error]
        refine or_iff_left ?_
        rintro ⟨made, -, failed⟩
        obtain ⟨lowered, ended⟩ := ends made
        rw [ended] at failed
        cases failed
      dsimp only
      rw [goesOn]
      · cases name with
        | none => simp [identifier, ofWritten?_default proper valid]
        | some text =>
          rw [Option.getD_some, identifier_eq_error_iff (clientName_accepted given)]
          simp
      · intro made
        split <;> exact ⟨_, rfl⟩

end Lowering

/-! ### Declarations -/

namespace Run

/-- The padded text that a run takes for a name where it needs an identifier for a declaration. -/
inductive Misspelled (config : Config) (candidate : Candidate) : String → Prop
  /-- The crate that all emitted code calls. -/
  | runtime : IsPadded config.runtimeCrate → Misspelled config candidate config.runtimeCrate
  /-- The name that a trait gives its client. -/
  | client {item : Trait} {text : String} : ¬IsPadded config.runtimeCrate →
      candidate.declaration = .trait item → Lowering.isGeneric item.generics = false →
      Lowering.clientName candidate.imports item = .ok (some text) → IsPadded text →
      Misspelled config candidate text

theorem render_ne_identifier {tokens : Source.Tokens} {hint : String} {kind : Kind}
    {source : Identity} (text : String) :
    Emission.render tokens hint kind source ≠ .error (.identifier text) := by
  unfold Emission.render
  split
  · simp
  · split <;> simp

theorem processClient_eq_error_iff {config : Config} {context : Emission.Context}
    {symbols : Symbols} {hint : String} {candidate : Candidate} {item : Trait} {text : String} :
    processClient config context symbols hint candidate item = .error (.identifier text) ↔
      Lowering.client candidate item symbols config = .error (.identifier text) := by
  unfold processClient
  rw [bind_eq_error]
  refine or_iff_left ?_
  rintro ⟨lowered, -, failed⟩
  split at failed
  · cases failed
  · dsimp only at failed
    rcases bind_eq_error.mp failed with refused | ⟨_, -, ended⟩
    · exact render_ne_identifier text refused
    · cases ended

theorem processEnum_ne_identifier {context : Emission.Context} {hint : String}
    {candidate : Candidate} {item : Source.Enum} (text : String) :
    processEnum context hint candidate item ≠ .error (.identifier text) := by
  intro failed
  unfold processEnum at failed
  dsimp only at failed
  split at failed
  · cases failed
  · split at failed
    · rcases bind_eq_error.mp failed with refused | ⟨_, -, ended⟩
      · exact render_ne_identifier text refused
      · cases ended
    · cases failed

/-- Processing a declaration makes identifiers of all but padded text. -/
theorem process_eq_error_iff {config : Config} (valid : config.validate = .ok ())
    {symbols : Symbols} {job : String × Candidate} (named : job.2.declaration.IsNamed)
    {text : String} :
    process config symbols job = .error (.identifier text) ↔ Misspelled config job.2 text := by
  unfold process Emission.Context.ofConfig
  by_cases padded : IsPadded config.runtimeCrate
  · rw [Ident.ofWritten?_padded padded]
    constructor
    · rintro ⟨⟩
      exact .runtime padded
    · rintro (_ | bare)
      · rfl
      · exact absurd padded bare
  · obtain ⟨runtime, made⟩ := (Ident.exists_ofWritten?_iff (Config.of_validate valid).2).mpr padded
    rw [made]
    dsimp only [bind, Except.bind]
    cases declared : job.2.declaration with
    | trait item =>
      rw [declared] at named
      dsimp only
      rw [processClient_eq_error_iff, Lowering.client_eq_error_iff named valid]
      constructor
      · rintro ⟨_, plain, given, more, ⟨⟩⟩
        exact .client padded declared plain given more
      · rintro (more | ⟨-, same, plain, given, more⟩)
        · exact absurd more padded
        · rw [declared] at same
          cases same
          exact ⟨text, plain, given, more, rfl⟩
    | enum item =>
      refine iff_of_false (processEnum_ne_identifier text) ?_
      rintro (more | ⟨-, same, -, -, -⟩)
      · exact padded more
      · rw [declared] at same
        cases same

/-! ### Settling -/

theorem mapM_id_error {results : List (Except ε α)} {failure : ε}
    (failed : results.mapM id = .error failure) : .error failure ∈ results := by
  induction results with
  | nil => cases failed
  | cons first rest ih =>
    simp only [List.mapM_cons, id, bind_eq_error, pure, Except.pure] at failed
    rcases failed with here | ⟨value, -, later | ⟨_, -, ended⟩⟩
    · exact here ▸ List.mem_cons_self
    · exact .tail _ (ih later)
    · cases ended

/-- The failure of a run is that of a declaration. -/
theorem mem_of_settle {results : List (Except Failure Processed)} {failure : Failure}
    (failed : settle results = .error failure) : .error failure ∈ results := by
  unfold settle at failed
  split at failed
  · rename_i found
    cases failed
    exact List.mem_of_find?_eq_some found
  · exact mapM_id_error failed

/-- A declaration whose failure ends a run at once ends it. -/
theorem settle_abrupt {results : List (Except Failure Processed)} {failure : Failure}
    (member : .error failure ∈ results) (abrupt : failure.isAbrupt = true) :
    ∃ other, settle results = .error other ∧ other.isAbrupt = true := by
  unfold settle
  cases found : results.find? isAbrupt with
  | none => simpa [isAbrupt, abrupt] using List.find?_eq_none.mp found _ member
  | some first =>
    have ends := List.find?_some found
    cases first with
    | ok value => cases ends
    | error other => exact ⟨other, rfl, ends⟩

/-! ### Runs -/

/-- The declarations that a run processes, each with its hint. -/
def jobsOf (hints : Hints) (units : List SourceUnit) : List (String × Candidate) :=
  (reserveAll hints ((Scan.ofUnits units).candidates.mergeSort sortsBefore)).1

theorem mem_jobsOf (hints : Hints) {units : List SourceUnit} {candidate : Candidate} :
    (∃ hint, (hint, candidate) ∈ jobsOf hints units) ↔
      candidate ∈ (Scan.ofUnits units).candidates := by
  have sorted := List.mergeSort_perm (Scan.ofUnits units).candidates sortsBefore
  rw [← sorted.mem_iff, ← reserveAll_candidates hints (List.mergeSort _ sortsBefore), List.mem_map]
  simp [jobsOf]

/-- A run that goes on fails as its declarations do. -/
theorem generate_eq_error_iff {config : Config} {hints : Hints} {units : List SourceUnit}
    {failure : Failure} :
    (generate config false hints units).1 = .error failure ↔
      settle ((jobsOf hints units).map (process config (Symbols.ofUnits units))) =
        .error failure := by
  unfold generate
  dsimp only
  rw [if_neg Bool.false_ne_true]
  dsimp only
  rw [bind_eq_error]
  refine or_iff_left ?_
  rintro ⟨_, -, ended⟩
  cases ended

theorem generate_identifier {config : Config} (valid : config.validate = .ok ())
    {cancelled : Bool} {hints : Hints} {units : List SourceUnit}
    (named : ∀ unit ∈ units, unit.IsNamed) {text : String}
    (failed : (generate config cancelled hints units).1 = .error (.identifier text)) :
    cancelled = false ∧
      ∃ candidate ∈ (Scan.ofUnits units).candidates, Misspelled config candidate text := by
  cases cancelled with
  | true => simp [generate] at failed
  | false =>
    obtain ⟨⟨hint, candidate⟩, member, stumbles⟩ :=
      List.mem_map.mp (mem_of_settle (generate_eq_error_iff.mp failed))
    have scanned := (mem_jobsOf hints).mp ⟨hint, member⟩
    have proper := Scan.candidates_named named candidate scanned
    exact ⟨rfl, candidate, scanned, (process_eq_error_iff valid proper).mp stumbles⟩

theorem generate_misspelled {config : Config} (valid : config.validate = .ok ()) (hints : Hints)
    {units : List SourceUnit} (named : ∀ unit ∈ units, unit.IsNamed) {candidate : Candidate}
    (scanned : candidate ∈ (Scan.ofUnits units).candidates) {text : String}
    (padded : Misspelled config candidate text) :
    ∃ failure, (generate config false hints units).1 = .error failure ∧
      failure.isAbrupt = true := by
  obtain ⟨hint, member⟩ := (mem_jobsOf hints).mpr scanned
  have proper := Scan.candidates_named named candidate scanned
  have stumbles : process config (Symbols.ofUnits units) (hint, candidate) =
      .error (.identifier text) := (process_eq_error_iff valid proper).mpr padded
  have result := List.mem_map_of_mem (f := process config (Symbols.ofUnits units)) member
  rw [stumbles] at result
  obtain ⟨failure, ended, abrupt⟩ := settle_abrupt result rfl
  exact ⟨failure, generate_eq_error_iff.mpr ended, abrupt⟩

end Run

/-- What becomes of text that was accepted as an identifier: of the crate that settings name, of the
name of a client, and of both in a run over named units, as all are that were read from text. It is
one exactly if it is not padded. The fields of structs are always made again of their written names.
A run makes identifiers of all text but padded text, and if it needs one of padded text it ends at
once. -/
theorem accepted_identifiers_iff {config : Config} (valid : config.validate = .ok ()) :
    ((∃ context, Emission.Context.ofConfig config = .ok context) ↔
      ¬IsPadded config.runtimeCrate) ∧
    (∀ imports item text, Lowering.clientName imports item = .ok (some text) →
      ((∃ name, Lowering.identifier text = .ok name) ↔ ¬IsPadded text)) ∧
    (∀ path module text unit, SourceUnit.read path module text = .ok unit → unit.IsNamed) ∧
    ∀ (cancelled : Bool) (hints : Hints) (units : List SourceUnit),
      (∀ unit ∈ units, unit.IsNamed) →
      (∀ entry ∈ Symbols.ofUnits units, ∀ held ∈ entry.2,
        Ident.ofWritten? held.field.written = some held.field) ∧
      (∀ text, (generate config cancelled hints units).1 = .error (.identifier text) →
        cancelled = false ∧
          ∃ candidate ∈ (Scan.ofUnits units).candidates, Run.Misspelled config candidate text) ∧
      (∀ candidate ∈ (Scan.ofUnits units).candidates, ∀ text,
        Run.Misspelled config candidate text → cancelled = false →
        ∃ failure, (generate config cancelled hints units).1 = .error failure ∧
          failure.isAbrupt = true) := by
  refine ⟨Emission.Context.exists_ofConfig_iff valid, ?_, ?_, ?_⟩
  · intro imports item text given
    exact Lowering.exists_identifier_iff (Lowering.clientName_accepted given)
  · intro path module text unit
    exact SourceUnit.read_named
  · intro cancelled hints units named
    refine ⟨?_, fun text => Run.generate_identifier valid named, ?_⟩
    · intro entry member held inside
      exact Ident.ofWritten?_eq_some_iff.mpr
        ⟨rfl, Symbols.ofUnits_named named entry member held inside⟩
    · rintro candidate scanned text padded rfl
      exact Run.generate_misspelled valid hints named scanned padded

/-! ### A trait that names its client -/

/-- The attribute `#[restgen::api_client(name = value)]`. -/
def callingMarker (value : String) : Source.Attribute where
  inner := false
  path := ⟨false, [⟨.plain "restgen", .none⟩, ⟨.plain "api_client", .none⟩]⟩
  content := .list .paren [.word "name", .punct '=' false, .literal value]

/-- The trait `trait Files {}` with that attribute. -/
def calledTrait (value : String) : Trait where
  attributes := [callingMarker value]
  visibility := .inherited
  isUnsafe := false
  isAuto := false
  name := .plain "Files"
  generics := ⟨[], false, none⟩
  bounds := []
  plus := false
  items := []

/-- A unit with that trait. -/
def calledUnit (value : String) : SourceUnit :=
  ⟨"src/files.rs", [], ⟨[], [.trait (calledTrait value)]⟩⟩

/-- What a scan finds in the unit. -/
def calledCandidate (value : String) : Candidate :=
  ⟨⟨[], "Files"⟩, .client, ⟨[], [], []⟩, .trait (calledTrait value)⟩

section

variable {value text : String}

theorem ofWritten?_files : Ident.ofWritten? "Files" = some (.plain "Files") := by
  cbv

theorem calledUnit_named : (calledUnit value).IsNamed :=
  ⟨(Ident.ofWritten?_eq_some_iff.mp ofWritten?_files).2, trivial⟩

theorem clientName_calledTrait (quoted : Text.unquote? value = some text)
    (accepted : isNameText text = true) :
    Lowering.clientName ⟨[], [], []⟩ (calledTrait value) = .ok (some text) := by
  have arguments : Lowering.clientArguments [.word "name", .punct '=' false, .literal value] =
      .ok [⟨.ofIdent (.plain "name"), .literal (.literal value)⟩] := by
    cbv
  have named : (Source.Path.ofIdent (.plain "name")).ident?.map Ident.written = some "name" := rfl
  calc Lowering.clientName ⟨[], [], []⟩ (calledTrait value)
    _ = Lowering.markerName (callingMarker value) := rfl
    _ = Lowering.nameOfArguments none
          [⟨.ofIdent (.plain "name"), .literal (.literal value)⟩] := by
      simp [callingMarker, Lowering.markerName, arguments]
    _ = .ok (some text) := by
      simp [Lowering.nameOfArguments, named, Source.Expr.stringValue?, Source.Token.stringValue?,
        quoted, accepted]

theorem jobsOf_calledUnit :
    Run.jobsOf .empty [calledUnit value] = [("Files.client", calledCandidate value)] := by
  cbv

theorem generate_calledUnit {config : Config} (valid : config.validate = .ok ())
    (wrong : Run.Misspelled config (calledCandidate value) text) :
    (generate config false .empty [calledUnit value]).1 = .error (.identifier text) := by
  have named : (calledCandidate value).declaration.IsNamed := calledUnit_named.1
  have stumbles : Run.process config (Symbols.ofUnits [calledUnit value])
      ("Files.client", calledCandidate value) = .error (.identifier text) :=
    (Run.process_eq_error_iff valid named).mpr wrong
  rw [Run.generate_eq_error_iff, jobsOf_calledUnit, List.map_singleton, stumbles]
  rfl

end

theorem ofWritten?_restgen : Ident.ofWritten? "restgen" = some (.plain "restgen") := by
  cbv

theorem isPadded_blanks : IsPadded " restgen" ∧ IsPadded " Files " :=
  ⟨(Ident.ofWritten?_eq_none_iff (by decide +kernel)).mp (by decide +kernel),
    (Ident.ofWritten?_eq_none_iff (by decide +kernel)).mp (by decide +kernel)⟩

theorem default_valid : Config.validate {} = .ok () :=
  Config.validate_eq_ok_iff.mpr
    ⟨by decide, by decide, Ident.isNameText_of_made ofWritten?_restgen (by decide)⟩

/-- The name of the trait is a name for its client, bare or padded. -/
theorem clientName_files :
    Lowering.clientName ⟨[], [], []⟩ (calledTrait "\"Files\"") = .ok (some "Files") ∧
      Lowering.clientName ⟨[], [], []⟩ (calledTrait "\" Files \"") = .ok (some " Files ") :=
  ⟨clientName_calledTrait (by cbv) (Ident.isNameText_of_made ofWritten?_files (by decide)),
    clientName_calledTrait (by cbv) isPadded_blanks.2.isNameText⟩

theorem accepted_identifiers_iff_files :
    (∃ context, Emission.Context.ofConfig {} = .ok context) ∧
      (∃ name, Lowering.identifier "Files" = .ok name) ∧
      (∃ unit, SourceUnit.read "a.rs" [] "#[restgen::api_client] trait Api \x7b\x7d" = .ok unit ∧
        unit.IsNamed) ∧
      (∃ candidate ∈ (Scan.ofUnits [calledUnit "\" Files \""]).candidates,
        Run.Misspelled {} candidate " Files ") ∧
      ∃ failure, (generate {} false .empty [calledUnit "\" Files \""]).1 = .error failure ∧
        failure.isAbrupt = true := by
  have wrong : Run.Misspelled {} (calledCandidate "\" Files \"") " Files " :=
    .client (Ident.not_isPadded ofWritten?_restgen) rfl rfl clientName_files.2 isPadded_blanks.2
  obtain ⟨unit, found⟩ := Option.isSome_iff_exists.mp (show (SourceUnit.read "a.rs" []
    "#[restgen::api_client] trait Api \x7b\x7d").toOption.isSome = true by decide +kernel)
  have read := eq_ok_of_toOption found
  have named : ∀ unit ∈ [calledUnit "\" Files \""], unit.IsNamed := by
    simp [calledUnit_named]
  obtain ⟨ofSettings, ofTrait, ofText, ofRun⟩ := accepted_identifiers_iff default_valid
  obtain ⟨-, before, after⟩ := ofRun false .empty _ named
  obtain ⟨-, candidate, scanned, padded⟩ := before " Files " (generate_calledUnit default_valid wrong)
  exact ⟨ofSettings.mpr (Ident.not_isPadded ofWritten?_restgen),
    (ofTrait _ _ "Files" clientName_files.1).mpr (Ident.not_isPadded ofWritten?_files),
    ⟨unit, read, ofText _ _ _ unit read⟩,
    ⟨candidate, scanned, padded⟩, after candidate scanned " Files " padded rfl⟩

/-- Settings with a blank in front of the name of the crate can be used, and a trait may give its
client a name between blanks, but no identifier is made of either: both runs end at once. -/
theorem blanks_end_run :
    Config.validate { runtimeCrate := " restgen" } = .ok () ∧
      Emission.Context.ofConfig { runtimeCrate := " restgen" } =
        .error (.identifier " restgen") ∧
      (generate { runtimeCrate := " restgen" } false .empty [calledUnit "\"Files\""]).1 =
        .error (.identifier " restgen") ∧
      Lowering.clientName ⟨[], [], []⟩ (calledTrait "\" Files \"") = .ok (some " Files ") ∧
      Lowering.identifier " Files " = .error (.identifier " Files ") ∧
      (generate {} false .empty [calledUnit "\" Files \""]).1 = .error (.identifier " Files ") := by
  have valid : Config.validate { runtimeCrate := " restgen" } = .ok () :=
    Config.validate_eq_ok_iff.mpr ⟨by decide, by decide, isPadded_blanks.1.isNameText⟩
  refine ⟨valid, ?_, generate_calledUnit valid (.runtime isPadded_blanks.1), clientName_files.2, ?_,
    generate_calledUnit default_valid (.client (Ident.not_isPadded ofWritten?_restgen) rfl rfl
      clientName_files.2 isPadded_blanks.2)⟩
  · rw [Emission.Context.ofConfig, Ident.ofWritten?_padded isPadded_blanks.1]
  · rw [Lowering.identifier, Ident.ofWritten?_padded isPadded_blanks.2]

end Endpoint
