import Endpoint.Command
import Endpoint.Proofs.Build
import Endpoint.Proofs.Outcome

/-!
What calls of the command do to the file system: they look for settings and files, generate, and
write at last. Main statement: a build or call that fails by anything but a refused write leaves the
file system as it was.
-/

namespace Endpoint

open Disk (FileSystem Quiet QuietFileSystem Tree run)

namespace Command

section

variable {m : Type → Type} [Monad m] [FileSystem m]

/-- What a call looks up before it generates anything: its settings and its units. -/
def lookUp (options : Options) : m (Except Failure (Config × List SourceUnit)) := do
  match ← resolveConfig options with
  | .error failure => return .error failure
  | .ok config =>
    let files ← collectInputs options.inputs
    return (← SourceUnit.loadAll (some options.sourceRootOrDefault) files).map (config, ·)

/-- What a call does with what it has looked up. -/
def produce (options : Options) (config : Config) (units : List SourceUnit) : m Outcome := do
  match (← generateAndDump config Hints.empty units).1 with
  | .error failure => return .failed failure
  | .ok report => finish options report

end

variable {σ : Type} [FileSystem (StateM σ)]

/-- A call looks up first. -/
theorem run_runWith (options : Options) (state : σ) :
    Disk.run (runWith options) state =
      match Disk.run (lookUp options) state with
      | (.error failure, after) => (.failed failure, after)
      | (.ok (config, units), after) => Disk.run (produce options config units) after := by
  unfold runWith lookUp
  rw [Disk.run_bind, Disk.run_bind]
  cases (Disk.run (resolveConfig options) state).1 with
  | error failure => rfl
  | ok config =>
    simp only [Disk.run_bind, Disk.run_pure]
    cases (Disk.run (SourceUnit.loadAll _ _) (_ : σ)).1 with
    | error failure => rfl
    | ok units => rfl

theorem produce_failed {options : Options} {config : Config} {units : List SourceUnit} {state : σ}
    {failure : Failure} (other : failure.isWrite = false)
    (failed : (Disk.run (produce options config units) state).1 = .failed failure) :
    (Disk.run (produce options config units) state).2 = state := by
  unfold produce at failed ⊢
  rw [Disk.run_bind] at failed ⊢
  cases generated : (Disk.run (generateAndDump config .empty units) state).1.1 with
  | error own => exact generateAndDump_failed generated
  | ok report =>
    rw [generated] at failed
    dsimp only [finish] at failed
    split at failed
    · cases failed
    · rw [Disk.run_bind] at failed
      cases written : (Disk.run (writeUnits options.outputOrDefault report.units)
          (Disk.run (generateAndDump config .empty units) state).2).1 with
      | ok _ =>
        rw [written] at failed
        cases failed
      | error own =>
        rw [written] at failed
        obtain rfl := Outcome.failed.inj failed
        have refused := Output.writeUnits_fails _ _ _ _ written
        simp [other] at refused

/-! ### Looking -/

variable [QuietFileSystem σ]

theorem filesOf_quiet (input : String) : Quiet (σ := σ) (filesOf input) := by
  unfold filesOf
  refine (QuietFileSystem.isDirectory input).bind fun isDirectory => ?_
  split
  · exact (Disk.filesBelow_quiet input).bind fun _ => .pure _
  · exact .pure _

theorem collectInputs_quiet (inputs : List String) : Quiet (σ := σ) (collectInputs inputs) :=
  (Quiet.mapM filesOf_quiet inputs).bind fun _ => .pure _

theorem resolveConfig_quiet (options : Options) : Quiet (σ := σ) (resolveConfig options) := by
  unfold resolveConfig
  have settled (found : Except Failure Config) : Quiet (σ := σ) (match found with
      | .error failure => pure (.error failure)
      | .ok config =>
        pure ((override options config).validate.map fun _ => override options config)) := by
    cases found <;> exact .pure _
  cases options.config with
  | none => exact (Config.discover_quiet ".").bind settled
  | some path => exact (Config.load_quiet path).bind settled

theorem lookUp_quiet (options : Options) : Quiet (σ := σ) (lookUp options) := by
  unfold lookUp
  refine (resolveConfig_quiet options).bind fun found => ?_
  cases found with
  | error failure => exact .pure _
  | ok config =>
    exact (collectInputs_quiet _).bind fun _ => (SourceUnit.loadAll_quiet _ _).bind fun _ => .pure _

/-! ### Failing -/

theorem run_failed {arguments : List String} {state : σ} {failure : Failure}
    (other : failure.isWrite = false)
    (failed : (Disk.run (run arguments) state).1 = .failed failure) :
    (Disk.run (run arguments) state).2 = state := by
  unfold run at failed ⊢
  cases understood : Options.read? arguments with
  | none => rfl
  | some options =>
    rw [understood] at failed
    dsimp only at failed ⊢
    rw [run_runWith] at failed ⊢
    have looks := lookUp_quiet options state
    rcases looked : Disk.run (lookUp options) state with ⟨_ | ⟨config, units⟩, after⟩
    · rw [looked] at looks
      exact looks
    · rw [looked] at looks failed
      obtain rfl : after = state := looks
      exact produce_failed other failed

end Command

/-- A build or command that fails by anything but a refused write, whatever it has read, generated
and found wrong until then, leaves the file system as it was. -/
theorem failed_leaves_state {σ : Type} [FileSystem (StateM σ)] [QuietFileSystem σ]
    {failure : Failure} (other : failure.isWrite = false) (state : σ) :
    (∀ build environment hints,
      (run (Build.compile build environment hints) state).1.1 = .error failure →
      (run (Build.compile build environment hints) state).2 = state) ∧
    ∀ arguments, (run (Command.run arguments) state).1 = .failed failure →
      (run (Command.run arguments) state).2 = state :=
  ⟨fun _ _ _ => Build.compile_failed other, fun _ => Command.run_failed other⟩

/-- The failure of an outcome. -/
def Command.Outcome.failure? : Outcome → Option Failure
  | .failed failure => some failure
  | _ => none

theorem Command.Outcome.eq_failed {outcome : Outcome} {failure : Failure}
    (found : outcome.failure? = some failure) : outcome = .failed failure := by
  cases outcome with
  | failed own => exact congrArg _ (Option.some.inj found)
  | _ => cases found

/-- A directory with the file `src/a.rs`, in which a trait is begun but not ended. -/
def begunTree : Tree where
  entries := Tree.fresh.entries ++
    [(["tmp", "work", "src"], .directory),
      (["tmp", "work", "src", "a.rs"], .file "trait Api \x7b fn list(&self)")]
  current := Tree.fresh.current

/-- A build of the file with a directory for copies. -/
def begunBuild : Build where
  files := ["src/a.rs"]
  config := some { dumpDirectory := some "dump" }
  outDirectory := some "out"

/-- Arguments of a command that has no suffix for the names of clients. -/
def suffixless : List String := ["-i", "src/a.rs", "--dump-dir", "dump", "--client-suffix="]

theorem failed_leaves_state_begun :
    (run (begunBuild.compile {}) begunTree).1.1 = .error (.parse "src/a.rs") ∧
      (run (begunBuild.compile {}) begunTree).2 = begunTree ∧
      ∃ reason, (run (Command.run suffixless) begunTree).1 = .failed (.config reason) ∧
        (run (Command.run suffixless) begunTree).2 = begunTree := by
  have built : (run (begunBuild.compile {}) begunTree).1.1 = .error (.parse "src/a.rs") :=
    eq_error_of_failure? (by decide +kernel)
  have called : (run (Command.run suffixless) begunTree).1 =
      .failed (.config "client_suffix cannot be empty") :=
    Command.Outcome.eq_failed (by decide +kernel)
  exact ⟨built, (failed_leaves_state rfl begunTree).1 _ _ _ built, _, called,
    (failed_leaves_state rfl begunTree).2 _ called⟩

end Endpoint
