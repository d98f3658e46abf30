import Endpoint.Build
import Endpoint.Proofs.Disk.FileSystem
import Endpoint.Proofs.Output.Failing

/-!
What a build does to the file system before it writes: it looks for settings and files, and a run
that comes to no report ends without a trace.
-/

namespace Endpoint

open Disk (FileSystem Quiet QuietFileSystem run)

variable {σ : Type} [FileSystem (StateM σ)]

/-! ### Generating -/

/-- The copies that go out of a run: each with the directory that it goes to. -/
def copiesOf (config : Config) (hints : Hints) (units : List SourceUnit) :
    List (String × GeneratedUnit) :=
  match config.validate, (generate config false hints units).1, config.dumpDirectory with
  | .ok _, .ok report, some directory => report.units.map (directory, ·)
  | _, _, _ => []

/-- Puts every copy where it goes. -/
def dumpAll {m : Type → Type} [Monad m] [FileSystem m] (copies : List (String × GeneratedUnit)) :
    m Unit :=
  copies.forM fun copy => dump copy.1 copy.2

theorem dumpAll_map (directory : String) (units : List GeneratedUnit) :
    dumpAll (units.map (directory, ·)) = (units.forM (dump directory) : StateM σ Unit) := by
  unfold dumpAll
  rw [List.forM_eq_forM, List.forM_map]
  rfl

/-- All that a run leaves behind are its copies. -/
theorem generateAndDump_run (config : Config) (hints : Hints) (units : List SourceUnit)
    (state : σ) :
    (run (generateAndDump config hints units) state).2 =
      (run (dumpAll (copiesOf config hints units)) state).2 := by
  unfold generateAndDump copiesOf
  cases config.validate with
  | error failure => rfl
  | ok _ =>
    dsimp only
    cases (generate config false hints units).1 with
    | error failure => rfl
    | ok report =>
      cases config.dumpDirectory with
      | none => rfl
      | some directory =>
        rw [dumpAll_map]
        rfl

/-- A run without a report has no copies. -/
theorem copiesOf_failed {config : Config} {hints : Hints} {units : List SourceUnit} {state : σ}
    {failure : Failure}
    (failed : (run (generateAndDump config hints units) state).1.1 = .error failure) :
    copiesOf config hints units = [] := by
  unfold generateAndDump at failed
  unfold copiesOf
  cases valid : config.validate with
  | error own => rfl
  | ok _ =>
    cases result : (generate config false hints units).1 with
    | error own => rfl
    | ok report =>
      rw [valid] at failed
      dsimp only at failed
      rw [result] at failed
      cases directory : config.dumpDirectory with
      | none => rfl
      | some _ =>
        rw [directory] at failed
        cases failed

theorem generateAndDump_failed {config : Config} {hints : Hints} {units : List SourceUnit}
    {state : σ} {failure : Failure}
    (failed : (run (generateAndDump config hints units) state).1.1 = .error failure) :
    (run (generateAndDump config hints units) state).2 = state := by
  rw [generateAndDump_run, copiesOf_failed failed]
  rfl

variable [QuietFileSystem σ]

/-! ### Looking -/

theorem Config.load_quiet (path : String) : Quiet (σ := σ) (load path) := by
  unfold load
  refine (QuietFileSystem.read path).bind fun found => ?_
  cases found <;> exact .pure _

theorem Config.discover_quiet (directory : String) : Quiet (σ := σ) (discover directory) := by
  unfold discover
  refine (QuietFileSystem.isFile _).bind fun there => ?_
  split
  · exact load_quiet _
  · exact .pure _

theorem SourceUnit.load_quiet (root : Option String) (path : String) :
    Quiet (σ := σ) (load root path) := by
  unfold load
  refine (QuietFileSystem.read path).bind fun found => ?_
  cases found <;> exact .pure _

theorem SourceUnit.loadAll_quiet (root : Option String) (paths : List String) :
    Quiet (σ := σ) (loadAll root paths) := by
  induction paths with
  | nil => exact .pure _
  | cons path rest ih =>
    unfold loadAll
    refine (load_quiet root path).bind fun loaded => ?_
    cases loaded with
    | error failure => exact .pure _
    | ok unit => exact ih.bind fun _ => .pure _

theorem Build.resolveConfig_quiet (build : Build) (environment : Environment) :
    Quiet (σ := σ) (build.resolveConfig environment) := by
  unfold resolveConfig
  split
  · exact .pure _
  · exact Config.load_quiet _
  · exact Config.discover_quiet _

/-! ### Building -/

/-- A build that fails by anything but a refused write leaves no trace. -/
theorem Build.produce_failed {build : Build} {config : Config} {hints : Hints} {directory : String}
    {state : σ} {failure : Failure} (other : failure.isWrite = false)
    (failed : (run (build.produce config hints directory) state).1 = .error failure) :
    (run (build.produce config hints directory) state).2 = state := by
  have loads := SourceUnit.loadAll_quiet build.sourceRoot build.files state
  unfold produce at failed ⊢
  rw [Disk.run_bind, loads] at failed ⊢
  cases loaded : (run (SourceUnit.loadAll build.sourceRoot build.files) state).1 with
  | error own => rfl
  | ok units =>
    rw [loaded] at failed
    dsimp only at failed ⊢
    rw [Disk.run_bind] at failed ⊢
    cases generated : (run (generateAndDump config hints units) state).1.1 with
    | error own =>
      rw [generateAndDump_failed generated]
      rfl
    | ok report =>
      rw [generated] at failed
      have fails := Output.writeUnits_fails (σ := σ) directory report.units
      have written := fails.map (fun _ => report) _ _ failed
      simp [other] at written

theorem Build.compile_failed {build : Build} {environment : Environment} {hints : Hints}
    {state : σ} {failure : Failure} (other : failure.isWrite = false)
    (failed : (run (build.compile environment hints) state).1.1 = .error failure) :
    (run (build.compile environment hints) state).2 = state := by
  have looks := build.resolveConfig_quiet environment state
  unfold compile at failed ⊢
  cases target : build.outDirectory? environment with
  | none => rfl
  | some directory =>
    rw [target] at failed
    dsimp only at failed ⊢
    rw [Disk.run_bind, looks] at failed ⊢
    cases resolved : (run (build.resolveConfig environment) state).1 with
    | error own => rfl
    | ok config =>
      rw [resolved] at failed
      dsimp only at failed ⊢
      rw [Disk.run_bind] at failed ⊢
      cases produced :
          (run (build.produce (withDump config environment) hints directory) state).1 with
      | error own =>
        rw [produced] at failed
        obtain rfl := Except.error.inj failed
        exact produce_failed other produced
      | ok report =>
        rw [produced] at failed
        cases failed

end Endpoint
