import Endpoint.Proofs.Command
import Endpoint.Proofs.Output.Copying

/-!
Dry runs. Main statement: what a dry run leaves behind are the copies for debugging and nothing
else, so that it leaves nothing behind where the settings name no directory for them.
-/

namespace Endpoint.Command

open Disk (FileSystem LawfulFileSystem QuietFileSystem Tree tree)
open Output (Copied)

/-- The copies that go out of a call: those of its units, if it comes to any. -/
def copies {m : Type → Type} [Monad m] [FileSystem m] (options : Options) :
    m (List (String × GeneratedUnit)) := do
  match ← lookUp options with
  | .error _ => return []
  | .ok (config, units) => return copiesOf config Hints.empty units

variable {σ : Type} [FileSystem (StateM σ)]

theorem produce_dryRun {options : Options} (dry : options.dryRun = true) (config : Config)
    (units : List SourceUnit) (state : σ) :
    (Disk.run (produce options config units) state).2 =
      (Disk.run (dumpAll (copiesOf config .empty units)) state).2 := by
  rw [← generateAndDump_run]
  unfold produce
  rw [Disk.run_bind]
  cases (Disk.run (generateAndDump config .empty units) state).1.1 with
  | error failure => rfl
  | ok report =>
    dsimp only [finish]
    rw [if_pos dry]
    rfl

/-- Without a directory for copies there are none. -/
theorem copies_nowhere {options : Options} {config : Config} {state : σ}
    (resolved : (Disk.run (resolveConfig options) state).1 = .ok config)
    (nowhere : config.dumpDirectory = none) : (Disk.run (copies options) state).1 = [] := by
  unfold copies lookUp
  simp only [Disk.run_bind, resolved]
  rcases (Disk.run (SourceUnit.loadAll _ _) (_ : σ)).1 with _ | units
  · rfl
  · dsimp only [Except.map, Disk.run_pure, copiesOf]
    rw [nowhere]
    split <;> simp_all

variable [QuietFileSystem σ]

theorem run_dryRun {arguments : List String} {options : Options}
    (understood : Options.read? arguments = some options) (dry : options.dryRun = true)
    (state : σ) :
    (Disk.run (run arguments) state).2 =
      (Disk.run (dumpAll (Disk.run (copies options) state).1) state).2 := by
  have looks := lookUp_quiet options state
  unfold run copies
  rw [understood]
  dsimp only
  rw [run_runWith, Disk.run_bind]
  rcases looked : Disk.run (lookUp options) state with ⟨_ | ⟨config, units⟩, after⟩
  · rw [looked] at looks
    exact looks
  · rw [looked] at looks
    obtain rfl : after = state := looks
    exact produce_dryRun dry config units after

/-- A dry run does to the file system what putting its copies where they go does: it touches their
files and makes the directories that these need. Without copies, in particular if the settings name
no directory for them, it leaves the file system as it was. -/
theorem dryRun_leaves_copies [LawfulFileSystem σ] {arguments : List String} {options : Options}
    (understood : Options.read? arguments = some options) (dry : options.dryRun = true)
    (state : σ) :
    (Disk.run (run arguments) state).2 =
        (Disk.run (dumpAll (Disk.run (copies options) state).1) state).2 ∧
      Copied (Disk.run (copies options) state).1 (tree state)
        (tree (Disk.run (run arguments) state).2) ∧
      ((Disk.run (copies options) state).1 = [] → (Disk.run (run arguments) state).2 = state) ∧
      ∀ config, (Disk.run (resolveConfig options) state).1 = .ok config →
        config.dumpDirectory = none → (Disk.run (run arguments) state).2 = state := by
  have same := run_dryRun understood dry state
  have without (nothing : (Disk.run (copies options) state).1 = []) :
      (Disk.run (run arguments) state).2 = state := by
    rw [same, nothing]
    rfl
  refine ⟨same, ?_, without, fun config resolved nowhere => without ?_⟩
  · rw [same]
    exact Output.dumpAll_copied _ state
  · exact copies_nowhere resolved nowhere

/-- A directory with the file `a.rs`, in which a trait is marked. -/
def markedTree : Tree where
  entries := Tree.fresh.entries ++ [(["tmp", "work", "a.rs"],
    .file "#[restgen::api_client] trait Api \x7b #[get(\"/\")] fn list(&self); \x7d")]
  current := Tree.fresh.current

theorem dryRun_leaves_copies_marked :
    (Disk.run (run ["-i", "a.rs", "--dry-run", "-o", "out"]) markedTree).2 = markedTree := by
  have understood : Options.read? ["-i", "a.rs", "--dry-run", "-o", "out"] =
      some { inputs := ["a.rs"], dryRun := true, output := some "out" } := rfl
  have resolved : (Disk.run (resolveConfig
      { inputs := ["a.rs"], dryRun := true, output := some "out" }) markedTree).1 = .ok {} :=
    eq_ok_of_toOption (by decide +kernel)
  obtain ⟨-, -, -, without⟩ := dryRun_leaves_copies understood rfl markedTree
  exact without {} resolved rfl

end Endpoint.Command
