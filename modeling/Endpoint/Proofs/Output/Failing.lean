import Endpoint.Output
import Endpoint.Proofs.Disk.FileSystem

/-!
How writing units to a directory fails: only by a write that is refused, on every file system.
-/

namespace Endpoint

open Disk (FileSystem run)

/-- Whether the failure is a write that was refused. -/
def Failure.isWrite : Failure → Bool
  | .write .. => true
  | _ => false

namespace Output

/-- A program that fails by refused writes only. -/
def FailsByWriting (program : StateM σ (Except Failure α)) : Prop :=
  ∀ state failure, (run program state).1 = .error failure → failure.isWrite = true

namespace FailsByWriting

theorem ok (value : α) : FailsByWriting (σ := σ) (pure (.ok value)) := by
  intro state failure failed
  cases failed

theorem write (path : String) (fault : Disk.Fault) :
    FailsByWriting (σ := σ) (α := α) (pure (.error (.write path fault))) := by
  intro state failure failed
  obtain rfl := Except.error.inj failed
  rfl

theorem ofWriting (path : String) (outcome : Except Disk.Fault α) :
    FailsByWriting (σ := σ) (pure (writing path outcome)) := by
  cases outcome with
  | ok value => exact .ok value
  | error fault => exact .write path fault

/-- It does not matter what was looked up before. -/
theorem behind {program : StateM σ α} {next : α → StateM σ (Except Failure β)}
    (each : ∀ value, FailsByWriting (next value)) : FailsByWriting (program >>= next) :=
  fun _ failure failed => each _ _ failure failed

/-- The failure of a first step ends the program. -/
theorem andThen {program : StateM σ (Except Failure α)}
    {next : Except Failure α → StateM σ (Except Failure β)} (first : FailsByWriting program)
    (passes : ∀ failure, next (.error failure) = pure (.error failure))
    (done : ∀ value, FailsByWriting (next (.ok value))) : FailsByWriting (program >>= next) := by
  intro state failure failed
  rw [Disk.run_bind] at failed
  cases outcome : (run program state).1 with
  | ok value =>
    rw [outcome] at failed
    exact done value _ failure failed
  | error own =>
    rw [outcome, passes] at failed
    obtain rfl := Except.error.inj failed
    exact first _ own outcome

theorem map {program : StateM σ (Except Failure α)} (first : FailsByWriting program) (f : α → β) :
    FailsByWriting (program >>= fun outcome => pure (outcome.map f)) :=
  first.andThen (fun _ => rfl) fun value => .ok (f value)

end FailsByWriting

variable {σ : Type} [FileSystem (StateM σ)]

theorem makeParent_fails (path : String) : FailsByWriting (σ := σ) (makeParent path) := by
  unfold makeParent
  split
  · exact .ok ()
  · split
    · exact .ok ()
    · exact .behind fun outcome => .ofWriting _ outcome

theorem writeAtomic_fails (path text : String) :
    FailsByWriting (σ := σ) (writeAtomic path text) := by
  unfold writeAtomic
  refine (makeParent_fails path).andThen (fun _ => rfl) fun _ => .behind fun written => ?_
  cases written with
  | ok _ => exact .behind fun outcome => .ofWriting _ outcome
  | error fault => exact .write _ fault

theorem writeIfChanged_fails (path text : String) :
    FailsByWriting (σ := σ) (writeIfChanged path text) := by
  unfold writeIfChanged
  refine .behind fun found => ?_
  cases found with
  | ok held =>
    dsimp only
    split
    · exact .ok false
    · exact (writeAtomic_fails path text).map _
  | error _ => exact (writeAtomic_fails path text).map _

theorem writeEach_fails (directory : String) (units : List GeneratedUnit) :
    FailsByWriting (σ := σ) (writeEach directory units) := by
  induction units with
  | nil => exact .ok []
  | cons unit rest ih =>
    unfold writeEach
    exact (writeIfChanged_fails _ _).andThen (fun _ => rfl) fun _ => ih.map _

theorem removeIfStale_fails (keep : List String) (path : String) :
    FailsByWriting (σ := σ) (removeIfStale keep path) := by
  unfold removeIfStale
  split
  · exact .ok ()
  · refine .behind fun found => ?_
    cases found with
    | error _ => exact .ok ()
    | ok text =>
      dsimp only
      split
      · exact .behind fun outcome => .ofWriting _ outcome
      · exact .ok ()

theorem removeEachStale_fails (keep paths : List String) :
    FailsByWriting (σ := σ) (removeEachStale keep paths) := by
  induction paths with
  | nil => exact .ok ()
  | cons path rest ih =>
    unfold removeEachStale
    exact (removeIfStale_fails keep path).andThen (fun _ => rfl) fun _ => ih

theorem removeStale_fails (directory : String) (keep : List String) :
    FailsByWriting (σ := σ) (removeStale directory keep) := by
  unfold removeStale
  refine .behind fun listed => ?_
  cases listed with
  | error _ => exact .ok ()
  | ok names => exact removeEachStale_fails keep _

theorem writeUnits_fails (directory : String) (units : List GeneratedUnit) :
    FailsByWriting (σ := σ) (writeUnits directory units) := by
  unfold writeUnits
  exact (writeEach_fails directory units).andThen (fun _ => rfl) fun _ =>
    (removeStale_fails directory _).map _

end Output

end Endpoint
