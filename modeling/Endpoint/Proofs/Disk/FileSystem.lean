import Endpoint.Proofs.Disk.Tree

/-!
File systems that hold a tree and may refuse what they are asked for, and what making directories
does on them.
-/

namespace Endpoint.Disk

/-! ### Programs -/

/-- The result of a program and the state that it leaves. -/
def run (program : StateM σ α) (state : σ) : α × σ := program state

@[simp] theorem run_pure (value : α) (state : σ) :
    run (pure value) state = (value, state) := rfl

@[simp] theorem run_bind (program : StateM σ α) (next : α → StateM σ β) (state : σ) :
    run (program >>= next) state = run (next (run program state).1) (run program state).2 := rfl

@[simp] theorem run_map (f : α → β) (program : StateM σ α) (state : σ) :
    run (f <$> program) state = (f (run program state).1, (run program state).2) := rfl

/-! ### Laws -/

/-- A step is done as on a tree, or it is refused and nothing happens. -/
inductive Stepped (step : Tree → Except Fault Tree) (before : Tree) :
    Except Fault Unit → Tree → Prop
  | done (did : step before = .ok after) : Stepped step before (.ok ()) after
  | refused (fault : Fault) : Stepped step before (.error fault) before

theorem Stepped.edits {step : Tree → Except Fault Tree} {before after : Tree}
    {result : Except Fault Unit} {touched : Place → Prop}
    (stepped : Stepped step before result after)
    (did : ∀ {after}, step before = .ok after → Tree.Edits touched before after) :
    Tree.Edits touched before after := by
  cases stepped with
  | done done => exact did done
  | refused => exact .refl touched before

/-- A text is written, or the write is refused; then the file may hold any part of a text. -/
inductive Wrote (path text : String) (before : Tree) : Except Fault Unit → Tree → Prop
  | done (did : before.write path text = .ok after) : Wrote path text before (.ok ()) after
  | refused (fault : Fault) : Wrote path text before (.error fault) before
  | broken (fault : Fault) (part : String) (did : before.write path part = .ok after) :
      Wrote path text before (.error fault) after

/-- A file system that holds a tree. It may refuse any step that changes the tree; all of them but
writing happen as a whole or not at all. -/
class LawfulFileSystem (σ : Type) [FileSystem (StateM σ)] where
  tree : σ → Tree
  read_eq (path : String) (state : σ) :
    run (FileSystem.read path) state = ((tree state).read path, state)
  names_eq (path : String) (state : σ) :
    run (FileSystem.names path) state = ((tree state).names path, state)
  isDirectory_eq (path : String) (state : σ) :
    run (FileSystem.isDirectory path) state = ((tree state).isDirectory path, state)
  wrote (path text : String) (state : σ) :
    Wrote path text (tree state) (run (FileSystem.write path text) state).1
      (tree (run (FileSystem.write path text) state).2)
  renamed (source target : String) (state : σ) :
    Stepped (·.rename source target) (tree state) (run (FileSystem.rename source target) state).1
      (tree (run (FileSystem.rename source target) state).2)
  madeDirectory (path : String) (state : σ) :
    Stepped (·.makeDirectory path) (tree state) (run (FileSystem.makeDirectory path) state).1
      (tree (run (FileSystem.makeDirectory path) state).2)
  removed (path : String) (state : σ) :
    Stepped (·.remove path) (tree state) (run (FileSystem.remove path) state).1
      (tree (run (FileSystem.remove path) state).2)

export LawfulFileSystem (tree)

/-! ### Trees -/

theorem Tree.attempt_stepped (step : Tree → Except Fault Tree) (tree : Tree) :
    Stepped step tree (run (Tree.attempt step) tree).1 (run (Tree.attempt step) tree).2 := by
  unfold run Tree.attempt
  cases did : step tree with
  | ok after => exact .done did
  | error fault => exact .refused fault

theorem Stepped.wrote {path text : String} {before after : Tree} {result : Except Fault Unit}
    (stepped : Stepped (·.write path text) before result after) :
    Wrote path text before result after := by
  cases stepped with
  | done did => exact .done did
  | refused fault => exact .refused fault

instance : LawfulFileSystem Tree where
  tree := id
  read_eq _ _ := rfl
  names_eq _ _ := rfl
  isDirectory_eq _ _ := rfl
  wrote _ _ _ := (Tree.attempt_stepped _ _).wrote
  renamed _ _ _ := Tree.attempt_stepped _ _
  madeDirectory _ _ := Tree.attempt_stepped _ _
  removed _ _ := Tree.attempt_stepped _ _

/-! ### Trees with mishaps -/

/-- How a step goes wrong: the fault, and the text that a write leaves in the file if it gets that
far. -/
structure Mishap where
  fault : Fault
  part : Option String

/-- The tree after a write to the path that goes wrong. -/
def Mishap.leave (path : String) (mishap : Mishap) (tree : Tree) : Tree :=
  match mishap.part with
  | some part => (tree.write path part).toOption.getD tree
  | none => tree

theorem Mishap.leave_wrote (path text : String) (mishap : Mishap) (tree : Tree) :
    Wrote path text tree (.error mishap.fault) (mishap.leave path tree) := by
  unfold leave
  cases mishap.part with
  | none => exact .refused _
  | some part =>
    dsimp only
    cases did : tree.write path part with
    | ok after => exact .broken _ part did
    | error fault => exact .refused _

/-- A tree, and which of the next steps that change it go wrong. -/
structure Faulty where
  tree : Tree
  coming : List (Option Mishap)

namespace Faulty

/-- Runs a step, unless the next one goes wrong. -/
def attempt (step : Tree → Except Fault Tree) (leave : Mishap → Tree → Tree) :
    StateM Faulty (Except Fault Unit) := fun state =>
  match state.coming with
  | some mishap :: rest => (.error mishap.fault, ⟨leave mishap state.tree, rest⟩)
  | none :: rest =>
    let (result, after) := run (Tree.attempt step) state.tree
    (result, ⟨after, rest⟩)
  | [] =>
    let (result, after) := run (Tree.attempt step) state.tree
    (result, ⟨after, []⟩)

instance : FileSystem (StateM Faulty) where
  read path := fun state => (state.tree.read path, state)
  write path text := attempt (·.write path text) (Mishap.leave path)
  rename source target := attempt (·.rename source target) fun _ tree => tree
  makeDirectory path := attempt (·.makeDirectory path) fun _ tree => tree
  remove path := attempt (·.remove path) fun _ tree => tree
  names path := fun state => (state.tree.names path, state)
  isDirectory path := fun state => (state.tree.isDirectory path, state)
  isFile path := fun state => (state.tree.isFile path, state)

theorem attempt_stepped (step : Tree → Except Fault Tree) (state : Faulty) :
    Stepped step state.tree (run (attempt step fun _ tree => tree) state).1
      (run (attempt step fun _ tree => tree) state).2.tree := by
  unfold run attempt
  match state.coming with
  | some mishap :: _ => exact .refused _
  | none :: _ => exact Tree.attempt_stepped step state.tree
  | [] => exact Tree.attempt_stepped step state.tree

theorem attempt_wrote (path text : String) (state : Faulty) :
    Wrote path text state.tree (run (attempt (·.write path text) (Mishap.leave path)) state).1
      (run (attempt (·.write path text) (Mishap.leave path)) state).2.tree := by
  unfold run attempt
  match state.coming with
  | some mishap :: _ => exact mishap.leave_wrote path text state.tree
  | none :: _ => exact (Tree.attempt_stepped _ state.tree).wrote
  | [] => exact (Tree.attempt_stepped _ state.tree).wrote

instance : LawfulFileSystem Faulty where
  tree := Faulty.tree
  read_eq _ _ := rfl
  names_eq _ _ := rfl
  isDirectory_eq _ _ := rfl
  wrote := attempt_wrote
  renamed _ _ := attempt_stepped _
  madeDirectory _ := attempt_stepped _
  removed _ := attempt_stepped _

end Faulty

/-! ### Making directories -/

section

variable {σ : Type} [FileSystem (StateM σ)] [LawfulFileSystem σ]

theorem makeDirectory_run (path : String) (state : σ) :
    Tree.Edits (fun _ => False) (tree state)
      (tree (run (FileSystem.makeDirectory path) state).2) :=
  (LawfulFileSystem.madeDirectory path state).edits Tree.makeDirectory_edits

theorem ensureDirectory_run (path : String) (state : σ) :
    Tree.Edits (fun _ => False) (tree state) (tree (run (ensureDirectory path) state).2) := by
  have made := makeDirectory_run path state
  unfold ensureDirectory
  rw [run_bind]
  split
  · exact made
  · rw [run_bind, LawfulFileSystem.isDirectory_eq]
    exact made

/-- Making directories leaves all texts alone. -/
theorem makeDirectoriesFor_run (depth : Nat) (path : String) (state : σ) :
    Tree.Edits (fun _ => False) (tree state)
      (tree (run (makeDirectoriesFor depth path) state).2) := by
  induction depth generalizing path state with
  | zero => exact ensureDirectory_run path state
  | succ depth ih =>
    have made := makeDirectory_run path state
    unfold makeDirectoriesFor
    split
    · exact .refl _ _
    · rw [run_bind]
      split
      · exact made
      · split
        · exact made
        · rename_i above _
          rw [run_bind]
          have climbed := made.trans (ih above _)
          split
          · exact climbed
          · exact climbed.trans (ensureDirectory_run path _)
      · rw [run_bind, LawfulFileSystem.isDirectory_eq]
        exact made

end

/-! ### Programs that only look -/

/-- A program that leaves the state as it is. -/
def Quiet (program : StateM σ α) : Prop := ∀ state, (run program state).2 = state

namespace Quiet

theorem pure (value : α) : Quiet (σ := σ) (Pure.pure value) := fun _ => rfl

theorem bind {program : StateM σ α} {next : α → StateM σ β} (first : Quiet program)
    (second : ∀ value, Quiet (next value)) : Quiet (program >>= next) := fun state => by
  rw [run_bind, second, first]

theorem mapM {look : α → StateM σ β} (each : ∀ item, Quiet (look item)) (items : List α) :
    Quiet (items.mapM look) := by
  induction items with
  | nil => exact .pure []
  | cons item rest ih =>
    rw [List.mapM_cons]
    exact (each item).bind fun _ => ih.bind fun _ => .pure _

end Quiet

/-- A file system that is not changed by looking at it. -/
class QuietFileSystem (σ : Type) [FileSystem (StateM σ)] : Prop where
  read (path : String) : Quiet (σ := σ) (FileSystem.read path)
  names (path : String) : Quiet (σ := σ) (FileSystem.names path)
  isDirectory (path : String) : Quiet (σ := σ) (FileSystem.isDirectory path)
  isFile (path : String) : Quiet (σ := σ) (FileSystem.isFile path)

instance : QuietFileSystem Tree where
  read _ _ := rfl
  names _ _ := rfl
  isDirectory _ _ := rfl
  isFile _ _ := rfl

instance : QuietFileSystem Faulty where
  read _ _ := rfl
  names _ _ := rfl
  isDirectory _ _ := rfl
  isFile _ _ := rfl

variable {σ : Type} [FileSystem (StateM σ)] [QuietFileSystem σ]

theorem filesBelowFor_quiet (depth : Nat) (directory : String) :
    Quiet (σ := σ) (filesBelowFor depth directory) := by
  induction depth generalizing directory with
  | zero => exact .pure []
  | succ depth ih =>
    unfold filesBelowFor
    refine (QuietFileSystem.names directory).bind fun listed => ?_
    cases listed with
    | error _ => exact .pure []
    | ok names =>
      refine (Quiet.mapM (fun name => ?_) names).bind fun found => .pure _
      refine (QuietFileSystem.isDirectory _).bind fun isDirectory => ?_
      split
      · exact ih _
      · refine (QuietFileSystem.isFile _).bind fun isFile => ?_
        split <;> exact .pure _

theorem filesBelow_quiet (directory : String) : Quiet (σ := σ) (filesBelow directory) :=
  filesBelowFor_quiet 4096 directory

end Endpoint.Disk
