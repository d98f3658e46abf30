import Endpoint.Proofs.Build
import Endpoint.Proofs.Output.Writing

/-!
What putting copies of units into directories does to the tree of a file system: the directories are
made with those above them, and each copy is written to a file of its own.
-/

namespace Endpoint

open Disk (Entry FileSystem LawfulFileSystem Place Tree join run tree)

namespace Output

/-- The paths of a directory and of those above it. -/
inductive Above (directory : String) : String → Prop
  | self : Above directory directory
  | up {path further : String} (climb : Above directory path)
      (above : Disk.parent? path = some further) : Above directory further

/-- What has become of a place while copies were put where they go. -/
inductive CopyFate (copies : List (String × GeneratedUnit)) (before after : Tree)
    (place : Place) : Prop
  | kept (same : after.at? place = before.at? place)
  | made (copy : String × GeneratedUnit) (member : copy ∈ copies) (path : String)
      (above : Above copy.1 path) (leads : after.locate (Tree.withoutSlashes path) = .ok place)
      (free : before.at? place = none) (there : after.at? place = some .directory)
  | copied (copy : String × GeneratedUnit) (member : copy ∈ copies)
      (leads : after.locate (copy.2.pathIn copy.1) = .ok place) (text : String)
      (held : after.at? place = some (.file text))

/-- A tree in which copies have been put where they go, or some of them. -/
structure Copied (copies : List (String × GeneratedUnit)) (before after : Tree) : Prop extends
    Tree.Grows before after where
  fate : ∀ place, CopyFate copies before after place

namespace Copied

theorem refl (copies : List (String × GeneratedUnit)) (tree : Tree) : Copied copies tree tree :=
  ⟨.refl tree, fun _ => .kept rfl⟩

theorem trans {copies : List (String × GeneratedUnit)} {before between after : Tree}
    (first : Copied copies before between) (second : Copied copies between after) :
    Copied copies before after := by
  refine ⟨first.toGrows.trans second.toGrows, fun place => ?_⟩
  cases second.fate place with
  | kept same =>
    cases first.fate place with
    | kept former => exact .kept (same.trans former)
    | made copy member path above leads free there =>
      exact .made copy member path above (second.locate leads) free (same.trans there)
    | copied copy member leads text held =>
      exact .copied copy member (second.locate leads) text (same.trans held)
  | made copy member path above leads free there =>
    cases first.fate place with
    | kept former => exact .made copy member path above leads (former.symm.trans free) there
    | made _ _ _ _ _ _ already => simp [free] at already
    | copied _ _ _ _ held => simp [free] at held
  | copied copy member leads text held => exact .copied copy member leads text held

theorem of_put {copies : List (String × GeneratedUnit)} {before : Tree} {place : Place}
    {entry : Entry} (grows : before.Grows (before.put place entry)) (inner : place ≠ [])
    (fate : CopyFate copies before (before.put place entry) place) :
    Copied copies before (before.put place entry) := by
  refine ⟨grows, fun other => ?_⟩
  by_cases same : other = place
  · exact same ▸ fate
  · exact .kept (by rw [Tree.at?_put before inner, if_neg same])

theorem of_madeDirectory {copies : List (String × GeneratedUnit)} {copy : String × GeneratedUnit}
    (member : copy ∈ copies) {path : String} (above : Above copy.1 path) {before after : Tree}
    {result : Except Disk.Fault Unit}
    (stepped : Disk.Stepped (·.makeDirectory path) before result after) :
    Copied copies before after := by
  cases stepped with
  | refused fault => exact .refl copies before
  | done did =>
    have grows := (Tree.makeDirectory_edits did).toGrows
    obtain ⟨place, leads, free, rfl⟩ := Tree.makeDirectory_eq did
    have inner : place ≠ [] := Tree.ne_root before (by simp [free])
    refine .of_put grows inner (.made copy member path above (grows.locate leads) free ?_)
    rw [Tree.at?_put before inner, if_pos rfl]

theorem of_write {copies : List (String × GeneratedUnit)} {copy : String × GeneratedUnit}
    (member : copy ∈ copies) {text : String} {before after : Tree}
    (did : before.write (copy.2.pathIn copy.1) text = .ok after) : Copied copies before after := by
  obtain ⟨_, _, edits, _⟩ := Tree.write_edits did
  obtain ⟨place, leads, other, rfl⟩ := Tree.write_eq did
  have inner : place ≠ [] := Tree.ne_root before other
  refine .of_put edits.toGrows inner (.copied copy member (edits.toGrows.locate leads) text ?_)
  rw [Tree.at?_put before inner, if_pos rfl]

theorem of_wrote {copies : List (String × GeneratedUnit)} {copy : String × GeneratedUnit}
    (member : copy ∈ copies) {text : String} {before after : Tree}
    {result : Except Disk.Fault Unit}
    (wrote : Disk.Wrote (copy.2.pathIn copy.1) text before result after) :
    Copied copies before after := by
  cases wrote with
  | done did => exact .of_write member did
  | refused fault => exact .refl copies before
  | broken fault part did => exact .of_write member did

end Copied

/-! ### Copying -/

variable {σ : Type} [FileSystem (StateM σ)] [LawfulFileSystem σ]

theorem makeDirectory_copied {copies : List (String × GeneratedUnit)}
    {copy : String × GeneratedUnit} (member : copy ∈ copies) {path : String}
    (above : Above copy.1 path) (state : σ) :
    Copied copies (tree state) (tree (run (FileSystem.makeDirectory path) state).2) :=
  .of_madeDirectory member above (LawfulFileSystem.madeDirectory path state)

theorem ensureDirectory_copied {copies : List (String × GeneratedUnit)}
    {copy : String × GeneratedUnit} (member : copy ∈ copies) {path : String}
    (above : Above copy.1 path) (state : σ) :
    Copied copies (tree state) (tree (run (Disk.ensureDirectory path) state).2) := by
  have made := makeDirectory_copied member above state
  unfold Disk.ensureDirectory
  rw [Disk.run_bind]
  split
  · exact made
  · rw [Disk.run_bind, LawfulFileSystem.isDirectory_eq]
    exact made

theorem makeDirectoriesFor_copied {copies : List (String × GeneratedUnit)}
    {copy : String × GeneratedUnit} (member : copy ∈ copies) (depth : Nat) {path : String}
    (above : Above copy.1 path) (state : σ) :
    Copied copies (tree state) (tree (run (Disk.makeDirectoriesFor depth path) state).2) := by
  induction depth generalizing path state with
  | zero => exact ensureDirectory_copied member above state
  | succ depth ih =>
    have made := makeDirectory_copied member above state
    unfold Disk.makeDirectoriesFor
    split
    · exact .refl _ _
    · rw [Disk.run_bind]
      split
      · exact made
      · split
        · exact made
        · rename_i further reaches
          rw [Disk.run_bind]
          have climbed := made.trans (ih (above.up reaches) _)
          split
          · exact climbed
          · exact climbed.trans (ensureDirectory_copied member above _)
      · rw [Disk.run_bind, LawfulFileSystem.isDirectory_eq]
        exact made

theorem dump_copied {copies : List (String × GeneratedUnit)} {copy : String × GeneratedUnit}
    (member : copy ∈ copies) (state : σ) :
    Copied copies (tree state) (tree (run (dump copy.1 copy.2) state).2) := by
  have made := makeDirectoriesFor_copied member (copy.1.length + 1) .self state
  unfold dump Disk.makeDirectories
  rw [Disk.run_bind]
  split
  · exact made
  · exact made.trans (.of_wrote member (LawfulFileSystem.wrote _ _ _))

/-- Copies change nothing but their files and the directories that these need. -/
theorem dumpAll_copied (copies : List (String × GeneratedUnit)) (state : σ) :
    Copied copies (tree state) (tree (run (dumpAll copies) state).2) := by
  suffices within : ∀ some ⊆ copies, ∀ state : σ,
      Copied copies (tree state) (tree (run (dumpAll some) state).2) from
    within copies (List.Subset.refl _) state
  intro some
  induction some with
  | nil => exact fun _ state => .refl copies _
  | cons copy rest ih =>
    intro inside state
    obtain ⟨member, later⟩ := List.cons_subset.mp inside
    have first := dump_copied member state
    have second := ih later (run (dump copy.1 copy.2) state).2
    exact first.trans second

end Output

end Endpoint
