import Endpoint.Proofs.Output.Writing

/-!
What removing stale files does to a tree: generated files go whose names are no unit's, and nothing
else does.
-/

namespace Endpoint.Output

open Disk (FileSystem IsName LawfulFileSystem Place Tree join run splitName tree)

variable {σ : Type} [FileSystem (StateM σ)] [LawfulFileSystem σ]

/-- What may have become of a tree while stale files were removed. -/
structure Removing (directory : String) (units : List GeneratedUnit) (before after : Tree) :
    Prop where
  current : after.current = before.current
  valid : before.Valid → after.Valid
  entries : ∀ place, after.at? place = before.at? place ∨ after.at? place = none ∧
    ∃ name text, IsStale units name ∧ before.locate (join directory name) = .ok place ∧
      before.at? place = some (.file text) ∧ text.startsWith Emission.header = true

namespace Removing

variable {directory : String} {units : List GeneratedUnit}

theorem refl (tree : Tree) : Removing directory units tree tree :=
  ⟨rfl, id, fun _ => .inl rfl⟩

theorem grows {before after : Tree} (removing : Removing directory units before after) :
    before.Grows after := by
  refine ⟨removing.current, fun place there => ?_⟩
  rcases removing.entries place with same | ⟨-, _, _, -, -, file, -⟩
  · exact same.trans there
  · simp [there] at file

theorem back {before after : Tree} (removing : Removing directory units before after) :
    after.Grows before := by
  refine ⟨removing.current.symm, fun place there => ?_⟩
  rcases removing.entries place with same | ⟨gone, -⟩
  · exact same.symm.trans there
  · simp [there] at gone

theorem trans {before between after : Tree} (first : Removing directory units before between)
    (second : Removing directory units between after) : Removing directory units before after := by
  refine ⟨second.current.trans first.current, second.valid ∘ first.valid, fun place => ?_⟩
  rcases second.entries place with same | ⟨gone, name, text, stale, leads, file, generated⟩
  · rcases first.entries place with former | ⟨gone, found⟩
    · exact .inl (same.trans former)
    · exact .inr ⟨same.trans gone, found⟩
  · rcases first.entries place with former | ⟨earlier, -⟩
    · exact .inr ⟨gone, name, text, stale, first.back.locate leads, former.symm.trans file, generated⟩
    · simp [earlier] at file

/-- A file that is still there was there. -/
theorem read {before after : Tree} (removing : Removing directory units before after)
    {path text : String} (held : after.read path = .ok text) : before.read path = .ok text := by
  obtain ⟨place, leads, own⟩ := Tree.read_iff.mp held
  refine Tree.read_iff.mpr ⟨place, removing.back.locate leads, ?_⟩
  rw [Tree.text?_eq_some_iff] at own ⊢
  rcases removing.entries place with same | ⟨gone, -⟩
  · exact same.symm.trans own
  · simp [gone] at own

/-- Removing a stale file. -/
theorem erase {tree after : Tree} {name text : String} (stale : IsStale units name)
    (held : tree.read (join directory name) = .ok text)
    (generated : text.startsWith Emission.header = true)
    (done : tree.remove (join directory name) = .ok after) :
    Removing directory units tree after ∧ ∀ found, after.read (join directory name) ≠ .ok found := by
  obtain ⟨place, own, leads, file, rfl⟩ := Tree.remove_eq done
  obtain ⟨found, reaches, there⟩ := Tree.read_iff.mp held
  obtain rfl : place = found := Except.ok.inj (leads.symm.trans reaches)
  rw [Tree.text?_eq_some_iff] at there
  have erased := Tree.at?_erase tree (Tree.ne_root tree (by simp [file] : tree.at? place ≠ _))
  have removing : Removing directory units tree (tree.erase place) := by
    refine ⟨rfl, fun valid => valid.erase place, fun other => ?_⟩
    by_cases same : other = place
    · subst same
      exact .inr ⟨by rw [erased, if_pos rfl], name, text, stale, leads, there, generated⟩
    · exact .inl (by rw [erased, if_neg same])
  refine ⟨removing, fun found => ?_⟩
  rw [Tree.read_of_gone (removing.grows.locate leads) (by rw [erased, if_pos rfl])]
  simp

end Removing

/-- There is no generated file of the name in the directory. -/
def Clean (directory : String) (tree : Tree) (name : String) : Prop :=
  ∀ text, tree.read (join directory name) = .ok text → text.startsWith Emission.header = false

theorem Clean.mono {directory name : String} {units : List GeneratedUnit} {before after : Tree}
    (clean : Clean directory before name) (removing : Removing directory units before after) :
    Clean directory after name :=
  fun text held => clean text (removing.read held)

theorem removing_of_removed {directory name text : String} {units : List GeneratedUnit}
    {before after : Tree} {result : Except Disk.Fault Unit} (stale : IsStale units name)
    (held : before.read (join directory name) = .ok text)
    (generated : text.startsWith Emission.header = true)
    (stepped : Disk.Stepped (·.remove (join directory name)) before result after) :
    Removing directory units before after ∧ (result = .ok () → Clean directory after name) := by
  cases stepped with
  | done did =>
    obtain ⟨removing, gone⟩ := Removing.erase stale held generated did
    exact ⟨removing, fun _ found still => absurd still (gone found)⟩
  | refused => exact ⟨.refl _, by simp⟩

theorem isStale_iff {units : List GeneratedUnit} (plain : ∀ unit ∈ units, IsName unit.fileName)
    {name : String} (named : IsName name) (directory : String) :
    (Disk.extension? (join directory name) != some "rs" ||
        isKept (units.map (·.pathIn directory)) (join directory name)) = false ↔
      IsStale units name := by
  rw [Bool.or_eq_false_iff, Disk.extension?_join named, bne_eq_false_iff_eq, ← Bool.not_eq_true,
    isKept_iff plain named]
  exact ⟨fun ⟨extension, other⟩ => ⟨named, extension, other⟩,
    fun stale => ⟨stale.extension, stale.other⟩⟩

theorem removeIfStale_run (directory : String) {units : List GeneratedUnit}
    (plain : ∀ unit ∈ units, IsName unit.fileName) {name : String} (named : IsName name)
    (state : σ) :
    let removed := run (removeIfStale (units.map (·.pathIn directory)) (join directory name)) state
    Removing directory units (tree state) (tree removed.2) ∧
      (removed.1 = .ok () → IsStale units name → Clean directory (tree removed.2) name) := by
  unfold removeIfStale
  have asked := isStale_iff plain named directory
  split
  · rename_i passed
    refine ⟨.refl _, fun _ stale => ?_⟩
    rw [asked.mpr stale] at passed
    cases passed
  · rename_i kept
    have stale := asked.mp ((Bool.not_eq_true _).mp kept)
    simp only [Disk.run_bind, LawfulFileSystem.read_eq]
    split
    · rename_i fault refused
      exact ⟨.refl _, fun _ _ text held => absurd (refused.symm.trans held) (by simp)⟩
    · rename_i text held
      split
      · rename_i generated
        simp only [Disk.run_bind, Disk.run_pure, writing_eq_ok]
        obtain ⟨removing, gone⟩ := removing_of_removed stale held generated
          (LawfulFileSystem.removed (join directory name) state)
        exact ⟨removing, fun done _ => gone done⟩
      · rename_i written
        refine ⟨.refl _, fun _ _ found own => ?_⟩
        obtain rfl : text = found := Except.ok.inj (held.symm.trans own)
        exact (Bool.not_eq_true _).mp written

theorem removeEachStale_run (directory : String) {units : List GeneratedUnit}
    (plain : ∀ unit ∈ units, IsName unit.fileName) {names : List String}
    (named : ∀ name ∈ names, IsName name) (state : σ) :
    let removed := run (removeEachStale (units.map (·.pathIn directory))
      (names.map (join directory))) state
    Removing directory units (tree state) (tree removed.2) ∧
      (removed.1 = .ok () → ∀ name ∈ names, IsStale units name →
        Clean directory (tree removed.2) name) := by
  induction names generalizing state with
  | nil => exact ⟨.refl _, by simp⟩
  | cons name rest ih =>
    obtain ⟨first, clean⟩ := removeIfStale_run directory plain (named name (by simp)) state
    obtain ⟨behind, cleaned⟩ := ih (fun other member => named other (List.mem_cons_of_mem _ member))
      (run (removeIfStale (units.map (·.pathIn directory)) (join directory name)) state).2
    rw [List.map_cons]
    unfold removeEachStale
    simp only [Disk.run_bind]
    split
    · exact ⟨first, by simp⟩
    · rename_i done
      refine ⟨first.trans behind, fun finished one member stale => ?_⟩
      rcases List.mem_cons.mp member with rfl | later
      · exact (clean done stale).mono behind
      · exact cleaned finished one later stale

theorem removeEachStale_of_clean {directory : String} {units : List GeneratedUnit}
    (plain : ∀ unit ∈ units, IsName unit.fileName) {names : List String}
    (named : ∀ name ∈ names, IsName name) {state : σ}
    (clean : ∀ name ∈ names, IsStale units name → Clean directory (tree state) name) :
    run (removeEachStale (units.map (·.pathIn directory)) (names.map (join directory))) state =
      (.ok (), state) := by
  induction names with
  | nil => rfl
  | cons name rest ih =>
    have behind := ih (fun other member => named other (List.mem_cons_of_mem _ member))
      fun other member => clean other (List.mem_cons_of_mem _ member)
    have asked := isStale_iff plain (named name (by simp)) directory
    have first : run (removeIfStale (units.map (·.pathIn directory)) (join directory name)) state =
        (.ok (), state) := by
      unfold removeIfStale
      split
      · rfl
      · rename_i kept
        have stale := asked.mp ((Bool.not_eq_true _).mp kept)
        rw [Disk.run_bind, LawfulFileSystem.read_eq]
        split
        · rfl
        · rename_i text held
          rw [if_neg (by simp [clean name (by simp) stale text held])]
          rfl
    rw [List.map_cons]
    unfold removeEachStale
    rw [Disk.run_bind, first]
    exact behind

/-- All stale files go, unless the directory is named by empty text: that names nothing. -/
theorem removeStale_run (directory : String) {units : List GeneratedUnit}
    (plain : ∀ unit ∈ units, IsName unit.fileName) {state : σ} (valid : (tree state).Valid) :
    let removed := run (removeStale directory (units.map (·.pathIn directory))) state
    Removing directory units (tree state) (tree removed.2) ∧
      (removed.1 = .ok () → directory ≠ "" → ∀ name, IsStale units name →
        Clean directory (tree removed.2) name) ∧
      (directory = "" → removed.2 = state) := by
  unfold removeStale
  simp only [Disk.run_bind, LawfulFileSystem.names_eq]
  split
  · rename_i fault refused
    refine ⟨.refl _, fun _ nonempty name stale text held => ?_, fun _ => rfl⟩
    obtain ⟨place, leads, -⟩ := Tree.read_iff.mp held
    obtain ⟨home, found, there, -⟩ := Tree.locate_directory_of_join stale.named nonempty leads
    obtain ⟨names, listed⟩ := Tree.exists_names found there
    exact absurd (refused.symm.trans listed) (by simp)
  · rename_i names listed
    obtain ⟨removing, cleaned⟩ := removeEachStale_run directory plain
      (valid.named_of_names listed) state
    refine ⟨removing, fun done nonempty name stale text held => ?_,
      fun empty => absurd empty (Tree.ne_empty_of_names listed)⟩
    have member := Tree.mem_names stale.named nonempty listed (removing.read held)
    exact cleaned done name member stale text held

theorem removeStale_of_clean {directory : String} {units : List GeneratedUnit}
    (plain : ∀ unit ∈ units, IsName unit.fileName) {state : σ} (valid : (tree state).Valid)
    (clean : directory ≠ "" → ∀ name, IsStale units name → Clean directory (tree state) name) :
    run (removeStale directory (units.map (·.pathIn directory))) state = (.ok (), state) := by
  unfold removeStale
  rw [Disk.run_bind, LawfulFileSystem.names_eq]
  split
  · rfl
  · rename_i names listed
    exact removeEachStale_of_clean plain (valid.named_of_names listed)
      fun name _ => clean (Tree.ne_empty_of_names listed) name

end Endpoint.Output
