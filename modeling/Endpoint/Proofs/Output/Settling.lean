import Endpoint.Proofs.Output.Removing

/-!
What has become of a directory when units were written to it, whatever lay there and whatever was
refused on the way.
-/

namespace Endpoint.Output

open Disk (FileSystem IsName LawfulFileSystem Place Tree join run splitName tree)

variable {σ : Type} [FileSystem (StateM σ)] [LawfulFileSystem σ]

/-- What has become of a place. -/
inductive Fate (directory : String) (units : List GeneratedUnit) (before after : Tree)
    (place : Place) : Prop
  | kept (same : after.text? place = before.text? place)
  | written (unit : GeneratedUnit) (member : unit ∈ units)
      (leads : after.locate (unit.pathIn directory) = .ok place)
      (holds : after.text? place = some unit.code)
  | temporary (unit : GeneratedUnit) (member : unit ∈ units)
      (leads : after.locate (temporaryPath (unit.pathIn directory)) = .ok place)
  | removed (name text : String) (stale : IsStale units name)
      (leads : after.locate (join directory name) = .ok place)
      (held : before.text? place = some text)
      (generated : text.startsWith Emission.header = true) (gone : after.at? place = none)
      (complete : ∀ unit ∈ units, after.read (unit.pathIn directory) = .ok unit.code)

theorem Fate.of_writing {directory : String} {units : List GeneratedUnit} {before after : Tree}
    (writing : Writing (filesOf directory units) before after) (place : Place) :
    Fate directory units before after place := by
  rcases writing.texts place with same | ⟨file, member, leads, holds⟩ | ⟨file, member, leads⟩
  · exact .kept same
  · obtain ⟨unit, inside, rfl⟩ := List.mem_map.mp member
    exact .written unit inside leads holds
  · obtain ⟨unit, inside, rfl⟩ := List.mem_map.mp member
    exact .temporary unit inside leads

/-- Removing stale files leaves the units in place. -/
theorem Removing.complete {directory : String} {units : List GeneratedUnit} {before after : Tree}
    (removing : Removing directory units before after)
    (plain : ∀ unit ∈ units, IsName unit.fileName)
    (complete : ∀ unit ∈ units, before.read (unit.pathIn directory) = .ok unit.code) :
    ∀ unit ∈ units, after.read (unit.pathIn directory) = .ok unit.code := by
  intro unit member
  obtain ⟨place, leads, held⟩ := Tree.read_iff.mp (complete unit member)
  refine Tree.read_iff.mpr ⟨place, removing.grows.locate leads, ?_⟩
  rw [Tree.text?_eq_some_iff] at held ⊢
  rcases removing.entries place with same | ⟨-, name, _, stale, reaches, -, -⟩
  · exact same.trans held
  · have own := Tree.locate_join_inj (plain unit member) stale.named leads reaches
    exact absurd (List.mem_map.mpr ⟨unit, member, own⟩) stale.other

theorem Fate.of_removing {directory : String} {units : List GeneratedUnit}
    {before between after : Tree} (plain : ∀ unit ∈ units, IsName unit.fileName)
    (writing : Writing (filesOf directory units) before between)
    (complete : ∀ unit ∈ units, between.read (unit.pathIn directory) = .ok unit.code)
    (removing : Removing directory units between after) (place : Place) :
    Fate directory units before after place := by
  rcases removing.entries place with same | ⟨gone, name, text, stale, leads, file, generated⟩
  · have text : after.text? place = between.text? place := by rw [Tree.text?, Tree.text?, same]
    rcases writing.texts place with former | ⟨file, member, leads, holds⟩ | ⟨file, member, leads⟩
    · exact .kept (text.trans former)
    · obtain ⟨unit, inside, rfl⟩ := List.mem_map.mp member
      exact .written unit inside (removing.grows.locate leads) (text.trans holds)
    · obtain ⟨unit, inside, rfl⟩ := List.mem_map.mp member
      exact .temporary unit inside (removing.grows.locate leads)
  · have former := writing.other plain stale.named (by simp [stale.extension]) stale.other leads
    exact .removed name text stale (removing.grows.locate leads)
      (former.symm.trans (Tree.text?_eq_some_iff.mpr file)) generated gone
      (removing.complete plain complete)

/-- A name that a place has in the directory tells what may have become of it. -/
theorem Fate.cases_name {directory : String} {units : List GeneratedUnit} {before after : Tree}
    {place : Place} (fate : Fate directory units before after place)
    (plain : ∀ unit ∈ units, IsName unit.fileName) {name : String} (named : IsName name)
    (extension : (splitName name).2 ≠ some "tmp")
    (leads : after.locate (join directory name) = .ok place) :
    after.text? place = before.text? place ∨
      (∃ unit ∈ units, name = unit.fileName ∧ after.text? place = some unit.code) ∨
      IsStale units name ∧ after.at? place = none := by
  cases fate with
  | kept same => exact .inl same
  | written unit member reaches holds =>
    exact .inr (.inl ⟨unit, member, Tree.locate_join_inj named (plain unit member) leads reaches, holds⟩)
  | temporary unit member reaches =>
    exact absurd reaches
      (GeneratedUnit.temporaryPath_apart (plain unit member) named extension leads)
  | removed other text stale reaches held generated gone complete =>
    obtain rfl := Tree.locate_join_inj named stale.named leads reaches
    exact .inr (.inr ⟨stale, gone⟩)

/-- What has become of a tree when units were written to a directory, with the result. -/
structure Settled (directory : String) (units : List GeneratedUnit) (before : Tree)
    (result : Except Failure (List String)) (after : Tree) : Prop where
  grows : before.Grows after
  /-- Only the units' files, temporary ones and stale ones may differ, and stale ones go when all
  units have been written. -/
  fates : ∀ place, Fate directory units before after place
  /-- A unit's file has its former content or the unit's. -/
  targets : ∀ unit ∈ units, ∀ place, after.locate (unit.pathIn directory) = .ok place →
    after.text? place = before.text? place ∨ after.text? place = some unit.code
  complete : ∀ paths, result = .ok paths → paths = units.map (·.pathIn directory) ∧
    ∀ unit ∈ units, after.read (unit.pathIn directory) = .ok unit.code
  /-- Generated files of other names are gone exactly if the directory is not named by empty
  text. -/
  stale : ∀ paths, result = .ok paths → ∀ name, IsStale units name →
    ∀ text, before.read (join directory name) = .ok text →
      text.startsWith Emission.header = true →
        (after.read (join directory name) = .error .missing ↔ directory ≠ "")

/-- The file of a unit has its former text or the unit's. -/
theorem Fate.target {directory : String} {units : List GeneratedUnit} {before after : Tree}
    {place : Place} (fate : Fate directory units before after place) (distinct : Distinct units)
    {unit : GeneratedUnit} (member : unit ∈ units)
    (leads : after.locate (unit.pathIn directory) = .ok place) :
    after.text? place = before.text? place ∨ after.text? place = some unit.code := by
  rcases fate.cases_name distinct.named (distinct.named unit member) unit.fileName_extension leads
    with same | ⟨other, inside, same, holds⟩ | ⟨stale, -⟩
  · exact .inl same
  · rw [List.inj_on_of_nodup_map distinct.nodup member inside same]
    exact .inr holds
  · exact absurd (List.mem_map_of_mem member) stale.other

/-- A stale file is gone if the directory has been cleaned. -/
theorem Fate.gone_iff {directory name text : String} {units : List GeneratedUnit}
    {before after : Tree} (fates : ∀ place, Fate directory units before after place)
    (plain : ∀ unit ∈ units, IsName unit.fileName) (grows : before.Grows after)
    (stale : IsStale units name) (held : before.read (join directory name) = .ok text)
    (generated : text.startsWith Emission.header = true)
    (clean : directory ≠ "" → Clean directory after name)
    (idle : directory = "" → after.read (join directory name) = .ok text) :
    after.read (join directory name) = .error .missing ↔ directory ≠ "" := by
  constructor
  · intro gone empty
    rw [idle empty] at gone
    cases gone
  · intro nonempty
    obtain ⟨place, leads, own⟩ := Tree.read_iff.mp held
    have still := grows.locate leads
    rcases (fates place).cases_name plain stale.named (by simp [stale.extension]) still
      with same | ⟨unit, member, rfl, -⟩ | ⟨-, gone⟩
    · have kept := clean nonempty text (Tree.read_iff.mpr ⟨place, still, same.trans own⟩)
      rw [generated] at kept
      cases kept
    · exact absurd (List.mem_map_of_mem member) stale.other
    · exact Tree.read_of_gone still gone

omit [LawfulFileSystem σ] in
theorem writeUnits_run (directory : String) (units : List GeneratedUnit) (state : σ) :
    run (writeUnits directory units) state =
      match run (writeEach directory units) state with
      | (.error failure, between) => (.error failure, between)
      | (.ok paths, between) =>
        ((run (removeStale directory paths) between).1.map fun _ => paths,
          (run (removeStale directory paths) between).2) := by
  unfold writeUnits
  rw [Disk.run_bind]
  cases written : run (writeEach directory units) state with
  | mk result between => cases result <;> rfl

/-- Whatever lies in the directory and whatever is refused: only files of the units, temporary files
and stale files differ afterwards, no unit's file holds a part of its text, and nothing is removed
before all units are in place. Success leaves the units and, unless the directory is named by empty
text, no other generated files, and writing the same units again does nothing. -/
theorem writeUnits_settles (directory : String) {units : List GeneratedUnit} (state : σ)
    (valid : (tree state).Valid) (distinct : Distinct units) :
    Settled directory units (tree state) (run (writeUnits directory units) state).1
        (tree (run (writeUnits directory units) state).2) ∧
      ∀ paths, (run (writeUnits directory units) state).1 = .ok paths →
        run (writeUnits directory units) (run (writeUnits directory units) state).2 =
          run (writeUnits directory units) state := by
  have plain := distinct.named
  obtain ⟨writing, paths⟩ := writeEach_run directory units state
  have finished : ∀ paths, (run (writeEach directory units) state).1 = .ok paths → _ :=
    fun _ => writeEach_complete distinct
  rw [writeUnits_run directory units state]
  cases written : run (writeEach directory units) state with
  | mk result between =>
    rw [written] at writing paths finished
    cases result with
    | error failure =>
      have fates := Fate.of_writing writing
      exact ⟨⟨writing.toGrows, fates,
        fun unit member place leads => (fates place).target distinct member leads,
        by simp, by simp⟩, by simp⟩
    | ok found =>
      obtain rfl := paths found rfl
      have complete := finished _ rfl
      obtain ⟨removing, clean, idle⟩ := removeStale_run directory plain (writing.valid valid)
      have fates := Fate.of_removing plain writing complete removing
      have still := removing.complete plain complete
      have grows := writing.toGrows.trans removing.grows
      dsimp only
      refine ⟨⟨grows, fates,
        fun unit member place leads => (fates place).target distinct member leads,
        fun _ done => ?_, fun _ done name stale text held generated => ?_⟩, fun _ done => ?_⟩
      all_goals obtain ⟨⟨⟩, removed, rfl⟩ := map_eq_ok.mp done
      · exact ⟨rfl, still⟩
      · -- Nothing is listed for empty text, so a stale file stays as writing has left it.
        refine Fate.gone_iff fates plain grows stale held generated
          (fun nonempty => clean removed nonempty name stale) fun empty => ?_
        obtain ⟨place, leads, own⟩ := Tree.read_iff.mp held
        have reaches := writing.toGrows.locate leads
        have kept := writing.other plain stale.named (by simp [stale.extension]) stale.other reaches
        rw [idle empty]
        exact Tree.read_iff.mpr ⟨place, reaches, kept.trans own⟩
      · rw [writeUnits_run, writeEach_of_complete still]
        dsimp only
        rw [removeStale_of_clean plain (removing.valid (writing.valid valid)) (clean removed), removed]

/-- A generated unit with one item. -/
def unitWith (hint item : String) : GeneratedUnit :=
  ⟨hint, .client, ⟨[], "Api"⟩, Emission.header ++ "\n" ++ item⟩

/-- Units of two clients. -/
def twoUnits : List GeneratedUnit :=
  [unitWith "A.client" "struct A;", unitWith "B.client" "struct B;"]

/-- A directory with a client that is no longer generated, and a file that never was. -/
def littered : Tree :=
  ⟨[(["tmp"], .directory), (["tmp", "work"], .directory),
    (["tmp", "work", "Old.client.rs"], .file (unitWith "Old.client" "struct Old;").code),
    (["tmp", "work", "lib.rs"], .file "fn main() \x7b\x7d")], ["tmp", "work"]⟩

/-- The second text does not fit on the disk. -/
def full : Disk.Faulty :=
  ⟨littered, [none, none, none, none, some ⟨.other 28, some "// This"⟩]⟩

theorem writeUnits_settles_littered :
    littered.Valid ∧ Distinct twoUnits ∧
      (run (writeUnits "." twoUnits) littered).1 = .ok ["./A.client.rs", "./B.client.rs"] ∧
      Settled "." twoUnits littered (run (writeUnits "." twoUnits) littered).1
        (run (writeUnits "." twoUnits) littered).2 ∧
      (run (writeUnits "." twoUnits) full).1 =
        .error (.write "./B.client.tmp" (.other 28)) ∧
      Settled "." twoUnits littered (run (writeUnits "." twoUnits) full).1
        (run (writeUnits "." twoUnits) full).2.tree := by
  have valid : littered.Valid := ⟨by decide +kernel, by decide +kernel⟩
  have distinct : Distinct twoUnits := ⟨by decide +kernel, by decide +kernel⟩
  have whole := writeUnits_settles "." littered valid distinct
  have broken := writeUnits_settles "." full valid distinct
  exact ⟨valid, distinct, by decide +kernel, whole.1, by decide +kernel, broken.1⟩

/-- Written to a directory that is named by empty text, a unit ends up beside the stale one. -/
theorem writeUnits_unnamed :
    (run (writeUnits "" [unitWith "A.client" "struct A;"]) littered).1 = .ok ["A.client.rs"] ∧
      IsStale [unitWith "A.client" "struct A;"] "Old.client.rs" ∧
      ∃ text, text.startsWith Emission.header = true ∧
        (run (writeUnits "" [unitWith "A.client" "struct A;"]) littered).2.read "Old.client.rs" =
          .ok text := by
  refine ⟨by decide +kernel, ⟨by decide +kernel, by decide +kernel, by decide +kernel⟩,
    (unitWith "Old.client" "struct Old;").code, by decide +kernel, by decide +kernel⟩

end Endpoint.Output
