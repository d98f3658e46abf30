import Endpoint.Output
import Endpoint.Proofs.Disk.FileSystem
import Mathlib.Data.List.Nodup

/-!
What writing units to a directory does to the files of a tree: each file has its former text or its
unit's, whatever is refused on the way.
-/

namespace Endpoint

open Disk (FileSystem IsName LawfulFileSystem Place Tree join run splitName stem tree)

/-! ### Names of files -/

/-- The path of a unit's file in a directory. -/
def GeneratedUnit.pathIn (unit : GeneratedUnit) (directory : String) : String :=
  join directory unit.fileName

/-- The name of the file that a unit's text is written to first. -/
def GeneratedUnit.temporaryName (unit : GeneratedUnit) : String := stem unit.fileName ++ "." ++ "tmp"

/-- The name of a generated file that belongs to none of the units. -/
structure IsStale (units : List GeneratedUnit) (name : String) : Prop where
  named : IsName name
  extension : (splitName name).2 = some "rs"
  other : name ∉ units.map GeneratedUnit.fileName

namespace GeneratedUnit

theorem fileName_eq (unit : GeneratedUnit) : unit.fileName = unit.hint ++ "." ++ "rs" := by
  rw [fileName, String.append_assoc]
  rfl

theorem temporaryPath_pathIn {unit : GeneratedUnit} (named : IsName unit.fileName)
    (directory : String) :
    temporaryPath (unit.pathIn directory) = join directory unit.temporaryName := by
  rw [temporaryPath, pathIn, Disk.withExtension_join named (by decide), temporaryName]

/-- The temporary file is named like the unit's, except for the extension. -/
theorem temporaryName_eq {unit : GeneratedUnit} (some : unit.hint ≠ "") :
    unit.temporaryName = unit.hint ++ ".tmp" := by
  rw [temporaryName, stem, fileName_eq, Disk.splitName_append some (by decide),
    String.append_assoc]
  rfl

theorem temporaryName_named {unit : GeneratedUnit} (named : IsName unit.fileName) :
    IsName unit.temporaryName := by
  have long : 4 ≤ unit.temporaryName.length := by
    have dots : ".".length + "tmp".length = 4 := rfl
    simp only [temporaryName, String.length_append]
    omega
  refine ⟨?_, ?_, ?_, by simp [temporaryName, Disk.noSlash_stem named.noSlash]⟩
  all_goals
    intro same
    rw [same] at long
    exact absurd long (by decide)

theorem temporaryName_extension {unit : GeneratedUnit} (named : IsName unit.fileName) :
    (splitName unit.temporaryName).2 = some "tmp" := by
  rw [temporaryName, Disk.splitName_append (Disk.stem_ne_empty named.nonempty) (by decide)]

theorem fileName_extension (unit : GeneratedUnit) : (splitName unit.fileName).2 ≠ some "tmp" := by
  rw [fileName_eq]
  by_cases empty : unit.hint = ""
  · rw [empty]
    decide
  · simp [Disk.splitName_append empty]

/-- A temporary file lies nowhere where a file of another extension does. -/
theorem temporaryPath_apart {unit : GeneratedUnit} (own : IsName unit.fileName)
    {directory name : String} (named : IsName name) (extension : (splitName name).2 ≠ some "tmp")
    {found : Tree} {place : Place} (leads : found.locate (join directory name) = .ok place) :
    found.locate (temporaryPath (unit.pathIn directory)) ≠ .ok place := by
  intro reaches
  rw [temporaryPath_pathIn own] at reaches
  have same := Tree.locate_join_inj named (temporaryName_named own) leads reaches
  exact extension (same ▸ temporaryName_extension own)

end GeneratedUnit

theorem isKept_iff {units : List GeneratedUnit} (plain : ∀ unit ∈ units, IsName unit.fileName)
    {name : String} (named : IsName name) (directory : String) :
    isKept (units.map (·.pathIn directory)) (join directory name) = true ↔
      name ∈ units.map GeneratedUnit.fileName := by
  simp only [isKept, List.any_map, List.any_eq_true, Function.comp_apply, beq_iff_eq, List.mem_map]
  refine exists_congr fun unit => and_congr_right fun member => ⟨fun same => ?_, ?_⟩
  · exact Disk.components_join_inj (plain unit member) named same
  · rintro rfl
    rfl

namespace Output

variable {σ : Type} [FileSystem (StateM σ)] [LawfulFileSystem σ]

/-! ### Writing -/

/-- What may have become of a tree while texts were written to files: a place has its former text,
or the whole text of its file, or it is that of a temporary file. -/
structure Writing (files : List (String × String)) (before after : Tree) : Prop extends
    Tree.Grows before after where
  valid : before.Valid → after.Valid
  texts : ∀ place, after.text? place = before.text? place ∨
    (∃ file ∈ files, after.locate file.1 = .ok place ∧ after.text? place = some file.2) ∨
    ∃ file ∈ files, after.locate (temporaryPath file.1) = .ok place

namespace Writing

theorem refl (files : List (String × String)) (tree : Tree) : Writing files tree tree :=
  ⟨.refl tree, id, fun _ => .inl rfl⟩

theorem mono {files more : List (String × String)} {before after : Tree}
    (writing : Writing files before after) (within : ∀ file ∈ files, file ∈ more) :
    Writing more before after := by
  refine ⟨writing.toGrows, writing.valid, fun place => ?_⟩
  rcases writing.texts place with same | ⟨file, member, held⟩ | ⟨file, member, leads⟩
  · exact .inl same
  · exact .inr (.inl ⟨file, within file member, held⟩)
  · exact .inr (.inr ⟨file, within file member, leads⟩)

theorem trans {files : List (String × String)} {before between after : Tree}
    (first : Writing files before between) (second : Writing files between after) :
    Writing files before after := by
  refine ⟨first.toGrows.trans second.toGrows, second.valid ∘ first.valid, fun place => ?_⟩
  rcases second.texts place with same | written
  · rcases first.texts place with former | ⟨file, member, leads, held⟩ | ⟨file, member, leads⟩
    · exact .inl (same.trans former)
    · exact .inr (.inl ⟨file, member, second.locate leads, same.trans held⟩)
    · exact .inr (.inr ⟨file, member, second.locate leads⟩)
  · exact .inr written

theorem of_edits {files : List (String × String)} {before after : Tree} {touched : Place → Prop}
    (edits : Tree.Edits touched before after)
    (explained : ∀ place, touched place →
      (∃ file ∈ files, after.locate file.1 = .ok place ∧ after.text? place = some file.2) ∨
        ∃ file ∈ files, after.locate (temporaryPath file.1) = .ok place) :
    Writing files before after := by
  refine ⟨edits.toGrows, edits.valid, fun place => ?_⟩
  by_cases inside : touched place
  · exact .inr (explained place inside)
  · exact .inl (edits.elsewhere place inside)

end Writing

theorem makeParent_run (path : String) (state : σ) :
    Tree.Edits (fun _ => False) (tree state) (tree (run (makeParent path) state).2) := by
  unfold makeParent
  split
  · exact .refl _ _
  · split
    · exact .refl _ _
    · rw [Disk.run_bind]
      exact Disk.makeDirectoriesFor_run _ _ state

/-- Writing to the temporary file. -/
theorem writing_of_wrote {path text : String} {before after : Tree}
    {result : Except Disk.Fault Unit}
    (wrote : Disk.Wrote (temporaryPath path) text before result after) :
    Writing [(path, text)] before after ∧ (result = .ok () →
      ∃ place, after.locate (temporaryPath path) = .ok place ∧ after.text? place = some text) := by
  have writing : ∀ {part}, before.write (temporaryPath path) part = .ok after →
      Writing [(path, text)] before after ∧ ∃ place,
        after.locate (temporaryPath path) = .ok place ∧ after.text? place = some part := by
    intro part did
    obtain ⟨place, leads, edits, held⟩ := Tree.write_edits did
    have still := edits.toGrows.locate leads
    refine ⟨.of_edits edits ?_, place, still, held⟩
    rintro _ rfl
    exact .inr ⟨(path, text), by simp, still⟩
  cases wrote with
  | done did => exact ⟨(writing did).1, fun _ => (writing did).2⟩
  | refused => exact ⟨.refl _ _, by simp⟩
  | broken fault part did => exact ⟨(writing did).1, by simp⟩

/-- Moving the temporary file in place. -/
theorem writing_of_renamed {path text : String} {before after : Tree}
    {result : Except Disk.Fault Unit} {held : Place}
    (leads : before.locate (temporaryPath path) = .ok held)
    (own : before.text? held = some text)
    (stepped : Disk.Stepped (·.rename (temporaryPath path) path) before result after) :
    Writing [(path, text)] before after ∧ (result = .ok () → after.read path = .ok text) := by
  cases stepped with
  | done did =>
    obtain ⟨source, place, moved, found, reaches, there, edits, holds⟩ := Tree.rename_edits did
    obtain rfl : held = source := Except.ok.inj (leads.symm.trans found)
    obtain rfl : text = moved := Option.some.inj (own.symm.trans there)
    have target := edits.toGrows.locate reaches
    refine ⟨.of_edits edits ?_, fun _ => Tree.read_iff.mpr ⟨place, target, holds⟩⟩
    rintro _ (rfl | rfl)
    · exact .inr ⟨(path, text), by simp, edits.toGrows.locate leads⟩
    · exact .inl ⟨(path, text), by simp, target, holds⟩
  | refused => exact ⟨.refl _ _, by simp⟩

theorem writing_eq_ok {path : String} {outcome : Except Disk.Fault α} {value : α} :
    writing path outcome = .ok value ↔ outcome = .ok value := by
  cases outcome <;> simp [writing]

/-- A file is replaced by its text as a whole or not at all. -/
theorem writeAtomic_run (path text : String) (state : σ) :
    Writing [(path, text)] (tree state) (tree (run (writeAtomic path text) state).2) ∧
      ((run (writeAtomic path text) state).1 = .ok () →
        (tree (run (writeAtomic path text) state).2).read path = .ok text) := by
  have made : Writing [(path, text)] (tree state) (tree (run (makeParent path) state).2) :=
    .of_edits (makeParent_run path state) (by simp)
  unfold writeAtomic
  rw [Disk.run_bind]
  split
  · exact ⟨made, by simp⟩
  · obtain ⟨wrote, held⟩ := writing_of_wrote
      (LawfulFileSystem.wrote (temporaryPath path) text (run (makeParent path) state).2)
    rw [Disk.run_bind]
    split
    · exact ⟨made.trans wrote, by simp⟩
    · rename_i done
      obtain ⟨place, leads, own⟩ := held done
      obtain ⟨moved, reads⟩ := writing_of_renamed leads own
        (LawfulFileSystem.renamed (temporaryPath path) path _)
      simp only [Disk.run_bind, Disk.run_pure, writing_eq_ok]
      exact ⟨made.trans (wrote.trans moved), reads⟩

theorem writeIfChanged_run (path text : String) (state : σ) :
    Writing [(path, text)] (tree state) (tree (run (writeIfChanged path text) state).2) ∧
      ∀ changed, (run (writeIfChanged path text) state).1 = .ok changed →
        (tree (run (writeIfChanged path text) state).2).read path = .ok text := by
  obtain ⟨wrote, reads⟩ := writeAtomic_run path text state
  unfold writeIfChanged
  rw [Disk.run_bind, LawfulFileSystem.read_eq]
  split
  · rename_i held found
    split
    · rename_i same
      rw [beq_iff_eq] at same
      exact ⟨.refl _ _, fun _ _ => same ▸ found⟩
    · simp only [Disk.run_bind, Disk.run_pure, map_eq_ok]
      exact ⟨wrote, fun _ ⟨_, done, _⟩ => reads done⟩
  · simp only [Disk.run_bind, Disk.run_pure, map_eq_ok]
    exact ⟨wrote, fun _ ⟨_, done, _⟩ => reads done⟩

/-- A file that holds its text is left alone. -/
theorem writeIfChanged_of_read {path text : String} {state : σ}
    (holds : (tree state).read path = .ok text) :
    run (writeIfChanged path text) state = (.ok false, state) := by
  simp [writeIfChanged, LawfulFileSystem.read_eq, holds]

/-- The files of units with their texts. -/
def filesOf (directory : String) (units : List GeneratedUnit) : List (String × String) :=
  units.map fun unit => (unit.pathIn directory, unit.code)

theorem writeEach_run (directory : String) (units : List GeneratedUnit) (state : σ) :
    Writing (filesOf directory units) (tree state)
        (tree (run (writeEach directory units) state).2) ∧
      ∀ paths, (run (writeEach directory units) state).1 = .ok paths →
        paths = units.map (·.pathIn directory) := by
  induction units generalizing state with
  | nil =>
    refine ⟨.refl _ _, fun paths done => ?_⟩
    simpa [writeEach, eq_comm] using done
  | cons unit rest ih =>
    obtain ⟨wrote, -⟩ := writeIfChanged_run (unit.pathIn directory) unit.code state
    have first : Writing (filesOf directory (unit :: rest)) _ _ := wrote.mono (by simp [filesOf])
    obtain ⟨more, paths⟩ := ih (run (writeIfChanged (unit.pathIn directory) unit.code) state).2
    have behind : Writing (filesOf directory (unit :: rest)) _ _ :=
      more.mono fun file member => List.mem_cons_of_mem _ member
    unfold writeEach
    dsimp only
    rw [Disk.run_bind]
    split
    · exact ⟨first, by simp⟩
    · simp only [Disk.run_bind, Disk.run_pure, map_eq_ok]
      refine ⟨first.trans behind, ?_⟩
      rintro _ ⟨_, done, rfl⟩
      rw [paths _ done]
      rfl

/-- The names of the units' files are names, and all different. -/
structure Distinct (units : List GeneratedUnit) : Prop where
  named : ∀ unit ∈ units, IsName unit.fileName
  nodup : (units.map GeneratedUnit.fileName).Nodup

theorem Distinct.tail {unit : GeneratedUnit} {rest : List GeneratedUnit}
    (distinct : Distinct (unit :: rest)) : Distinct rest :=
  ⟨fun other member => distinct.named other (List.mem_cons_of_mem _ member),
    (List.nodup_cons.mp distinct.nodup).2⟩

/-- Writing leaves a file alone that is not among them and has another extension than the temporary
ones. -/
theorem Writing.other {directory : String} {units : List GeneratedUnit} {before after : Tree}
    (writing : Writing (filesOf directory units) before after)
    (plain : ∀ unit ∈ units, IsName unit.fileName) {name : String} (named : IsName name)
    (extension : (splitName name).2 ≠ some "tmp") (other : name ∉ units.map GeneratedUnit.fileName)
    {place : Place} (leads : after.locate (join directory name) = .ok place) :
    after.text? place = before.text? place := by
  rcases writing.texts place with same | ⟨file, member, target, -⟩ | ⟨file, member, target⟩
  · exact same
  · obtain ⟨unit, inside, rfl⟩ := List.mem_map.mp member
    have same := Tree.locate_join_inj named (plain unit inside) leads target
    exact absurd (List.mem_map.mpr ⟨unit, inside, same.symm⟩) other
  · obtain ⟨unit, inside, rfl⟩ := List.mem_map.mp member
    exact absurd target
      (GeneratedUnit.temporaryPath_apart (plain unit inside) named extension leads)

/-- Once all units are written, their files hold them. -/
theorem writeEach_complete {directory : String} {units : List GeneratedUnit}
    (distinct : Distinct units) {state : σ} {paths : List String}
    (done : (run (writeEach directory units) state).1 = .ok paths) :
    ∀ unit ∈ units,
      (tree (run (writeEach directory units) state).2).read (unit.pathIn directory) =
        .ok unit.code := by
  induction units generalizing state paths with
  | nil => simp
  | cons unit rest ih =>
    obtain ⟨-, reads⟩ := writeIfChanged_run (unit.pathIn directory) unit.code state
    obtain ⟨more, -⟩ := writeEach_run directory rest
      (run (writeIfChanged (unit.pathIn directory) unit.code) state).2
    unfold writeEach at done ⊢
    dsimp only at done ⊢
    rw [Disk.run_bind] at done ⊢
    split at done
    · cases done
    · rename_i changed wrote
      simp only [Disk.run_bind, Disk.run_pure, map_eq_ok] at done ⊢
      obtain ⟨_, finished, -⟩ := done
      intro one member
      rcases List.mem_cons.mp member with rfl | later
      · obtain ⟨place, leads, held⟩ := Tree.read_iff.mp (reads changed wrote)
        have still := more.toGrows.locate leads
        have same := more.other distinct.tail.named (distinct.named one (by simp))
          one.fileName_extension (List.nodup_cons.mp distinct.nodup).1 still
        exact Tree.read_iff.mpr ⟨place, still, same.trans held⟩
      · exact ih distinct.tail finished one later

/-- Units that are all in place are left alone. -/
theorem writeEach_of_complete {directory : String} {units : List GeneratedUnit} {state : σ}
    (complete : ∀ unit ∈ units, (tree state).read (unit.pathIn directory) = .ok unit.code) :
    run (writeEach directory units) state = (.ok (units.map (·.pathIn directory)), state) := by
  induction units with
  | nil => rfl
  | cons unit rest ih =>
    have first := writeIfChanged_of_read (complete unit (by simp))
    have behind := ih fun other member => complete other (List.mem_cons_of_mem _ member)
    unfold writeEach
    dsimp only
    rw [Disk.run_bind, ← GeneratedUnit.pathIn, first]
    simp [behind, Except.map]

end Output

end Endpoint
