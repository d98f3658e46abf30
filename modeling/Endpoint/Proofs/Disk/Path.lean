import Endpoint.Disk.Path
import Endpoint.Proofs.Text.Split

/-!
Paths of names inside a directory: they end in the name, and what is derived from the name of a path
depends on nothing else.
-/

namespace Endpoint.Disk

/-- A name that something in a directory can have. -/
structure IsName (name : String) : Prop where
  nonempty : name ≠ ""
  notCurrent : name ≠ "."
  notParent : name ≠ ".."
  noSlash : '/' ∉ name.toList

instance (name : String) : Decidable (IsName name) :=
  decidable_of_iff (name ≠ "" ∧ name ≠ "." ∧ name ≠ ".." ∧ '/' ∉ name.toList)
    ⟨fun ⟨nonempty, notCurrent, notParent, noSlash⟩ => ⟨nonempty, notCurrent, notParent, noSlash⟩,
      fun held => ⟨held.nonempty, held.notCurrent, held.notParent, held.noSlash⟩⟩

/-! ### Parts -/

theorem parts_eq_splitOnP (path : String) :
    parts path = (path.toList.splitOnP (· == '/')).map String.ofList := by
  rw [parts, Text.splitAt_eq_splitOnP]

theorem noSlash_of_mem_parts {path part : String} (member : part ∈ parts path) :
    '/' ∉ part.toList := by
  obtain ⟨piece, held, rfl⟩ := List.mem_map.mp member
  intro slash
  rw [String.toList_ofList] at slash
  simpa using (Text.mem_splitAt held '/' slash).2

theorem parts_of_noSlash {name : String} (noSlash : '/' ∉ name.toList) : parts name = [name] := by
  rw [parts_eq_splitOnP, List.splitOnP_eq_singleton (by
    intro c here
    have other : c ≠ '/' := fun same => noSlash (same ▸ here)
    simpa using other)]
  simp

theorem parts_append (front behind : String) :
    parts (front ++ "/" ++ behind) = parts front ++ parts behind := by
  have text : (front ++ "/" ++ behind).toList = front.toList ++ '/' :: behind.toList := by simp
  rw [parts_eq_splitOnP, text, List.splitOnP_append_cons _ _ (by simp), List.map_append,
    ← parts_eq_splitOnP, ← parts_eq_splitOnP]

theorem parts_append_slash (front : String) : parts (front ++ "/") = parts front ++ [""] := by
  simpa [parts_of_noSlash] using parts_append front ""

/-! ### Joining -/

/-- The text in front of the names in a directory. -/
def lead (directory : String) : String :=
  if directory.isEmpty || directory.endsWith "/" then directory else directory ++ "/"

/-- The parts in front of the names in a directory. -/
def leadParts (directory : String) : List String :=
  if directory.isEmpty then []
  else if directory.endsWith "/" then (parts directory).dropLast
  else parts directory

theorem endsWith_slash_iff {path : String} :
    path.endsWith "/" = true ↔ ∃ front, path = front ++ "/" := by
  rw [String.endsWith, String.Slice.endsWith_string_iff, String.copy_toSlice]
  constructor
  · rintro ⟨front, text⟩
    exact ⟨String.ofList front, String.toList_inj.mp (by simp [← text])⟩
  · rintro ⟨front, rfl⟩
    exact ⟨front.toList, by simp⟩

theorem startsWith_slash_iff {path : String} :
    path.startsWith "/" = true ↔ path.toList.head? = some '/' := by
  rw [String.startsWith_string_iff]
  cases path.toList <;> simp [List.cons_prefix_cons, eq_comm]

theorem startsWith_of_noSlash {name : String} (noSlash : '/' ∉ name.toList) :
    name.startsWith "/" = false := by
  rw [Bool.eq_false_iff, ne_eq, startsWith_slash_iff]
  exact fun first => noSlash (List.mem_of_head? first)

theorem join_eq {name : String} (noSlash : '/' ∉ name.toList) (directory : String) :
    join directory name = lead directory ++ name := by
  rw [join, startsWith_of_noSlash noSlash, lead]
  by_cases ends : (directory.isEmpty || directory.endsWith "/") = true <;> simp [ends]

theorem parts_join {name : String} (noSlash : '/' ∉ name.toList) (directory : String) :
    parts (join directory name) = leadParts directory ++ [name] := by
  rw [join_eq noSlash, lead, leadParts]
  by_cases empty : directory.isEmpty = true
  · rw [String.isEmpty_iff] at empty
    simp [empty, parts_of_noSlash noSlash]
  · by_cases ends : directory.endsWith "/" = true
    · obtain ⟨front, rfl⟩ := endsWith_slash_iff.mp ends
      simp [empty, ends, parts_append, parts_append_slash, parts_of_noSlash noSlash]
    · simp [empty, ends, parts_append, parts_of_noSlash noSlash]

/-- A path in a directory begins like the directory. -/
theorem startsWith_join {name : String} (noSlash : '/' ∉ name.toList) (directory : String) :
    (join directory name).startsWith "/" = directory.startsWith "/" := by
  rw [Bool.eq_iff_iff, startsWith_slash_iff, startsWith_slash_iff, join_eq noSlash, lead]
  cases chars : directory.toList with
  | nil =>
    obtain rfl : directory = "" := String.toList_inj.mp chars
    simpa using fun first => noSlash (List.mem_of_head? first)
  | cons c rest => split <;> simp [chars]

/-- A path in a directory is no shorter than that of the directory. -/
theorem size_join (directory : String) {name : String} (noSlash : '/' ∉ name.toList) :
    directory.utf8ByteSize ≤ (join directory name).utf8ByteSize := by
  rw [join_eq noSlash, String.utf8ByteSize_append, lead]
  split
  · omega
  · rw [String.utf8ByteSize_append]
    omega

/-! ### Components -/

theorem components_join {name : String} (named : IsName name) (directory : String) :
    ∃ front, components (join directory name) = front ++ [.normal name] := by
  have written : ((parts (join directory name)).filter (!·.isEmpty)).filter (· != ".") =
      ((leadParts directory).filter (!·.isEmpty)).filter (· != ".") ++ [name] := by
    rw [parts_join named.noSlash]
    simp [named.nonempty, named.notCurrent]
  have last : Component.ofPart name = .normal name := by
    simp [Component.ofPart, named.notParent, named.notCurrent]
  rw [components, written, List.map_append, List.map_singleton, last, ← List.append_assoc]
  exact ⟨_, rfl⟩

/-- Names in a directory are told apart by the components of their paths. -/
theorem components_join_inj {name other : String} (named : IsName name) (otherNamed : IsName other)
    {directory : String} (same : components (join directory name) = components (join directory other)) :
    name = other := by
  obtain ⟨front, ends⟩ := components_join named directory
  obtain ⟨otherFront, otherEnds⟩ := components_join otherNamed directory
  rw [ends, otherEnds] at same
  simpa using (List.append_inj' same rfl).2

theorem fileName?_join {name : String} (named : IsName name) (directory : String) :
    fileName? (join directory name) = some name := by
  obtain ⟨front, ends⟩ := components_join named directory
  simp [fileName?, ends]

theorem extension?_join {name : String} (named : IsName name) (directory : String) :
    extension? (join directory name) = (splitName name).2 := by
  rw [extension?, fileName?_join named]
  rfl

/-! ### Extensions -/

/-- A name splits at its last point, if that does not begin it. -/
theorem splitName_append {stem ext : String} (nonempty : stem ≠ "") (plain : '.' ∉ ext.toList) :
    splitName (stem ++ "." ++ ext) = (stem, some ext) := by
  have reversed : (stem ++ "." ++ ext).toList.reverse =
      ext.toList.reverse ++ '.' :: stem.toList.reverse := by simp
  have behind : ((stem ++ "." ++ ext).toList.reverse.takeWhile (· != '.')).reverse = ext.toList := by
    have before : ∀ c ∈ ext.toList.reverse, (c != '.') = true := by
      intro c here
      have other : c ≠ '.' := fun same => plain (same ▸ List.mem_reverse.mp here)
      simpa using other
    rw [reversed, List.takeWhile_append_of_pos before]
    simp
  have length : (stem ++ "." ++ ext).toList.length - ext.toList.length - 1 = stem.toList.length := by
    simp
    omega
  have before : (stem ++ "." ++ ext).toList.take stem.toList.length = stem.toList := by simp
  simp only [splitName, behind, length, before]
  have whole : ext.toList.length ≠ (stem ++ "." ++ ext).toList.length := by
    simp only [String.toList_append, List.length_append]
    have point : (".".toList).length = 1 := rfl
    omega
  have some : stem.toList ≠ [] := fun none => nonempty (String.toList_inj.mp none)
  simp only [beq_eq_false_iff_ne.mpr whole, Bool.false_or, List.isEmpty_iff, some, if_false,
    String.ofList_toList]

/-- The stem of a name begins it. -/
theorem stem_begins (name : String) : (stem name).toList <+: name.toList := by
  simp only [stem, splitName]
  split
  · exact List.prefix_rfl
  · rw [String.toList_ofList]
    exact List.take_prefix _ _

theorem stem_ne_empty {name : String} (nonempty : name ≠ "") : stem name ≠ "" := by
  simp only [stem, splitName]
  split
  · exact nonempty
  · rename_i some
    intro none
    rw [Bool.or_eq_true, not_or, List.isEmpty_iff] at some
    exact some.2 (by simpa using congrArg String.toList none)

theorem noSlash_stem {name : String} (noSlash : '/' ∉ name.toList) : '/' ∉ (stem name).toList :=
  fun slash => noSlash ((stem_begins name).subset slash)

/-- A path in a directory has no tail to go. -/
theorem withoutTail_join {name : String} (named : IsName name) (directory : String) (fuel : Nat) :
    withoutTail (join directory name) fuel = join directory name := by
  have reversed : (join directory name).toList.reverse =
      name.toList.reverse ++ (lead directory).toList.reverse := by
    simp [join_eq named.noSlash]
  have plain : '/' ∉ name.toList.reverse := by simpa using named.noSlash
  have written : String.ofList name.toList.reverse.reverse = name := by simp
  cases fuel with
  | zero => rfl
  | succ fuel =>
    unfold withoutTail
    dsimp only
    rw [reversed]
    split
    · rename_i rest chars
      cases ends : name.toList.reverse with
      | nil => exact absurd (written.symm.trans (by rw [ends]; rfl)) named.nonempty
      | cons c more =>
        rw [ends, List.cons_append, List.cons.injEq] at chars
        simp [ends, chars.1] at plain
    · rename_i rest chars
      match ends : name.toList.reverse with
      | [] => exact absurd (written.symm.trans (by rw [ends]; rfl)) named.nonempty
      | [c] =>
        rw [ends, List.cons_append, List.cons.injEq] at chars
        exact absurd (written.symm.trans (by rw [ends, chars.1]; rfl)) named.notCurrent
      | c :: d :: more =>
        rw [ends, List.cons_append, List.cons_append, List.cons.injEq, List.cons.injEq] at chars
        simp [ends, chars.2.1] at plain
    · rfl

/-- The extension of a name in a directory is replaced in the name. -/
theorem withExtension_join {name : String} (named : IsName name) {ext : String}
    (noSlash : '/' ∉ ext.toList) (directory : String) :
    withExtension (join directory name) ext = join directory (stem name ++ "." ++ ext) := by
  have replaced : '/' ∉ (stem name ++ "." ++ ext).toList := by
    simp [noSlash_stem named.noSlash, noSlash]
  have length : (join directory name).length - name.length + (stem name).length =
      (lead directory).length + (stem name).length := by
    simp [join_eq named.noSlash]
  obtain ⟨behind, whole⟩ := stem_begins name
  have kept : ((join directory name).take ((lead directory).length + (stem name).length)).toString =
      lead directory ++ stem name := by
    apply String.toList_inj.mp
    have text : (join directory name).toList =
        (lead directory).toList ++ (stem name).toList ++ behind := by
      rw [join_eq named.noSlash, String.toList_append, ← whole, List.append_assoc]
    have taken : ((lead directory).toList ++ (stem name).toList ++ behind).take
        ((lead directory).length + (stem name).length) =
          (lead directory).toList ++ (stem name).toList :=
      List.take_left' (by simp [String.length_toList])
    simpa [text] using taken
  simp only [withExtension, fileName?_join named, withoutTail_join named, length, kept]
  rw [join_eq replaced]
  simp only [String.append_assoc]

end Endpoint.Disk
