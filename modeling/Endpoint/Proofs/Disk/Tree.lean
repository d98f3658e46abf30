import Endpoint.Disk.Tree
import Endpoint.Proofs.Disk.Path
import Endpoint.Proofs.Outcome
import Endpoint.Proofs.Table

/-!
Where paths lead in a tree, and what the operations do to the texts at its places.
-/

namespace Endpoint.Disk.Tree

/-! ### Places -/

/-- The text of the file at a place. -/
def text? (tree : Tree) (place : Place) : Option String :=
  match tree.at? place with
  | some (.file text) => some text
  | _ => none

theorem text?_eq_some_iff {tree : Tree} {place : Place} {text : String} :
    tree.text? place = some text ↔ tree.at? place = some (.file text) := by
  unfold text?
  cases tree.at? place with
  | none => simp
  | some entry => cases entry <;> simp

/-- The root is a directory in every tree. -/
theorem ne_root (tree : Tree) {place : Place} (other : tree.at? place ≠ some .directory) :
    place ≠ [] := by
  rintro rfl
  exact other rfl

theorem at?_inner {place : Place} (inner : place ≠ []) (tree : Tree) :
    tree.at? place = (tree.entries.find? (·.1 == place)).map (·.2) := by
  cases place with
  | nil => exact absurd rfl inner
  | cons name rest => rfl

theorem at?_put (tree : Tree) {place : Place} (inner : place ≠ []) (entry : Entry) (other : Place) :
    (tree.put place entry).at? other = if other = place then some entry else tree.at? other := by
  by_cases root : other = []
  · subst root
    rw [if_neg (Ne.symm inner)]
    rfl
  · rw [at?_inner root, at?_inner root, put]
    cases held : tree.entries.find? (·.1 == place) with
    | none =>
      simp only [Option.isSome_none, Bool.false_eq_true, if_false, List.find?_append]
      by_cases same : other = place
      · subst same
        simp [held]
      · simp [same, Ne.symm same]
    | some found =>
      simp only [Option.isSome_some, if_true, List.find?_map]
      have compared : ((fun held : Place × Entry => held.1 == other) ∘
          fun held => if held.1 == place then (place, entry) else held) = (·.1 == other) := by
        funext held
        by_cases here : held.1 = place <;> simp [here]
      rw [compared]
      by_cases same : other = place
      · subst same
        have here : found.1 = other := by simpa using List.find?_some held
        simp [held, here]
      · cases behind : tree.entries.find? (·.1 == other) with
        | none => simp [same]
        | some next =>
          have there : next.1 = other := by simpa using List.find?_some behind
          simp [same, there]

theorem at?_erase (tree : Tree) {place : Place} (inner : place ≠ []) (other : Place) :
    (tree.erase place).at? other = if other = place then none else tree.at? other := by
  by_cases root : other = []
  · subst root
    rw [if_neg (Ne.symm inner)]
    rfl
  · rw [at?_inner root, at?_inner root, erase, List.find?_filter]
    by_cases same : other = place
    · subst same
      simp
    · have passed : (fun held : Place × Entry => decide (held.1 != place ∧ held.1 == other)) =
          (·.1 == other) := by
        funext held
        by_cases here : held.1 = other <;> simp [here, same]
      rw [passed, if_neg same]

theorem text?_put (tree : Tree) {place : Place} (inner : place ≠ []) (text : String)
    (other : Place) :
    (tree.put place (.file text)).text? other =
      if other = place then some text else tree.text? other := by
  simp only [text?, at?_put tree inner]
  by_cases same : other = place <;> simp [same]

theorem text?_erase (tree : Tree) {place : Place} (inner : place ≠ []) (other : Place) :
    (tree.erase place).text? other = if other = place then none else tree.text? other := by
  simp only [text?, at?_erase tree inner]
  by_cases same : other = place <;> simp [same]

/-- What a file has is among the entries. -/
theorem exists_entry {tree : Tree} {place : Place} {text : String}
    (held : tree.text? place = some text) : ∃ entry, (place, entry) ∈ tree.entries := by
  have file := text?_eq_some_iff.mp held
  rw [at?_inner (ne_root tree (by simp [file]))] at file
  exact ⟨_, Table.mem_of_get? file⟩

/-! ### Names -/

/-- A tree in which whatever lies somewhere has a name. -/
structure Valid (tree : Tree) : Prop where
  entries : ∀ held ∈ tree.entries, ∀ name ∈ held.1, IsName name
  current : ∀ name ∈ tree.current, IsName name

theorem Valid.put {tree : Tree} (valid : tree.Valid) {place : Place}
    (named : ∀ name ∈ place, IsName name) (entry : Entry) : (tree.put place entry).Valid := by
  unfold Tree.put
  split
  · refine ⟨fun held member => ?_, valid.current⟩
    obtain ⟨former, inside, rfl⟩ := List.mem_map.mp member
    split
    · exact named
    · exact valid.entries former inside
  · refine ⟨fun held member => ?_, valid.current⟩
    rcases List.mem_append.mp member with former | new
    · exact valid.entries held former
    · obtain rfl := List.mem_singleton.mp new
      exact named

theorem Valid.erase {tree : Tree} (valid : tree.Valid) (place : Place) :
    (tree.erase place).Valid :=
  ⟨fun held member => valid.entries held (List.mem_filter.mp member).1, valid.current⟩

theorem Valid.walk {tree : Tree} {place found : Place} {steps : List String}
    (named : ∀ name ∈ place, IsName name) (plain : ∀ part ∈ steps, '/' ∉ part.toList)
    (leads : tree.walk place steps = .ok found) : ∀ name ∈ found, IsName name := by
  induction steps generalizing place with
  | nil =>
    obtain rfl : place = found := Except.ok.inj leads
    exact named
  | cons part rest ih =>
    have behind : ∀ part ∈ rest, '/' ∉ part.toList :=
      fun part member => plain part (List.mem_cons_of_mem _ member)
    unfold Tree.walk at leads
    split at leads
    · cases leads
    · cases leads
    · split at leads
      · exact ih named behind leads
      · rename_i here
        split at leads
        · exact ih (fun name member => named name (List.dropLast_subset _ member)) behind leads
        · rename_i above
          split at leads
          · cases leads
          · refine ih (fun name member => ?_) behind leads
            rcases List.mem_append.mp member with before | last
            · exact named name before
            · obtain rfl := List.mem_singleton.mp last
              simp only [Bool.or_eq_true, beq_iff_eq, not_or, String.isEmpty_iff] at here above
              exact ⟨here.1, here.2, above, plain _ (by simp)⟩

theorem Valid.locate {tree : Tree} (valid : tree.Valid) {path : String} {place : Place}
    (leads : tree.locate path = .ok place) : ∀ name ∈ place, IsName name := by
  unfold Tree.locate Tree.start at leads
  have plain : ∀ part ∈ parts path, '/' ∉ part.toList := fun _ => noSlash_of_mem_parts
  split at leads
  · cases leads
  · split at leads
    · cases leads
    · split at leads
      · exact Valid.walk (by simp) plain leads
      · exact Valid.walk valid.current plain leads

/-! ### Paths -/

theorem walk_append (tree : Tree) (place : Place) (steps more : List String) :
    tree.walk place (steps ++ more) = tree.walk place steps >>= fun found => tree.walk found more := by
  induction steps generalizing place with
  | nil => rfl
  | cons part rest ih =>
    simp only [List.cons_append, walk]
    repeat' split
    all_goals first | rfl | exact ih _

/-- A step to a name ends in the directory that it begins in. -/
theorem walk_name {tree : Tree} {place found : Place} {name : String} (named : IsName name) :
    tree.walk place [name] = .ok found ↔
      tree.at? place = some .directory ∧ name.utf8ByteSize ≤ longestName ∧
        found = place ++ [name] := by
  have here : (name.isEmpty || name == ".") = false := by
    simp [named.nonempty, named.notCurrent]
  have above : (name == "..") = false := by simp [named.notParent]
  unfold walk
  cases tree.at? place with
  | none => simp
  | some entry =>
    cases entry with
    | file text => simp
    | directory =>
      simp only [here, above, walk, Bool.false_eq_true, if_false, true_and]
      split
      · have tooLong : ¬name.utf8ByteSize ≤ longestName := by omega
        simp [tooLong]
      · have fits : name.utf8ByteSize ≤ longestName := by omega
        simp [fits, eq_comm]

/-- A slash at the end asks for a directory. -/
theorem walk_nothing {tree : Tree} {place found : Place} :
    tree.walk place [""] = .ok found ↔ tree.at? place = some .directory ∧ found = place := by
  unfold walk
  cases tree.at? place with
  | none => simp
  | some entry =>
    cases entry with
    | file text => simp
    | directory =>
      have here : ("".isEmpty || "" == ".") = true := rfl
      simp only [here, if_true, walk, Except.ok.injEq, true_and]
      exact eq_comm

/-- Where a path begins. -/
def origin (tree : Tree) (path : String) : Place :=
  if path.startsWith "/" then [] else tree.current

theorem locate_iff {tree : Tree} {path : String} {place : Place} :
    tree.locate path = .ok place ↔ path ≠ "" ∧ path.utf8ByteSize ≤ longestPath ∧
      tree.walk (tree.origin path) (parts path) = .ok place := by
  unfold locate start origin
  by_cases empty : path.isEmpty = true
  · simp [String.isEmpty_iff.mp empty, bind, Except.bind]
  · by_cases long : path.utf8ByteSize > longestPath
    · have tooLong : ¬path.utf8ByteSize ≤ longestPath := by omega
      simp [empty, long, tooLong, bind, Except.bind]
    · have named : path ≠ "" := fun none => empty (String.isEmpty_iff.mpr none)
      have short : path.utf8ByteSize ≤ longestPath := by omega
      by_cases rooted : path.startsWith "/" = true <;>
        simp [empty, long, rooted, named, short, bind, Except.bind]

/-- Where the names in a directory lie. -/
def home? (tree : Tree) (directory : String) : Except Fault Place :=
  tree.walk (tree.origin directory) (leadParts directory)

/-- A name in a directory lies where the directory is. -/
theorem locate_join {tree : Tree} {directory name : String} (named : IsName name) {place : Place} :
    tree.locate (join directory name) = .ok place ↔
      (join directory name).utf8ByteSize ≤ longestPath ∧ name.utf8ByteSize ≤ longestName ∧
        ∃ home, tree.home? directory = .ok home ∧ tree.at? home = some .directory ∧
          place = home ++ [name] := by
  have some : join directory name ≠ "" := by
    rw [join_eq named.noSlash]
    intro none
    exact named.nonempty (String.append_eq_empty_iff.mp none).2
  have begins : tree.origin (join directory name) = tree.origin directory := by
    rw [origin, origin, startsWith_join named.noSlash]
  rw [locate_iff, begins, parts_join named.noSlash, walk_append, bind_eq_ok]
  simp only [walk_name named, home?, ne_eq, some, not_false_eq_true, true_and]
  constructor
  · rintro ⟨short, home, leads, directory, small, rfl⟩
    exact ⟨short, small, home, leads, directory, rfl⟩
  · rintro ⟨short, small, home, leads, directory, rfl⟩
    exact ⟨short, home, leads, directory, small, rfl⟩

/-- Different names in a directory lead to different places. -/
theorem locate_join_inj {tree : Tree} {directory name other : String} (named : IsName name)
    (otherNamed : IsName other) {place : Place}
    (leads : tree.locate (join directory name) = .ok place)
    (otherLeads : tree.locate (join directory other) = .ok place) : name = other := by
  obtain ⟨-, -, home, -, -, rfl⟩ := (locate_join named).mp leads
  obtain ⟨-, -, otherHome, -, -, same⟩ := (locate_join otherNamed).mp otherLeads
  simpa using (List.append_inj' same rfl).2

/-- A directory that its path names lies where its names do. -/
theorem locate_directory {tree : Tree} {directory : String} (nonempty : directory ≠ "")
    (short : directory.utf8ByteSize ≤ longestPath) {home : Place} :
    tree.locate directory = .ok home ∧ tree.at? home = some .directory ↔
      tree.home? directory = .ok home ∧ tree.at? home = some .directory := by
  rw [locate_iff, home?, leadParts]
  simp only [ne_eq, nonempty, not_false_eq_true, short, true_and, String.isEmpty_iff, if_false]
  split
  · rename_i ends
    obtain ⟨front, rfl⟩ := endsWith_slash_iff.mp ends
    rw [parts_append_slash, List.dropLast_concat, walk_append, bind_eq_ok]
    simp only [walk_nothing]
    constructor
    · rintro ⟨⟨found, leads, there, rfl⟩, -⟩
      exact ⟨leads, there⟩
    · rintro ⟨leads, there⟩
      exact ⟨⟨home, leads, there, rfl⟩, there⟩
  · rfl

theorem locate_directory_of_join {tree : Tree} {directory name : String} (named : IsName name)
    (nonempty : directory ≠ "") {place : Place}
    (leads : tree.locate (join directory name) = .ok place) :
    ∃ home, tree.locate directory = .ok home ∧ tree.at? home = some .directory ∧
      place = home ++ [name] := by
  obtain ⟨short, -, home, found, there, rfl⟩ := (locate_join named).mp leads
  have shorter : directory.utf8ByteSize ≤ longestPath := by
    have size := size_join directory named.noSlash
    omega
  exact ⟨home, ((locate_directory nonempty shorter).mpr ⟨found, there⟩).1, there, rfl⟩

/-! ### Growth -/

/-- All directories are still there. -/
structure Grows (before after : Tree) : Prop where
  current : after.current = before.current
  directories : ∀ place, before.at? place = some .directory → after.at? place = some .directory

theorem Grows.refl (tree : Tree) : tree.Grows tree := ⟨rfl, fun _ there => there⟩

theorem Grows.trans {before between after : Tree} (first : before.Grows between)
    (second : between.Grows after) : before.Grows after :=
  ⟨second.current.trans first.current,
    fun place there => second.directories place (first.directories place there)⟩

theorem Grows.walk {before after : Tree} (grows : before.Grows after) {place found : Place}
    {steps : List String} (leads : before.walk place steps = .ok found) :
    after.walk place steps = .ok found := by
  induction steps generalizing place with
  | nil => exact leads
  | cons part rest ih =>
    unfold Tree.walk at leads ⊢
    cases there : before.at? place with
    | none => simp [there] at leads
    | some entry =>
      cases entry with
      | file text => simp [there] at leads
      | directory =>
        simp only [there, grows.directories _ there] at leads ⊢
        split
        · simp_all only [if_true]
        · split
          · simp_all
          · split <;> simp_all

/-- Paths lead where they did. -/
theorem Grows.locate {before after : Tree} (grows : before.Grows after) {path : String}
    {place : Place} (leads : before.locate path = .ok place) : after.locate path = .ok place := by
  rw [locate_iff] at leads ⊢
  have begins : after.origin path = before.origin path := by
    rw [origin, origin, grows.current]
  rw [begins]
  exact ⟨leads.1, leads.2.1, grows.walk leads.2.2⟩

/-- Only the touched places have another text afterwards, and all directories are still there. -/
structure Edits (touched : Place → Prop) (before after : Tree) : Prop extends
    Grows before after where
  valid : before.Valid → after.Valid
  elsewhere : ∀ place, ¬touched place → after.text? place = before.text? place

theorem Edits.refl (touched : Place → Prop) (tree : Tree) : Edits touched tree tree :=
  ⟨.refl tree, id, fun _ _ => rfl⟩

theorem Edits.trans {touched : Place → Prop} {before between after : Tree}
    (first : Edits touched before between) (second : Edits touched between after) :
    Edits touched before after :=
  ⟨first.toGrows.trans second.toGrows, second.valid ∘ first.valid,
    fun place outside => (second.elsewhere place outside).trans (first.elsewhere place outside)⟩

theorem Edits.put {touched : Place → Prop} {before tree : Tree} (edits : Edits touched before tree)
    {place : Place} (inside : touched place) (other : tree.at? place ≠ some .directory)
    (named : before.Valid → ∀ name ∈ place, IsName name) (text : String) :
    Edits touched before (tree.put place (.file text)) where
  current := by
    rw [← edits.current]
    unfold Tree.put
    split <;> rfl
  directories := fun found there => by
    have still := edits.directories found there
    rw [at?_put tree (ne_root tree other), if_neg]
    · exact still
    · rintro rfl
      exact other still
  valid := fun valid => (edits.valid valid).put (named valid) _
  elsewhere := fun found outside => by
    rw [text?_put tree (ne_root tree other), if_neg]
    · exact edits.elsewhere found outside
    · rintro rfl
      exact outside inside

theorem Edits.erase {touched : Place → Prop} {before tree : Tree}
    (edits : Edits touched before tree) {place : Place} (inside : touched place)
    (other : tree.at? place ≠ some .directory) : Edits touched before (tree.erase place) where
  current := edits.current
  directories := fun found there => by
    have still := edits.directories found there
    rw [at?_erase tree (ne_root tree other), if_neg]
    · exact still
    · rintro rfl
      exact other still
  valid := fun valid => (edits.valid valid).erase place
  elsewhere := fun found outside => by
    rw [text?_erase tree (ne_root tree other), if_neg]
    · exact edits.elsewhere found outside
    · rintro rfl
      exact outside inside

/-! ### Operations -/

theorem withoutSlashes_of_ends {path : String} (ends : ¬path.endsWith "/" = true) :
    withoutSlashes path = path := by
  rw [withoutSlashes]
  cases reversed : path.toList.reverse with
  | nil => simpa using reversed
  | cons c rest =>
    have text : path.toList = rest.reverse ++ [c] := by
      rw [← List.reverse_reverse path.toList, reversed, List.reverse_cons]
    have other : (c == '/') = false := by
      rw [beq_eq_false_iff_ne]
      rintro rfl
      exact ends (endsWith_slash_iff.mpr ⟨String.ofList rest.reverse, String.toList_inj.mp (by simp [text])⟩)
    simp [other, ← text]

theorem read_iff {tree : Tree} {path text : String} :
    tree.read path = .ok text ↔
      ∃ place, tree.locate path = .ok place ∧ tree.text? place = some text := by
  rw [read, bind_eq_ok]
  refine exists_congr fun place => and_congr_right fun _ => ?_
  rw [text?_eq_some_iff]
  cases tree.at? place with
  | none => simp [throw, throwThe, MonadExceptOf.throw]
  | some entry =>
    cases entry <;> simp [throw, throwThe, MonadExceptOf.throw, pure, Except.pure]

/-- A path that leads to nothing cannot be read. -/
theorem read_of_gone {tree : Tree} {path : String} {place : Place}
    (leads : tree.locate path = .ok place) (gone : tree.at? place = none) :
    tree.read path = .error .missing := by
  simp [read, leads, gone, bind, Except.bind, throw, throwThe, MonadExceptOf.throw]

theorem write_eq {tree after : Tree} {path text : String}
    (done : tree.write path text = .ok after) :
    ∃ place, tree.locate path = .ok place ∧ tree.at? place ≠ some .directory ∧
      after = tree.put place (.file text) := by
  unfold write at done
  split at done
  · simp [bind_eq_ok, throw, throwThe, MonadExceptOf.throw] at done
  · rw [bind_eq_ok] at done
    obtain ⟨place, leads, done⟩ := done
    have other : tree.at? place ≠ some .directory := by
      intro there
      simp [there, throw, throwThe, MonadExceptOf.throw] at done
    refine ⟨place, leads, other, ?_⟩
    split at done
    · exact absurd (by assumption) other
    · exact (Except.ok.inj done).symm

theorem write_edits {tree after : Tree} {path text : String}
    (done : tree.write path text = .ok after) :
    ∃ place, tree.locate path = .ok place ∧ Edits (· = place) tree after ∧
      after.text? place = some text := by
  obtain ⟨place, leads, other, rfl⟩ := write_eq done
  refine ⟨place, leads, ?_, by rw [text?_put tree (ne_root tree other), if_pos rfl]⟩
  exact (Edits.refl (· = place) tree).put rfl other (fun valid => valid.locate leads) text

/-- Only a file can be moved, and never in place of a directory. -/
theorem rename_eq {tree after : Tree} {source target : String}
    (done : tree.rename source target = .ok after) :
    ∃ held place text, tree.locate source = .ok held ∧ tree.locate target = .ok place ∧
      tree.at? held = some (.file text) ∧ tree.at? place ≠ some .directory ∧
      after = if held = place then tree else (tree.erase held).put place (.file text) := by
  rw [rename, bind_eq_ok] at done
  obtain ⟨held, leads, done⟩ := done
  rw [bind_eq_ok] at done
  obtain ⟨place, reaches, done⟩ := done
  simp only [throw, throwThe, MonadExceptOf.throw, bind, Except.bind, pure, Except.pure] at done
  cases busy : (!target.endsWith "/" && (lastName? target).isNone) with
  | true => simp [-Bool.and_eq_true, busy] at done
  | false =>
    simp only [busy, Bool.false_eq_true, if_false] at done
    cases there : tree.at? held with
    | none => simp [there] at done
    | some entry =>
      cases entry with
      | directory => simp [there] at done
      | file text =>
        simp only [there] at done
        split at done
        · cases done
        · rename_i ends
          rw [withoutSlashes_of_ends ends] at reaches
          refine ⟨held, place, text, leads, reaches, there, ?_, ?_⟩
          · intro directory
            simp [directory] at done
          · split at done
            · cases done
            · simpa using (Except.ok.inj done).symm

theorem rename_edits {tree after : Tree} {source target : String}
    (done : tree.rename source target = .ok after) :
    ∃ held place text, tree.locate source = .ok held ∧ tree.locate target = .ok place ∧
      tree.text? held = some text ∧ Edits (fun found => found = held ∨ found = place) tree after ∧
      after.text? place = some text := by
  obtain ⟨held, place, text, leads, reaches, there, other, rfl⟩ := rename_eq done
  have own : tree.text? held = some text := text?_eq_some_iff.mpr there
  refine ⟨held, place, text, leads, reaches, own, ?_⟩
  by_cases same : held = place
  · rw [if_pos same]
    exact ⟨.refl _ tree, same ▸ own⟩
  · rw [if_neg same]
    have file : tree.at? held ≠ some .directory := by simp [there]
    have free : (tree.erase held).at? place ≠ some .directory := by
      rw [at?_erase tree (ne_root tree file), if_neg (Ne.symm same)]
      exact other
    refine ⟨?_, by rw [text?_put _ (ne_root tree other), if_pos rfl]⟩
    exact ((Edits.refl _ tree).erase (.inl rfl) file).put (.inr rfl) free
      (fun valid => valid.locate reaches) text

/-- A directory is made only where nothing is. -/
theorem makeDirectory_eq {tree after : Tree} {path : String}
    (done : tree.makeDirectory path = .ok after) :
    ∃ place, tree.locate (withoutSlashes path) = .ok place ∧ tree.at? place = none ∧
      after = tree.put place .directory := by
  unfold makeDirectory at done
  dsimp only at done
  split at done
  · cases done
  · rw [bind_eq_ok] at done
    obtain ⟨place, leads, done⟩ := done
    refine ⟨place, leads, ?_⟩
    cases free : tree.at? place with
    | some entry => simp [free, throw, throwThe, MonadExceptOf.throw] at done
    | none => exact ⟨rfl, by simpa [free, pure, Except.pure, eq_comm] using done⟩

theorem makeDirectory_edits {tree after : Tree} {path : String}
    (done : tree.makeDirectory path = .ok after) : Edits (fun _ => False) tree after := by
  obtain ⟨place, leads, free, rfl⟩ := makeDirectory_eq done
  have inner : place ≠ [] := ne_root tree (by simp [free])
  refine ⟨⟨by unfold put; split <;> rfl, fun found there => ?_⟩,
    fun valid => valid.put (valid.locate leads) _, fun found _ => ?_⟩
  · rw [at?_put tree inner]
    split
    · rfl
    · exact there
  · by_cases same : found = place
    · simp [text?, at?_put tree inner, same, free]
    · simp [text?, at?_put tree inner, same]

theorem nameIn?_eq_some_iff {directory place : Place} {name : String} :
    nameIn? directory place = some name ↔ place = directory ++ [name] := by
  unfold nameIn?
  have whole : place = place.reverse.reverse := by simp
  cases reversed : place.reverse with
  | nil =>
    rw [reversed] at whole
    simp [whole]
  | cons last above =>
    rw [reversed, List.reverse_cons] at whole
    by_cases here : above.reverse = directory <;> simp [here, whole]

/-- The names in a directory are those under which something lies there. -/
theorem names_eq {tree : Tree} {path : String} {found : List String}
    (listed : tree.names path = .ok found) :
    ∃ home, tree.locate path = .ok home ∧ tree.at? home = some .directory ∧
      ∀ name, name ∈ found ↔ ∃ entry, (home ++ [name], entry) ∈ tree.entries := by
  rw [names, bind_eq_ok] at listed
  obtain ⟨home, leads, listed⟩ := listed
  cases there : tree.at? home with
  | none => simp [there, throw, throwThe, MonadExceptOf.throw] at listed
  | some entry =>
    cases entry with
    | file text => simp [there, throw, throwThe, MonadExceptOf.throw] at listed
    | directory =>
      obtain rfl : _ = found := by simpa [there, pure, Except.pure] using listed
      refine ⟨home, leads, there, fun name => ?_⟩
      simp [List.mem_filterMap, nameIn?_eq_some_iff]

theorem exists_names {tree : Tree} {path : String} {home : Place}
    (leads : tree.locate path = .ok home) (there : tree.at? home = some .directory) :
    ∃ found, tree.names path = .ok found := by
  simp [names, leads, there, bind, Except.bind, pure, Except.pure]

/-- Names in a tree whose places have names. -/
theorem Valid.named_of_names {tree : Tree} (valid : tree.Valid) {path : String}
    {names : List String} (listed : tree.names path = .ok names) : ∀ name ∈ names, IsName name := by
  obtain ⟨home, -, -, members⟩ := names_eq listed
  intro name member
  obtain ⟨entry, held⟩ := (members name).mp member
  exact valid.entries _ held name (by simp)

/-- Empty text names no directory. -/
theorem ne_empty_of_names {tree : Tree} {directory : String} {names : List String}
    (listed : tree.names directory = .ok names) : directory ≠ "" := by
  obtain ⟨home, leads, -⟩ := names_eq listed
  exact (locate_iff.mp leads).1

/-- A file in a directory that a path names is listed there. -/
theorem mem_names {tree : Tree} {directory name text : String} {names : List String}
    (named : IsName name) (nonempty : directory ≠ "") (listed : tree.names directory = .ok names)
    (held : tree.read (join directory name) = .ok text) : name ∈ names := by
  obtain ⟨place, leads, own⟩ := read_iff.mp held
  obtain ⟨home, found, -, rfl⟩ := locate_directory_of_join named nonempty leads
  obtain ⟨other, reaches, -, members⟩ := names_eq listed
  obtain rfl : home = other := Except.ok.inj (found.symm.trans reaches)
  exact (members name).mpr (exists_entry own)

/-- Only a file can be removed. -/
theorem remove_eq {tree after : Tree} {path : String} (done : tree.remove path = .ok after) :
    ∃ place text, tree.locate path = .ok place ∧ tree.at? place = some (.file text) ∧
      after = tree.erase place := by
  rw [remove, bind_eq_ok] at done
  obtain ⟨place, leads, done⟩ := done
  cases there : tree.at? place with
  | none => simp [there, throw, throwThe, MonadExceptOf.throw] at done
  | some entry =>
    cases entry with
    | directory => simp [there, throw, throwThe, MonadExceptOf.throw] at done
    | file text =>
      exact ⟨place, text, leads, there, by simpa [there, pure, Except.pure, eq_comm] using done⟩

end Endpoint.Disk.Tree
