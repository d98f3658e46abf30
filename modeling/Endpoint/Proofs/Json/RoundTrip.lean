import Endpoint.Json.Pretty
import Endpoint.Proofs.Json.Text

/-!
A value without numbers, nested no deeper than the reader goes, is read back from its written
forms: the one without blanks and the one over several lines.
-/

namespace Endpoint.Json

/-- A value without numbers that is nested no deeper than given. -/
inductive Plain : Nat → Json → Prop
  | null {depth : Nat} : Plain depth .null
  | bool {depth : Nat} (value : Bool) : Plain depth (.bool value)
  | text {depth : Nat} (value : String) : Plain depth (.text value)
  | list {depth : Nat} {items : List Json} (held : ∀ item ∈ items, Plain depth item) :
      Plain (depth + 1) (.list items)
  | record {depth : Nat} {entries : List (String × Json)}
      (held : ∀ entry ∈ entries, Plain depth entry.2) : Plain (depth + 1) (.record entries)

/-! ### Layouts -/

/-- Blanks alone. -/
def IsBlank (text : List Char) : Prop := ∀ c ∈ text, Reader.isBlank c = true

theorem isBlank_nil : IsBlank [] := by simp [IsBlank]

/-- The characters of an entry, with blanks behind the colon. -/
def entryRow (space : List Char) (shown : Json → List Char) (entry : String × Json) : List Char :=
  (quoted entry.1).toList ++ ':' :: (space ++ shown entry.2)

/-- The characters between the marks of a list or record: the rows with commas between them, and
blanks in front of the first row, behind each comma and behind the last row. -/
def rowsText (start gap ends : List Char) (rows : List (List Char)) : List Char :=
  start ++ ((',' :: gap).intercalate rows ++ ends)

/-- A value without numbers that is nested no deeper than given, and characters that it is laid
out in: blanks stand between its parts as they like. -/
inductive Laid : Nat → Json → List Char → Prop
  | null {depth : Nat} : Laid depth .null ['n', 'u', 'l', 'l']
  | bool {depth : Nat} (value : Bool) :
      Laid depth (.bool value) (if value then ['t', 'r', 'u', 'e'] else ['f', 'a', 'l', 's', 'e'])
  | text {depth : Nat} (value : String) : Laid depth (.text value) (quoted value).toList
  | listEmpty {depth : Nat} : Laid (depth + 1) (.list []) ['[', ']']
  | list {depth : Nat} {items : List Json} {start gap ends : List Char}
      (shown : Json → List Char) (some : items ≠ []) (before : IsBlank start)
      (between : IsBlank gap) (behind : IsBlank ends)
      (held : ∀ item ∈ items, Laid depth item (shown item)) :
      Laid (depth + 1) (.list items) ('[' :: (rowsText start gap ends (items.map shown) ++ [']']))
  | recordEmpty {depth : Nat} : Laid (depth + 1) (.record []) ['\x7b', '\x7d']
  | record {depth : Nat} {entries : List (String × Json)} {start gap ends space : List Char}
      (shown : Json → List Char) (some : entries ≠ []) (before : IsBlank start)
      (between : IsBlank gap) (behind : IsBlank ends) (apart : IsBlank space)
      (held : ∀ entry ∈ entries, Laid depth entry.2 (shown entry.2)) :
      Laid (depth + 1) (.record entries)
        ('\x7b' :: (rowsText start gap ends (entries.map (entryRow space shown)) ++ ['\x7d']))

/-- What a value is laid out in begins with a character that is no blank and closes nothing. -/
theorem Laid.start {depth : Nat} {json : Json} {text : List Char} (laid : Laid depth json text) :
    ∃ first more, text = first :: more ∧ Reader.isBlank first = false ∧ first ≠ ']' := by
  cases laid with
  | null => exact ⟨'n', _, rfl, rfl, by decide⟩
  | bool value =>
    cases value
    · exact ⟨'f', _, rfl, rfl, by decide⟩
    · exact ⟨'t', _, rfl, rfl, by decide⟩
  | text value => exact ⟨'"', _, quoted_toList value, rfl, by decide⟩
  | listEmpty => exact ⟨'[', _, rfl, rfl, by decide⟩
  | list => exact ⟨'[', _, rfl, rfl, by decide⟩
  | recordEmpty => exact ⟨'\x7b', _, rfl, by decide, by decide⟩
  | record => exact ⟨'\x7b', _, rfl, by decide, by decide⟩

/-- Rows begin as the first of them does. -/
theorem rows_cons (gap : List Char) (row : List Char) (rows : List (List Char)) :
    ∃ behind, (',' :: gap).intercalate (row :: rows) = row ++ behind := by
  cases rows with
  | nil => exact ⟨[], by simp⟩
  | cons next rows => exact ⟨',' :: gap ++ (',' :: gap).intercalate (next :: rows), by simp⟩

namespace Reader

/-! ### Blanks and what one character in front says -/

variable {fuel depth : Nat} {rest : List Char}

theorem skip_cons {c : Char} (shown : isBlank c = false) (rest : List Char) :
    skip (c :: rest) = c :: rest := by
  rw [skip, List.dropWhile_cons_of_neg (by simp [shown])]

theorem skip_append {blanks : List Char} (blank : IsBlank blanks) (rest : List Char) :
    skip (blanks ++ rest) = skip rest := List.dropWhile_append_of_pos blank

/-- Blanks in front of a value are read past. -/
theorem value?_append {blanks : List Char} (blank : IsBlank blanks) (outline : Outline)
    (rest : List Char) :
    value? fuel outline depth (blanks ++ rest) = value? fuel outline depth rest := by
  cases fuel with
  | zero => rfl
  | succ fuel => rw [value?, value?, skip_append blank]

theorem items?_append {blanks : List Char} (blank : IsBlank blanks) (outline : Outline)
    (rest : List Char) :
    items? fuel outline depth (blanks ++ rest) = items? fuel outline depth rest := by
  cases fuel with
  | zero => rfl
  | succ fuel => rw [items?, items?, value?_append blank]

theorem entries?_append {blanks : List Char} (blank : IsBlank blanks) (outline : Outline)
    (rest : List Char) :
    entries? fuel outline depth (blanks ++ rest) = entries? fuel outline depth rest := by
  cases fuel with
  | zero => rfl
  | succ fuel => rw [entries?, entries?, skip_append blank]

theorem value?_quoted (text : String) :
    value? (fuel + 1) .whole depth ((quoted text).toList ++ rest) = some (.text text, rest) := by
  have opened (rest : List Char) : value? (fuel + 1) .whole depth ('"' :: rest) =
      (text? .whole rest).map fun found => (.text found.1, found.2) := rfl
  rw [quoted_toList, List.cons_append, List.append_assoc, List.singleton_append, opened,
    text?_flatMap_escape, Option.map_some]

/-- A list that is not empty, with blanks in front of its first item. -/
theorem value?_list {start : List Char} (before : IsBlank start) {first : Char}
    (shown : isBlank first = false) (other : first ≠ ']') :
    value? (fuel + 1) .whole (depth + 1) ('[' :: (start ++ first :: rest)) =
      (items? fuel .whole depth (first :: rest)).map fun found => (.list found.1, found.2) := by
  rw [value?, skip_cons rfl]
  simp only [Nat.succ_ne_zero, false_and, if_false, skip_append before, skip_cons shown]
  split
  · simp_all
  · rfl

/-- A record that is not empty, with blanks in front of its first key. -/
theorem value?_record {start : List Char} (before : IsBlank start) :
    value? (fuel + 1) .whole (depth + 1) ('\x7b' :: (start ++ '"' :: rest)) =
      (entries? fuel .whole depth ('"' :: rest)).map fun found =>
        (.record found.1, found.2) := by
  have first : skip (start ++ '"' :: rest) = '"' :: rest := by rw [skip_append before, skip_cons rfl]
  rw [value?, skip_cons (by decide)]
  split
  case h_6 brace _ _ _ _ _ _ same =>
    obtain ⟨rfl, rfl⟩ := List.cons.inj same
    simp only [first]
    rfl
  all_goals simp_all

/-! ### Items and entries -/

/-- What a value is read from in front of any rest. -/
def Reads (fuel depth : Nat) (text : List Char) (json : Json) : Prop :=
  ∀ rest, value? fuel .whole depth (text ++ rest) = some (json, rest)

section Rows

variable {gap ends space : List Char} (between : IsBlank gap) (behind : IsBlank ends)
variable {shown : Json → List Char}

include behind in
theorem items?_last {item : Json} {text : List Char} (reads : Reads fuel depth text item)
    (rest : List Char) :
    items? (fuel + 1) .whole depth (text ++ (ends ++ ']' :: rest)) = some ([item], rest) := by
  rw [items?, reads]
  simp only [Option.bind_eq_bind, Option.bind_some, skip_append behind,
    skip_cons (rfl : isBlank ']' = false)]
  rfl

include between in
theorem items?_more {item : Json} {text more : List Char} {items : List Json}
    (reads : Reads fuel depth text item)
    (found : items? fuel .whole depth more = some (items, rest)) :
    items? (fuel + 1) .whole depth (text ++ ',' :: (gap ++ more)) =
      some (item :: items, rest) := by
  rw [items?, reads]
  simp only [Option.bind_eq_bind, Option.bind_some, skip_cons (rfl : isBlank ',' = false),
    items?_append between, found]
  rfl

include between behind in
/-- The items of a list are read if each of them is, whatever blanks stand behind the commas and
in front of the end. -/
theorem items?_rows {items : List Json} (some : items ≠ [])
    (reads : ∀ item ∈ items, ∀ fuel, 2 * (shown item).length ≤ fuel →
      Reads fuel depth (shown item) item)
    {fuel : Nat} (enough : 2 * ((',' :: gap).intercalate (items.map shown)).length < fuel)
    (rest : List Char) :
    items? fuel .whole depth
        ((',' :: gap).intercalate (items.map shown) ++ (ends ++ ']' :: rest)) =
      Option.some (items, rest) := by
  induction items generalizing fuel with
  | nil => exact absurd rfl some
  | cons item items ih =>
    obtain ⟨fuel, rfl⟩ := Nat.exists_eq_add_one_of_ne_zero (Nat.ne_zero_of_lt enough)
    cases items with
    | nil =>
      simp only [List.map_cons, List.map_nil, List.intercalate_singleton] at enough ⊢
      exact items?_last behind (reads item (by simp) fuel (by omega)) rest
    | cons next items =>
      have rows : (',' :: gap).intercalate ((item :: next :: items).map shown) =
          shown item ++ ',' :: (gap ++ (',' :: gap).intercalate ((next :: items).map shown)) := by
        simp
      rw [rows] at enough ⊢
      simp only [List.length_append, List.length_cons] at enough
      simp only [List.append_assoc, List.cons_append]
      have here := reads item (by simp) fuel (by omega)
      have others : ∀ other ∈ next :: items, _ := fun other member =>
        reads other (List.mem_cons_of_mem _ member)
      exact items?_more between here (ih (List.cons_ne_nil _ _) others (by omega))

/-- An entry, as it stands in front of some text. -/
theorem entryRow_append (key : String) (value : Json) (rest : List Char) :
    entryRow space shown (key, value) ++ rest =
      '"' :: (key.toList.flatMap escape ++ '"' :: ':' :: (space ++ (shown value ++ rest))) := by
  simp [entryRow, quoted_toList]

variable (apart : IsBlank space)

include apart behind in
theorem entries?_last {key : String} {value : Json} (reads : Reads fuel depth (shown value) value)
    (rest : List Char) :
    entries? (fuel + 1) .whole depth
        (entryRow space shown (key, value) ++ (ends ++ '\x7d' :: rest)) =
      some ([(key, value)], rest) := by
  have named := text?_flatMap_escape key
    (':' :: (space ++ (shown value ++ (ends ++ '\x7d' :: rest))))
  have read := reads (ends ++ '\x7d' :: rest)
  rw [entryRow_append, entries?, skip_cons rfl]
  simp only [named, Option.bind_eq_bind, Option.bind_some, skip_cons (rfl : isBlank ':' = false),
    Outline.ofEntry, value?_append apart, read, skip_append behind,
    skip_cons (by decide : isBlank '\x7d' = false)]
  rfl

include apart between in
theorem entries?_more {key : String} {value : Json} {more : List Char}
    {entries : List (String × Json)} (reads : Reads fuel depth (shown value) value)
    (found : entries? fuel .whole depth more = some (entries, rest)) :
    entries? (fuel + 1) .whole depth
        (entryRow space shown (key, value) ++ ',' :: (gap ++ more)) =
      some ((key, value) :: entries, rest) := by
  have named := text?_flatMap_escape key
    (':' :: (space ++ (shown value ++ ',' :: (gap ++ more))))
  have read := reads (',' :: (gap ++ more))
  rw [entryRow_append, entries?, skip_cons rfl]
  simp only [named, Option.bind_eq_bind, Option.bind_some, skip_cons (rfl : isBlank ':' = false),
    Outline.ofEntry, value?_append apart, read, skip_cons (rfl : isBlank ',' = false),
    entries?_append between, found]
  rfl

include between behind apart in
/-- The entries of a record are read if the value of each of them is, whatever blanks stand behind
the colons and commas and in front of the end. -/
theorem entries?_rows {entries : List (String × Json)} (some : entries ≠ [])
    (reads : ∀ entry ∈ entries, ∀ fuel, 2 * (shown entry.2).length ≤ fuel →
      Reads fuel depth (shown entry.2) entry.2)
    {fuel : Nat}
    (enough : 2 * ((',' :: gap).intercalate (entries.map (entryRow space shown))).length < fuel)
    (rest : List Char) :
    entries? fuel .whole depth
        ((',' :: gap).intercalate (entries.map (entryRow space shown)) ++
          (ends ++ '\x7d' :: rest)) =
      Option.some (entries, rest) := by
  induction entries generalizing fuel with
  | nil => exact absurd rfl some
  | cons entry entries ih =>
    obtain ⟨fuel, rfl⟩ := Nat.exists_eq_add_one_of_ne_zero (Nat.ne_zero_of_lt enough)
    obtain ⟨key, value⟩ := entry
    have short : (shown value).length ≤ (entryRow space shown (key, value)).length := by
      simp [entryRow]
      omega
    cases entries with
    | nil =>
      simp only [List.map_cons, List.map_nil, List.intercalate_singleton] at enough ⊢
      exact entries?_last behind apart
        (reads (key, value) (by simp) fuel (by simp only; omega)) rest
    | cons next entries =>
      have rows : (',' :: gap).intercalate
          (((key, value) :: next :: entries).map (entryRow space shown)) =
            entryRow space shown (key, value) ++ ',' :: (gap ++
              (',' :: gap).intercalate ((next :: entries).map (entryRow space shown))) := by
        simp
      rw [rows] at enough ⊢
      simp only [List.length_append, List.length_cons] at enough
      simp only [List.append_assoc, List.cons_append]
      have here := reads (key, value) (by simp) fuel (by simp only; omega)
      have others : ∀ other ∈ next :: entries, _ := fun other member =>
        reads other (List.mem_cons_of_mem _ member)
      exact entries?_more between apart here (ih (List.cons_ne_nil _ _) others (by omega))

end Rows

end Reader

/-! ### Values -/

/-- No value is laid out in nothing, so fuel for its characters is some fuel. -/
theorem Laid.reads_of_succ {depth : Nat} {json : Json} {text : List Char}
    (laid : Laid depth json text)
    (reads : ∀ fuel, 2 * text.length ≤ fuel + 1 → Reader.Reads (fuel + 1) depth text json)
    (fuel : Nat) (enough : 2 * text.length ≤ fuel) : Reader.Reads fuel depth text json := by
  obtain ⟨first, more, shown, -⟩ := laid.start
  have some : fuel ≠ 0 := by
    rw [shown, List.length_cons] at enough
    omega
  obtain ⟨fuel, rfl⟩ := Nat.exists_eq_add_one_of_ne_zero some
  exact reads fuel enough

/-- A value without numbers is read from what it is laid out in, in front of any rest. -/
theorem Laid.reads {depth : Nat} {json : Json} {text : List Char} (laid : Laid depth json text)
    (fuel : Nat) (enough : 2 * text.length ≤ fuel + 1) :
    Reader.Reads (fuel + 1) depth text json := by
  intro rest
  induction laid generalizing fuel rest with
  | null => rfl
  | bool value => cases value <;> rfl
  | text value => exact Reader.value?_quoted value
  | listEmpty => rfl
  | recordEmpty => rfl
  | @list depth items start gap ends shown some before between behind held ih =>
    simp only [rowsText, List.length_cons, List.length_append] at enough
    have read := Reader.items?_rows between behind some
      (fun item member => (held item member).reads_of_succ (ih item member))
      (by omega : 2 * ((',' :: gap).intercalate (items.map shown)).length < fuel) rest
    obtain ⟨item, items, rfl⟩ := List.exists_cons_of_ne_nil some
    obtain ⟨first, more, begins, quiet, other⟩ := (held item (by simp)).start
    obtain ⟨rows, split⟩ := rows_cons gap (shown item) (items.map shown)
    rw [List.map_cons, split, begins] at read
    rw [rowsText, List.map_cons, split, begins]
    simp only [List.cons_append, List.append_assoc, List.nil_append] at read ⊢
    rw [Reader.value?_list before quiet other, read, Option.map_some]
  | @record depth entries start gap ends space shown some before between behind apart held ih =>
    simp only [rowsText, List.length_cons, List.length_append] at enough
    have read := Reader.entries?_rows between behind apart some
      (fun entry member => (held entry member).reads_of_succ (ih entry member))
      (by omega :
        2 * ((',' :: gap).intercalate (entries.map (entryRow space shown))).length < fuel) rest
    obtain ⟨entry, entries, rfl⟩ := List.exists_cons_of_ne_nil some
    obtain ⟨rows, split⟩ :=
      rows_cons gap (entryRow space shown entry) (entries.map (entryRow space shown))
    rw [List.map_cons, split, entryRow, quoted_toList] at read
    rw [rowsText, List.map_cons, split, entryRow, quoted_toList]
    simp only [List.cons_append, List.append_assoc, List.nil_append] at read ⊢
    rw [Reader.value?_record before, read, Option.map_some]

/-- A text that a value without numbers is laid out in is read as the value, whatever blanks stand
behind it. -/
theorem Laid.read? {json : Json} {text blanks : String} (laid : Laid deepest json text.toList)
    (blank : IsBlank blanks.toList) : read? (text ++ blanks) = some json := by
  have read := laid.reads (2 * (text ++ blanks).toList.length + 1)
    (by rw [String.toList_append, List.length_append]; omega) blanks.toList
  rw [← String.toList_append] at read
  have skipped : Reader.skip blanks.toList = [] := by
    rw [← List.append_nil blanks.toList, Reader.skip_append blank]
    rfl
  rw [Json.read?, readOutline?]
  simp only [read, skipped]
  rfl

/-! ### Without blanks -/

theorem writeList_eq_map (items : List Json) : writeList items = items.map write := by
  induction items with
  | nil => rfl
  | cons item items ih => rw [writeList, ih, List.map_cons]

theorem writeEntries_toList (entries : List (String × Json)) :
    (writeEntries entries).map String.toList =
      entries.map (entryRow [] fun value => value.write.toList) := by
  induction entries with
  | nil => rfl
  | cons entry entries ih =>
    obtain ⟨key, value⟩ := entry
    simp [writeEntries, ih, entryRow]

theorem write_list (items : List Json) :
    (write (.list items)).toList =
      '[' :: (rowsText [] [] [] (items.map fun item => item.write.toList) ++ [']']) := by
  rw [write, writeList_eq_map, String.toList_append, String.toList_append,
    String.toList_intercalate, List.map_map, rowsText, List.append_nil]
  rfl

theorem write_record (entries : List (String × Json)) :
    (write (.record entries)).toList =
      '\x7b' :: (rowsText [] [] [] (entries.map (entryRow [] fun value => value.write.toList)) ++
        ['\x7d']) := by
  rw [write, String.toList_append, String.toList_append, String.toList_intercalate,
    writeEntries_toList, rowsText, List.append_nil]
  rfl

/-- A value without numbers is laid out in its written form. -/
theorem Plain.laid_write {depth : Nat} {json : Json} (plain : Plain depth json) :
    Laid depth json json.write.toList := by
  induction plain with
  | null => exact .null
  | bool value => cases value <;> exact .bool _
  | text value => exact .text value
  | @list depth items held ih =>
    rw [write_list]
    cases items with
    | nil => exact .listEmpty
    | cons item items =>
      exact .list _ (List.cons_ne_nil item items) isBlank_nil isBlank_nil isBlank_nil ih
  | @record depth entries held ih =>
    rw [write_record]
    cases entries with
    | nil => exact .recordEmpty
    | cons entry entries =>
      exact .record _ (List.cons_ne_nil entry entries) isBlank_nil isBlank_nil isBlank_nil
        isBlank_nil ih

/-- The written form of a value without numbers is read as the value. -/
theorem Plain.read?_write {json : Json} (plain : Plain deepest json) :
    read? json.write = some json := by
  rw [← String.append_empty (s := json.write)]
  exact plain.laid_write.read? isBlank_nil

/-! ### Over several lines -/

theorem lineBreak_isBlank (level : Nat) : IsBlank (lineBreak level).toList := by
  intro c member
  simp only [lineBreak, String.toList_append, List.mem_append, String.toList_ofList,
    List.mem_replicate] at member
  rcases member with member | ⟨-, rfl⟩
  · rw [List.mem_singleton.mp member]
    rfl
  · rfl

theorem prettyRows_eq_map (level : Nat) (items : List Json) :
    prettyRows level items = items.map (pretty level) := by
  induction items with
  | nil => rfl
  | cons item items ih => rw [prettyRows, ih, List.map_cons]

theorem prettyEntries_toList (level : Nat) (entries : List (String × Json)) :
    (prettyEntries level entries).map String.toList =
      entries.map (entryRow [' '] fun value => (value.pretty level).toList) := by
  induction entries with
  | nil => rfl
  | cons entry entries ih =>
    obtain ⟨key, value⟩ := entry
    simp [prettyEntries, ih, entryRow]

theorem block_toList (level : Nat) (first last : String) {rows : List String} (some : rows ≠ []) :
    (block level first last rows).toList =
      first.toList ++ (rowsText (lineBreak (level + 1)).toList (lineBreak (level + 1)).toList
        (lineBreak level).toList (rows.map String.toList) ++ last.toList) := by
  rw [block, if_neg (by simpa using some)]
  simp only [String.toList_append, String.toList_intercalate, rowsText, List.append_assoc]
  rfl

/-- A value without numbers is laid out in its form over several lines. -/
theorem Plain.laid_pretty {depth : Nat} {json : Json} (plain : Plain depth json) (level : Nat) :
    Laid depth json (json.pretty level).toList := by
  induction plain generalizing level with
  | null => simpa [pretty] using Plain.null.laid_write
  | bool value => simpa [pretty] using (Plain.bool value).laid_write
  | text value => simpa [pretty] using (Plain.text value).laid_write
  | @list depth items held ih =>
    cases items with
    | nil => simpa [pretty, prettyRows, block] using Laid.listEmpty
    | cons item items =>
      rw [pretty, block_toList _ _ _ (by simp [prettyRows]), prettyRows_eq_map, List.map_map]
      exact .list _ (List.cons_ne_nil item items) (lineBreak_isBlank _) (lineBreak_isBlank _)
        (lineBreak_isBlank _) fun item member => ih item member (level + 1)
  | @record depth entries held ih =>
    cases entries with
    | nil => simpa [pretty, prettyEntries, block] using Laid.recordEmpty
    | cons entry entries =>
      rw [pretty, block_toList _ _ _ (by simp [prettyEntries]), prettyEntries_toList]
      exact .record _ (List.cons_ne_nil entry entries) (lineBreak_isBlank _) (lineBreak_isBlank _)
        (lineBreak_isBlank _) (by simp [IsBlank, Reader.isBlank])
        fun entry member => ih entry member (level + 1)

/-- The form over several lines of a value without numbers is read as the value. -/
theorem Plain.read?_pretty {json : Json} (plain : Plain deepest json) (level : Nat)
    {blanks : String} (blank : IsBlank blanks.toList) :
    read? (json.pretty level ++ blanks) = some json := (plain.laid_pretty level).read? blank

end Endpoint.Json
