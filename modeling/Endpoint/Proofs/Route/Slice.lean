import Endpoint.Route

/-!
Names as slices of a template. Reading a template through byte offsets, with each name cut out of
the text between the braces, never cuts inside a character and reads what `readFrom` does.
-/

namespace Endpoint.Route

/-- The text between two byte offsets, if they stand between characters and in order. -/
def slice? (text : String) (start stop : Nat) : Option String :=
  if bounds : (⟨start⟩ : String.Pos.Raw).IsValid text ∧ (⟨stop⟩ : String.Pos.Raw).IsValid text ∧
      start ≤ stop then
    some (text.extract (text.pos ⟨start⟩ bounds.1) (text.pos ⟨stop⟩ bounds.2.1))
  else none

/-- Where reading by offsets stands: in literal text, or behind a brace that opened at an offset. -/
inductive Spot
  | outside (literal : List Char)
  | inside (start : Nat) (literal : List Char)

/-- The segments of text that begins at the offset of the whole. Names are slices of the whole;
there is no outcome if a slice would begin or end inside a character. -/
def readSlicing (whole : String) :
    Nat → Spot → List Char → Option (Except Fault (List Segment))
  | _, .outside literal, [] => some (.ok (literalSegment literal))
  | _, .inside start _, [] => some (.error (.unclosed start))
  | offset, .outside literal, c :: rest =>
    if c = openBrace then
      readSlicing whole (offset + c.utf8Size) (.inside offset literal) rest
    else if c = closeBrace then some (.error (.stray offset))
    else if c = '?' || c = '#' then some (.error (.tail c offset))
    else readSlicing whole (offset + c.utf8Size) (.outside (literal ++ [c])) rest
  | offset, .inside start literal, c :: rest =>
    if c = closeBrace then do
      let name ← slice? whole (start + 1) offset
      if name.isEmpty then some (.error (.unnamed start))
      else if !isName name.toList then some (.error (.name name))
      else do
        let more ← readSlicing whole (offset + c.utf8Size) (.outside []) rest
        return more.map (literalSegment literal ++ .placeholder name :: ·)
    else if c = openBrace then some (.error (.nested start))
    else readSlicing whole (offset + c.utf8Size) (.inside start literal) rest

/-- Reading a template by slices. -/
def readBySlices? (raw : String) : Option (Except Fault Route) := do
  let segments ← readSlicing raw 0 (.outside []) raw.toList
  return segments.map (Route.mk raw)

/-! ### Slices -/

/-- The number of bytes of some characters. -/
def byteCount (cs : List Char) : Nat := (String.ofList cs).utf8ByteSize

theorem byteCount_append (front back : List Char) :
    byteCount (front ++ back) = byteCount front + byteCount back := by
  simp [byteCount, String.ofList_append]

theorem byteCount_singleton (c : Char) : byteCount [c] = c.utf8Size := by
  simp [byteCount]

/-- The end of some characters is an offset between characters. -/
theorem isValid_byteCount (front back : List Char) :
    (⟨byteCount front⟩ : String.Pos.Raw).IsValid (String.ofList (front ++ back)) := by
  rw [String.Pos.Raw.isValid_iff_exists_append]
  exact ⟨String.ofList front, String.ofList back, String.ofList_append, rfl⟩

/-- What stands between two ends is cut out. -/
theorem slice?_between (front middle back : List Char) :
    slice? (String.ofList (front ++ middle ++ back)) (byteCount front)
      (byteCount (front ++ middle)) = some (String.ofList middle) := by
  have start := isValid_byteCount front (middle ++ back)
  rw [← List.append_assoc] at start
  have stop := isValid_byteCount (front ++ middle) back
  have ordered : byteCount front ≤ byteCount (front ++ middle) := by
    rw [byteCount_append]
    omega
  rw [slice?, dif_pos ⟨start, stop, ordered⟩]
  refine congrArg some (String.toByteArray_inj.mp ?_)
  have bytes : (String.ofList (front ++ middle ++ back)).toByteArray =
      (String.ofList front).toByteArray ++
        ((String.ofList middle).toByteArray ++ (String.ofList back).toByteArray) := by
    simp only [String.ofList_append, String.toByteArray_append, ByteArray.append_assoc]
  have cut := ByteArray.extract_append_size_add (a := (String.ofList front).toByteArray)
    (b := (String.ofList middle).toByteArray ++ (String.ofList back).toByteArray)
    (i := 0) (j := (String.ofList middle).toByteArray.size)
  rw [Nat.add_zero, ByteArray.extract_append_eq_left rfl] at cut
  simp only [String.size_toByteArray] at cut
  rw [String.toByteArray_extract, bytes]
  show ByteArray.extract _ (byteCount front) (byteCount (front ++ middle)) = _
  rw [byteCount_append]
  exact cut

/-! ### Reading by slices -/

/-- Where reading by slices stands when reading by characters stands at a place behind some text:
a name that is being read is what stands behind its brace. -/
def Spot.Matches (before : List Char) : Spot → Place → Prop
  | .outside literal, .outside other => literal = other
  | .inside start literal, .inside begun other name =>
    start = begun ∧ literal = other ∧
      ∃ front, before = front ++ openBrace :: name ∧ start = byteCount front
  | _, _ => False

/-- Reading by slices goes as reading by characters goes. -/
theorem readSlicing_eq {whole before cs : List Char} {spot : Spot} {place : Place}
    (split : whole = before ++ cs) (same : spot.Matches before place) :
    readSlicing (String.ofList whole) (byteCount before) spot cs =
      some (readFrom (byteCount before) place cs) := by
  induction cs generalizing before spot place with
  | nil =>
    match spot, place, same with
    | .outside _, .outside _, rfl => rfl
    | .inside _ _, .inside _ _ _, ⟨rfl, _⟩ => rfl
  | cons c rest ih =>
    have next : byteCount before + c.utf8Size = byteCount (before ++ [c]) := by
      rw [byteCount_append, byteCount_singleton]
    have further : whole = (before ++ [c]) ++ rest := by simp [split]
    match spot, place, same with
    | .outside literal, .outside _, rfl =>
      rw [readSlicing, readFrom, next]
      split
      · rename_i opening
        exact ih further ⟨rfl, rfl, before, by rw [opening], rfl⟩
      · split
        · rfl
        · split
          · rfl
          · exact ih further rfl
    | .inside start literal, .inside _ _ name, ⟨rfl, rfl, front, passed, begun⟩ =>
      have named : slice? (String.ofList whole) (start + 1) (byteCount before) =
          some (String.ofList name) := by
        have cut := slice?_between (front ++ [openBrace]) name (c :: rest)
        have width : openBrace.utf8Size = 1 := rfl
        rw [byteCount_append, byteCount_singleton, ← begun, width] at cut
        simpa [split, passed] using cut
      rw [readSlicing, readFrom, next, named]
      split
      · have blank : (String.ofList name).isEmpty = name.isEmpty := by
          cases name <;> simp [String.isEmpty_iff]
        simp only [Option.bind_eq_bind, Option.bind_some, String.toList_ofList, blank]
        split
        · rfl
        · split
          · rfl
          · have start : Spot.Matches (before ++ [c]) (.outside []) (.outside []) := rfl
            rw [ih further start]
            cases readFrom (byteCount (before ++ [c])) (.outside []) rest <;> rfl
      · split
        · rfl
        · exact ih further ⟨rfl, rfl, front, by simp [passed], begun⟩

/-- No slice is cut inside a character, and reading by slices reads what reading does. -/
theorem readBySlices?_eq (raw : String) : readBySlices? raw = some (read raw) := by
  have start : Spot.Matches [] (.outside []) (.outside []) := rfl
  have same := readSlicing_eq (List.nil_append raw.toList).symm start
  have width : byteCount [] = 0 := rfl
  rw [String.ofList_toList, width] at same
  rw [readBySlices?, same, read]
  cases readFrom 0 (.outside []) raw.toList <;> rfl

end Endpoint.Route
