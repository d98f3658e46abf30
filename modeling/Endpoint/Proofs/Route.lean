import Endpoint.Proofs.Outcome
import Endpoint.Route

/-!
What templates are made of: literals that are not empty and hold no mark of a template, query or
fragment, and placeholders that are names.
-/

namespace Endpoint.Route

/-- A character that literal text of a template may hold. -/
def isLiteral (c : Char) : Bool :=
  c != openBrace && c != closeBrace && c != '?' && c != '#'

namespace Segment

/-- A segment that a template can have. -/
def Valid : Segment → Prop
  | .literal text => text ≠ "" ∧ text.toList.all isLiteral = true
  | .placeholder name => isName name.toList = true

end Segment

/-- The literal that has been read holds nothing but literal characters. -/
def Place.Valid : Place → Prop
  | .outside literal => literal.all isLiteral = true
  | .inside _ literal _ => literal.all isLiteral = true

theorem literalSegment_valid {literal : List Char} (valid : literal.all isLiteral = true) :
    ∀ segment ∈ literalSegment literal, segment.Valid := by
  intro segment member
  simp only [literalSegment] at member
  split at member
  · cases member
  · rename_i some
    obtain rfl := List.mem_singleton.mp member
    refine ⟨?_, by simpa using valid⟩
    intro empty
    have none := congrArg String.toList empty
    simp only [String.toList_ofList, String.toList_empty] at none
    simp [none] at some

/-- Outside of a placeholder, a character opens one or is literal. -/
theorem readFrom_outside {offset : Nat} {literal : List Char} {c : Char} {rest : List Char}
    {segments : List Segment}
    (done : readFrom offset (.outside literal) (c :: rest) = .ok segments) :
    (c = openBrace ∧ ∃ later, readFrom later (.inside offset literal []) rest = .ok segments) ∨
      (isLiteral c = true ∧
        ∃ later, readFrom later (.outside (literal ++ [c])) rest = .ok segments) := by
  simp only [readFrom] at done
  split at done
  · rename_i opening
    exact .inl ⟨opening, _, done⟩
  · split at done
    · cases done
    · split at done
      · cases done
      · rename_i noOpen noClose noTail
        simp only [Bool.or_eq_true, decide_eq_true_eq, not_or] at noTail
        have plain : isLiteral c = true := by simp [isLiteral, noOpen, noClose, noTail]
        exact .inr ⟨plain, _, done⟩

/-- Inside of a placeholder, a character closes it behind its name or is a part of that. -/
theorem readFrom_inside {offset start : Nat} {literal name : List Char} {c : Char}
    {rest : List Char} {segments : List Segment}
    (done : readFrom offset (.inside start literal name) (c :: rest) = .ok segments) :
    (c = closeBrace ∧ isName name = true ∧ ∃ later more,
        readFrom later (.outside []) rest = .ok more ∧
        segments = literalSegment literal ++ .placeholder (String.ofList name) :: more) ∨
      (c ≠ closeBrace ∧ c ≠ openBrace ∧
        ∃ later, readFrom later (.inside start literal (name ++ [c])) rest = .ok segments) := by
  simp only [readFrom] at done
  split at done
  · rename_i closing
    split at done
    · cases done
    · split at done
      · cases done
      · rename_i named
        simp only [bind_eq_ok, pure, Except.pure, Except.ok.injEq] at done
        obtain ⟨more, behind, rfl⟩ := done
        exact .inl ⟨closing, by simpa using named, _, more, behind, rfl⟩
  · rename_i noClose
    split at done
    · cases done
    · rename_i noOpen
      exact .inr ⟨noClose, noOpen, _, done⟩

theorem readFrom_valid {offset : Nat} {place : Place} {cs : List Char} {segments : List Segment}
    (done : readFrom offset place cs = .ok segments) (valid : place.Valid) :
    ∀ segment ∈ segments, segment.Valid := by
  induction cs generalizing offset place segments with
  | nil =>
    cases place with
    | outside literal =>
      cases done
      exact literalSegment_valid valid
    | inside start literal name => cases done
  | cons c rest ih =>
    cases place with
    | outside literal =>
      rcases readFrom_outside done with ⟨_, _, behind⟩ | ⟨plain, _, behind⟩
      · exact ih behind valid
      · have longer : (literal ++ [c]).all isLiteral = true := by
          rw [List.all_append, valid]
          simpa using plain
        exact ih behind longer
    | inside start literal name =>
      rcases readFrom_inside done with ⟨_, named, _, more, behind, rfl⟩ | ⟨_, _, _, behind⟩
      · intro segment member
        rcases List.mem_append.mp member with before | after
        · exact literalSegment_valid valid segment before
        · rcases List.mem_cons.mp after with rfl | later
          · simpa [Segment.Valid] using named
          · exact ih behind rfl segment later
      · exact ih behind valid

/-- All segments of a template that can be read are valid. -/
theorem read_valid {raw : String} {route : Route} (done : read raw = .ok route) :
    ∀ segment ∈ route.segments, segment.Valid := by
  simp only [read, bind_eq_ok, pure, Except.pure, Except.ok.injEq] at done
  obtain ⟨segments, found, rfl⟩ := done
  exact readFrom_valid found rfl

/-- What has been read of a segment that is not finished. -/
def Place.written : Place → List Char
  | .outside literal => literal
  | .inside _ literal name => literal ++ openBrace :: name

theorem literalSegment_written (literal : List Char) :
    (literalSegment literal).flatMap Segment.written = literal := by
  cases literal <;> simp [literalSegment, Segment.written]

theorem readFrom_written {offset : Nat} {place : Place} {cs : List Char}
    {segments : List Segment} (done : readFrom offset place cs = .ok segments) :
    segments.flatMap Segment.written = place.written ++ cs := by
  induction cs generalizing offset place segments with
  | nil =>
    cases place with
    | outside literal =>
      cases done
      rw [literalSegment_written, Place.written, List.append_nil]
    | inside start literal name => cases done
  | cons c rest ih =>
    cases place with
    | outside literal =>
      rcases readFrom_outside done with ⟨rfl, _, behind⟩ | ⟨_, _, behind⟩
      · rw [ih behind]
        simp [Place.written]
      · rw [ih behind]
        simp [Place.written]
    | inside start literal name =>
      rcases readFrom_inside done with ⟨rfl, _, _, more, behind, rfl⟩ | ⟨_, _, _, behind⟩
      · rw [List.flatMap_append, List.flatMap_cons, literalSegment_written, ih behind]
        simp [Place.written, Segment.written]
      · rw [ih behind]
        simp [Place.written]

/-- A template that can be read is what its segments are written as. -/
theorem read_written {raw : String} {route : Route} (done : read raw = .ok route) :
    writtenSegments route.segments = raw := by
  simp only [read, bind_eq_ok, pure, Except.pure, Except.ok.injEq] at done
  obtain ⟨segments, found, rfl⟩ := done
  rw [writtenSegments, readFrom_written found, Place.written, List.nil_append,
    String.ofList_toList]

end Endpoint.Route
