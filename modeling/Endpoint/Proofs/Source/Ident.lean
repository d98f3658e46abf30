import Endpoint.Proofs.Text.Ascii
import Endpoint.Source.Literal
import Mathlib.Data.String.Basic

/-!
Which identifiers there are, and that each is read back from its written form alone.
-/

namespace Endpoint

open Text (isIdentifierContinue isIdentifierStart)

/-! ### Characters -/

namespace Text

theorem isIdentifierContinue_of_start {c : Char} (start : isIdentifierStart c = true) :
    isIdentifierContinue c = true := by
  unfold isIdentifierStart at start
  unfold isIdentifierContinue
  split
  · rename_i ascii
    rw [if_pos ascii] at start
    rcases Bool.or_eq_true_iff.mp start with letter | line
    · simp [Char.isAlphanum, letter]
    · simp [line]
  · rename_i beyond
    rw [if_neg beyond] at start
    simp [start]

theorem isIdentifierContinue_of_alphanum {c : Char} (alphanumeric : c.isAlphanum = true) :
    isIdentifierContinue c = true := by
  rw [isIdentifierContinue, if_pos (isAlphanum_ascii alphanumeric), alphanumeric, Bool.true_or]

/-- A character that no identifier may hold differs from those that it holds. -/
theorem ne_of_continue {c d : Char} (goesOn : isIdentifierContinue c = true)
    (other : isIdentifierContinue d = false) : c ≠ d := by
  rintro rfl
  simp [other] at goesOn

end Text

namespace Source

/-! ### Identifiers -/

/-- An identifier that can be written: its characters are those of identifiers, and it is not raw if
it is a word that cannot be. -/
structure Ident.IsProper (name : Ident) : Prop where
  characters : ∃ first rest, name.text.toList = first :: rest ∧ isIdentifierStart first = true ∧
    ∀ c ∈ rest, isIdentifierContinue c = true
  rawable : name.raw = true → name.text ∉ Lexer.neverRaw

namespace Ident

theorem written_plain {name : Ident} (plain : name.raw = false) : name.written = name.text := by
  rw [written, plain, if_neg Bool.false_ne_true]

theorem written_raw {name : Ident} (raw : name.raw = true) : name.written = "r#" ++ name.text := by
  rw [written, if_pos raw]

namespace IsProper

theorem goesOn {name : Ident} (proper : name.IsProper) :
    ∀ c ∈ name.text.toList, isIdentifierContinue c = true := by
  obtain ⟨first, rest, chars, start, further⟩ := proper.characters
  rw [chars]
  intro c member
  rcases List.mem_cons.mp member with rfl | later
  · exact Text.isIdentifierContinue_of_start start
  · exact further c later

/-- The text of an identifier does not look raw. -/
theorem text_startsWith {name : Ident} (proper : name.IsProper) :
    name.text.startsWith "r#" = false := by
  rw [Bool.eq_false_iff, ne_eq, String.startsWith_string_iff]
  intro found
  have member : '#' ∈ name.text.toList := found.subset (by decide)
  exact Text.ne_of_continue (proper.goesOn '#' member) (by decide) rfl

end IsProper

/-- The identifier with the text, raw or not, if there is one. -/
def ofText? (raw : Bool) (text : String) : Option Ident :=
  let isIdent := match text.toList with
    | first :: rest => isIdentifierStart first && rest.all isIdentifierContinue
    | [] => false
  if isIdent && !(raw && Lexer.neverRaw.contains text) then some ⟨text, raw⟩ else none

theorem ofText?_eq_some_iff {raw : Bool} {text : String} {name : Ident} :
    ofText? raw text = some name ↔ name = ⟨text, raw⟩ ∧ name.IsProper := by
  unfold ofText?
  dsimp only
  constructor
  · intro found
    obtain ⟨valid, same⟩ := Option.ite_none_right_eq_some.mp found
    obtain rfl := Option.some.inj same
    obtain ⟨isIdent, rawable⟩ := Bool.and_eq_true_iff.mp valid
    refine ⟨rfl, ?_, by rintro rfl; simpa using rawable⟩
    cases chars : text.toList with
    | nil => simp [chars] at isIdent
    | cons first rest =>
      rw [chars] at isIdent
      exact ⟨first, rest, rfl, by simpa using isIdent⟩
  · rintro ⟨rfl, ⟨first, rest, chars, start, further⟩, rawable⟩
    dsimp only at chars rawable
    rw [chars]
    cases raw <;> simp_all

theorem ofWritten?_eq (text : String) :
    ofWritten? text =
      if text.startsWith "r#" then ofText? true (text.drop 2).toString else ofText? false text := by
  unfold ofWritten? ofText? Lexer.neverRaw
  cases text.startsWith "r#" with
  | false => rfl
  | true =>
    generalize (text.drop 2).toString = bare
    rfl

/-- Text is an identifier exactly if it is the written form of one, with nothing around it. -/
theorem ofWritten?_eq_some_iff {text : String} {name : Ident} :
    ofWritten? text = some name ↔ name.written = text ∧ name.IsProper := by
  rw [ofWritten?_eq]
  constructor
  · intro found
    split at found
    · rename_i marked
      obtain ⟨rfl, proper⟩ := ofText?_eq_some_iff.mp found
      refine ⟨?_, proper⟩
      obtain ⟨rest, whole⟩ := String.startsWith_string_iff.mp marked
      rw [written_raw rfl]
      exact String.toList_inj.mp (by simp [← whole])
    · obtain ⟨rfl, proper⟩ := ofText?_eq_some_iff.mp found
      exact ⟨written_plain rfl, proper⟩
  · rintro ⟨rfl, proper⟩
    cases raw : name.raw with
    | false =>
      rw [written_plain raw, proper.text_startsWith, if_neg Bool.false_ne_true]
      exact ofText?_eq_some_iff.mpr ⟨by rw [← raw], proper⟩
    | true =>
      have marked : ("r#" ++ name.text).startsWith "r#" = true :=
        String.startsWith_string_iff.mpr (by simp)
      have bare : (("r#" ++ name.text).drop 2).toString = name.text :=
        String.toList_inj.mp (by simp)
      rw [written_raw raw, if_pos marked, bare]
      exact ofText?_eq_some_iff.mpr ⟨by rw [← raw], proper⟩

end Ident

end Source

end Endpoint
