import Endpoint.Proofs.Source.Lexer
import Endpoint.Source.Grammar

/-!
Text that is taken for a name. Reading passes over blanks and comments, and making an identifier
does not, so the two agree exactly on names that stand alone.
-/

namespace Endpoint.Source

/-! ### Reading names -/

namespace Parser

theorem ident_ident (name : Ident) (rest : Tokens) (left : Option Delimiter) :
    ident (.ident name :: rest) left =
      if name.isName then .ok ((name, rest), left) else .error (.keyword name.text) := by
  change (if name.isName then (do set rest; return name) else throw (.keyword name.text) :
    Parser Ident) _ left = _
  split <;> rfl

theorem ident_other {tokens : Tokens} (other : tokens.ident? = none) (left : Option Delimiter) :
    ∃ fault, ident tokens left = .error fault := by
  rcases tokens with _ | ⟨_ | _ | _ | _, rest⟩
  · exact ⟨_, rfl⟩
  · cases other
  · exact ⟨_, rfl⟩
  · exact ⟨_, rfl⟩
  · exact ⟨_, rfl⟩

theorem whole_ident_eq_ok {tokens : Tokens} {name : Ident} :
    whole ident tokens = .ok name ↔ tokens = [.ident name] ∧ name.isName = true := by
  unfold whole
  cases front : tokens.ident? with
  | none =>
    obtain ⟨fault, failed⟩ := ident_other front none
    rw [failed]
    refine iff_of_false (by simp) ?_
    rintro ⟨rfl, -⟩
    cases front
  | some found =>
    obtain ⟨rest, rfl⟩ : ∃ rest, tokens = .ident found :: rest := by
      rcases tokens with _ | ⟨_ | _ | _ | _, rest⟩ <;> cases front
      exact ⟨rest, rfl⟩
    rw [ident_ident]
    cases allowed : found.isName <;> cases rest <;> aesop

end Parser

/-- Text is a name if one identifier is read from it that may stand where a name is asked for. -/
theorem isNameText_iff {text : String} :
    isNameText text = true ↔
      ∃ name, Tokens.read? text = some [.ident name] ∧ name.isName = true := by
  unfold isNameText parseText Tokens.parse
  cases read : Tokens.read? text with
  | none => simp
  | some tokens =>
    have taken (name : Ident) : Parser.whole Parser.ident tokens = .ok name ↔ _ :=
      Parser.whole_ident_eq_ok
    dsimp only
    cases whole : Parser.whole Parser.ident tokens with
    | error fault => simpa [whole] using taken
    | ok name => simpa using ⟨name, (taken name).mp whole⟩

/-! ### Making identifiers -/

/-- The identifier that is read from a text can be made of it if nothing stands around it. -/
theorem Ident.ofWritten?_of_read {text : String} {name : Ident}
    (read : Tokens.read? text = some [.ident name]) :
    ofWritten? text = if name.written = text then some name else none := by
  split
  · rename_i alone
    have proper := (Tokens.areProper_cons.mp (Tokens.read?_proper read)).1
    exact ofWritten?_eq_some_iff.mpr ⟨alone, proper⟩
  · rename_i padded
    refine Option.eq_none_iff_forall_ne_some.mpr fun other made => padded ?_
    obtain ⟨rfl, proper⟩ := ofWritten?_eq_some_iff.mp made
    rw [Tokens.read?_written proper] at read
    cases read
    rfl

/-- Text that is taken for a name although more is written than the name: blanks, comments or a byte
order mark. -/
def IsPadded (text : String) : Prop :=
  ∃ name, Tokens.read? text = some [.ident name] ∧ name.isName = true ∧ name.written ≠ text

theorem IsPadded.isNameText {text : String} (padded : IsPadded text) : isNameText text = true := by
  obtain ⟨name, read, allowed, -⟩ := padded
  exact isNameText_iff.mpr ⟨name, read, allowed⟩

theorem Ident.isNameText_of_made {text : String} {name : Ident} (made : ofWritten? text = some name)
    (allowed : name.isName = true) : isNameText text = true := by
  obtain ⟨rfl, proper⟩ := ofWritten?_eq_some_iff.mp made
  exact isNameText_iff.mpr ⟨name, Tokens.read?_written proper, allowed⟩

/-- Of text that is taken for a name, an identifier can be made exactly if it is not padded. -/
theorem Ident.exists_ofWritten?_iff {text : String} (accepted : isNameText text = true) :
    (∃ name, ofWritten? text = some name) ↔ ¬IsPadded text := by
  obtain ⟨name, read, allowed⟩ := isNameText_iff.mp accepted
  rw [ofWritten?_of_read read]
  constructor
  · rintro ⟨_, made⟩ ⟨other, same, -, padded⟩
    obtain ⟨alone, -⟩ := Option.ite_none_right_eq_some.mp made
    rw [read] at same
    cases same
    exact padded alone
  · intro bare
    have alone : name.written = text := by
      by_contra padded
      exact bare ⟨name, read, allowed, padded⟩
    exact ⟨name, if_pos alone⟩

theorem Ident.ofWritten?_eq_none_iff {text : String} (accepted : isNameText text = true) :
    ofWritten? text = none ↔ IsPadded text := by
  rw [← not_iff_not, ← exists_ofWritten?_iff accepted, ← ne_eq, Option.ne_none_iff_exists']

theorem Ident.ofWritten?_padded {text : String} (padded : IsPadded text) :
    ofWritten? text = none := by
  obtain ⟨name, read, -, more⟩ := padded
  rw [ofWritten?_of_read read, if_neg more]

/-- Text that an identifier is made of is not padded. -/
theorem Ident.not_isPadded {text : String} {name : Ident} (made : ofWritten? text = some name) :
    ¬IsPadded text := by
  intro padded
  simp [ofWritten?_padded padded] at made

/-- Letters and digits behind an identifier make a longer one. -/
theorem Ident.IsProper.append {name : Ident} (proper : name.IsProper) {suffix : String}
    (alphanumeric : suffix.toList.all Char.isAlphanum = true) :
    IsProper ⟨name.text ++ suffix, false⟩ := by
  obtain ⟨first, rest, chars, start, further⟩ := proper.characters
  refine ⟨⟨first, rest ++ suffix.toList, by simp [chars], start, ?_⟩, by simp⟩
  intro c member
  rcases List.mem_append.mp member with own | behind
  · exact further c own
  · exact Text.isIdentifierContinue_of_alphanum (List.all_eq_true.mp alphanumeric c behind)

end Endpoint.Source
