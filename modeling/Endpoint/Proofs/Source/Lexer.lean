import Endpoint.Proofs.Source.Ident
import Mathlib.Data.List.TakeWhile

/-!
What reading gives: every identifier among the tokens of a text can be written, and one that stands
alone is read from its written form.
-/

namespace Endpoint.Source

open Text (isIdentifierContinue isIdentifierStart)

/-! ### Tokens -/

mutual

/-- A token all of whose identifiers can be written. -/
def Token.IsProper : Token → Prop
  | .ident name => name.IsProper
  | .group _ inner => Tokens.AreProper inner
  | .punct .. | .literal _ => True

/-- Tokens all of whose identifiers can be written, also those inside groups. -/
def Tokens.AreProper : Tokens → Prop
  | [] => True
  | token :: rest => token.IsProper ∧ Tokens.AreProper rest

end

namespace Tokens

theorem areProper_nil : AreProper [] := trivial

theorem areProper_cons {token : Token} {rest : Tokens} :
    AreProper (token :: rest) ↔ token.IsProper ∧ rest.AreProper := Iff.rfl

theorem areProper_iff {tokens : Tokens} :
    tokens.AreProper ↔ ∀ token ∈ tokens, token.IsProper := by
  induction tokens with
  | nil => simp [areProper_nil]
  | cons token rest ih => simp [areProper_cons, ih]

theorem areProper_reverse {tokens : Tokens} :
    AreProper tokens.reverse ↔ tokens.AreProper := by
  simp only [areProper_iff, List.mem_reverse]

end Tokens

namespace Lexer

/-! ### Reading identifiers -/

theorem name_eq_some {cs left : List Char} {text : String} (found : name cs = some (text, left)) :
    ∃ first rest, text.toList = first :: rest ∧ isIdentifierStart first = true ∧
      ∀ c ∈ rest, isIdentifierContinue c = true := by
  cases cs with
  | nil => cases found
  | cons c more =>
    obtain ⟨start, same⟩ := Option.ite_none_right_eq_some.mp found
    obtain ⟨rfl, -⟩ := Prod.mk.inj (Option.some.inj same)
    exact ⟨c, _, String.toList_ofList, start, fun d member => List.mem_takeWhile_imp member⟩

theorem anyIdent_proper {cs left : List Char} {name : Ident}
    (found : anyIdent cs = some (name, left)) : name.IsProper := by
  unfold anyIdent at found
  split at found
  · obtain ⟨⟨text, rest⟩, read, last⟩ := Option.bind_eq_some_iff.mp found
    dsimp only at last
    split at last
    · cases last
    · rename_i allowed
      obtain ⟨rfl, -⟩ := Prod.mk.inj (Option.some.inj last)
      exact ⟨name_eq_some read, fun _ => by simpa using allowed⟩
  · obtain ⟨⟨text, rest⟩, read, last⟩ := Option.bind_eq_some_iff.mp found
    obtain ⟨rfl, -⟩ := Prod.mk.inj (Option.some.inj last)
    exact ⟨name_eq_some read, fun raw => by cases raw⟩

theorem ident_proper {cs left : List Char} {name : Ident} (found : ident cs = some (name, left)) :
    name.IsProper := by
  unfold ident at found
  split at found
  · cases found
  · exact anyIdent_proper found

/-! ### Reading tokens -/

theorem punct_proper {cs left : List Char} {token : Token}
    (found : punct cs = some (token, left)) : token.IsProper := by
  obtain ⟨⟨c, rest⟩, -, last⟩ := Option.bind_eq_some_iff.mp found
  dsimp only at last
  split at last
  · obtain ⟨⟨name, behind⟩, -, ends⟩ := Option.bind_eq_some_iff.mp last
    dsimp only at ends
    split at ends
    · cases ends
    · split at ends
      · cases ends
      · obtain ⟨rfl, -⟩ := Prod.mk.inj (Option.some.inj ends)
        trivial
  · obtain ⟨rfl, -⟩ := Prod.mk.inj (Option.some.inj last)
    trivial

theorem leaf_proper {cs left : List Char} {token : Token} (found : leaf cs = some (token, left)) :
    token.IsProper := by
  unfold leaf at found
  split at found
  · obtain ⟨rfl, -⟩ := Prod.mk.inj (Option.some.inj found)
    trivial
  · split at found
    · rename_i mark read
      obtain rfl := Option.some.inj found
      exact punct_proper read
    · obtain ⟨⟨name, rest⟩, read, same⟩ := Option.map_eq_some_iff.mp found
      obtain ⟨rfl, -⟩ := Prod.mk.inj same
      exact ident_proper read

theorem word_proper {text : String} (written : Ident.ofWritten? text = some (.plain text)) :
    (Token.word text).IsProper :=
  (Ident.ofWritten?_eq_some_iff.mp written).2

theorem docTokens_proper (inner : Bool) (body : List Char) : (docTokens inner body).AreProper := by
  have word : (Token.word "doc").IsProper := word_proper (by decide +kernel)
  cases inner <;>
    simp [docTokens, Tokens.AreProper, Token.IsProper, Token.bracket, Token.string, word]

/-- A piece of a text whose identifiers can be written. -/
def Lexeme.IsProper : Lexeme → Prop
  | .leaf token => token.IsProper
  | .opens _ | .closes _ => True

theorem lexemes_proper {fuel : Nat} {cs : List Char} {pieces : List Lexeme}
    (found : lexemes fuel cs = some pieces) : ∀ piece ∈ pieces, piece.IsProper := by
  induction fuel generalizing cs pieces with
  | zero => cases found
  | succ fuel ih =>
    unfold lexemes at found
    dsimp only at found
    have behind {first : Lexeme} {left : List Char}
        (read : (lexemes fuel left).map (first :: ·) = some pieces) (proper : first.IsProper) :
        ∀ piece ∈ pieces, piece.IsProper := by
      obtain ⟨rest, more, rfl⟩ := Option.map_eq_some_iff.mp read
      exact List.forall_mem_cons.mpr ⟨proper, ih more⟩
    split at found
    · rename_i inner body rest _
      obtain ⟨more, read, rfl⟩ := Option.map_eq_some_iff.mp found
      refine List.forall_mem_append.mpr ⟨?_, ih read⟩
      simpa [Lexeme.IsProper] using Tokens.areProper_iff.mp (docTokens_proper inner body)
    · split at found
      · cases found
        simp
      · split at found
        · exact behind found trivial
        · split at found
          · exact behind found trivial
          · exact behind found trivial
          · split at found
            · exact behind found (leaf_proper (by assumption))
            · cases found

theorem nest_proper {outer : List (Delimiter × Tokens)} {row tokens : Tokens}
    {pieces : List Lexeme} (around : ∀ group ∈ outer, Tokens.AreProper group.2)
    (before : row.AreProper) (proper : ∀ piece ∈ pieces, piece.IsProper)
    (found : nest outer row pieces = some tokens) : tokens.AreProper := by
  induction pieces generalizing outer row with
  | nil =>
    cases outer with
    | nil =>
      obtain rfl := Option.some.inj found
      exact Tokens.areProper_reverse.mpr before
    | cons _ _ => cases found
  | cons piece rest ih =>
    obtain ⟨first, later⟩ := List.forall_mem_cons.mp proper
    cases piece with
    | leaf token =>
      have goesOn : nest outer (token :: row) rest = some tokens := by
        cases outer <;> exact found
      exact ih around (Tokens.areProper_cons.mpr ⟨first, before⟩) later goesOn
    | opens delimiter =>
      have goesOn : nest ((delimiter, row) :: outer) [] rest = some tokens := by
        cases outer <;> exact found
      exact ih (List.forall_mem_cons.mpr ⟨before, around⟩) Tokens.areProper_nil later goesOn
    | closes closed =>
      cases outer with
      | nil => cases found
      | cons group more =>
        obtain ⟨ahead, further⟩ := List.forall_mem_cons.mp around
        obtain ⟨-, goesOn⟩ := Option.ite_none_right_eq_some.mp found
        have inside : (Token.group group.1 row.reverse).IsProper :=
          Tokens.areProper_reverse.mpr before
        exact ih further (Tokens.areProper_cons.mpr ⟨inside, ahead⟩) later goesOn

/-! ### An identifier alone -/

theorem ne_of_start {c d : Char} (start : isIdentifierStart c = true)
    (other : isIdentifierStart d = false) : c ≠ d := by
  rintro rfl
  simp [other] at start

theorem toNat_ne_of_start {c : Char} {n : Nat} (start : isIdentifierStart c = true)
    (other : isIdentifierStart (Char.ofNat n) = false) : c.toNat ≠ n := by
  rintro rfl
  rw [Char.ofNat_toNat] at other
  exact ne_of_start start other rfl

theorem begins_of_ne (text : String) {c d : Char} {first rest : List Char}
    (chars : text.toList = d :: first) (other : c ≠ d) : begins text (c :: rest) = false := by
  rw [begins, chars, List.isPrefixOf_cons_cons, beq_false_of_ne other.symm, Bool.false_and]

/-- Text does not begin with what holds a character that it lacks. -/
theorem begins_of_lacks {text : String} {cs : List Char} (d : Char) (held : d ∈ text.toList)
    (lacks : d ∉ cs) : begins text cs = false :=
  Bool.eq_false_iff.mpr fun found => lacks ((List.isPrefixOf_iff_prefix.mp found).subset held)

theorem after_of_lacks {text : String} {cs : List Char} (d : Char) (held : d ∈ text.toList)
    (lacks : d ∉ cs) : after text cs = none := by
  have other := begins_of_lacks d held lacks
  unfold begins at other
  rw [after, other, if_neg Bool.false_ne_true]

section

variable {c : Char} {more : List Char}

theorem isBlank_of_start (start : isIdentifierStart c = true) : isBlank c = false := by
  have blanks : ∀ n ∈ [32, 0x85, 0xa0, 0x1680, 0x200e, 0x200f, 0x2028, 0x2029, 0x202f, 0x205f,
      0x3000] ++ List.range' 9 5 ++ List.range' 0x2000 11,
        isIdentifierStart (Char.ofNat n) = false := by decide +kernel
  refine Bool.eq_false_iff.mpr fun blank => toNat_ne_of_start start (blanks c.toNat ?_) rfl
  simp only [isBlank, Bool.or_eq_true, Bool.and_eq_true, decide_eq_true_eq, beq_iff_eq] at blank
  simp only [List.mem_append, List.mem_cons, List.mem_range'_1, List.not_mem_nil]
  omega

theorem skipBlanks_of_start (start : isIdentifierStart c = true) (fuel : Nat) :
    skipBlanks fuel (c :: more) = c :: more := by
  cases fuel with
  | zero => rfl
  | succ fuel =>
    have slash : c ≠ '/' := ne_of_start start (by decide)
    simp [skipBlanks, begins_of_ne "//" rfl slash, begins_of_ne "/**/" rfl slash,
      begins_of_ne "/*" rfl slash, isBlank_of_start start]

theorem docComment_of_start (start : isIdentifierStart c = true) :
    docComment (c :: more) = none := by
  have slash : c ≠ '/' := ne_of_start start (by decide)
  simp [docComment, begins_of_ne "//!" rfl slash, begins_of_ne "/*!" rfl slash,
    begins_of_ne "///" rfl slash, begins_of_ne "/**" rfl slash]

/-! Neither a literal nor punctuation begins with the first character of an identifier. -/

theorem afterRaw_of_lacks {form : QuotedForm} {cs : List Char} (lacks : '"' ∉ cs) :
    afterRaw form cs = none := by
  unfold afterRaw
  dsimp only
  split
  · rename_i rest found
    exact absurd (List.mem_of_mem_drop (found ▸ List.mem_cons_self)) lacks
  · rfl

theorem afterQuoted_of_lacks {cs : List Char} (lacks : '"' ∉ cs) : afterQuoted cs = none := by
  unfold afterQuoted
  dsimp only
  split
  · simp at lacks
  · exact afterRaw_of_lacks fun member => lacks (.tail _ member)
  · simp at lacks
  · exact afterRaw_of_lacks fun member => lacks (.tail _ (.tail _ member))
  · simp at lacks
  · exact afterRaw_of_lacks fun member => lacks (.tail _ (.tail _ member))
  · rfl

theorem digits_ten_of_start (digit : c.isDigit = false) :
    digits 10 false (c :: more) = none := by
  unfold digits
  rw [digit, if_neg Bool.false_ne_true]
  split
  · rename_i hex
    have letter : 10 ≤ hexValue c := by
      simp only [isHexDigit, digit, Bool.false_or, Bool.or_eq_true, Bool.and_eq_true,
        decide_eq_true_eq] at hex
      rw [hexValue, digit, if_neg Bool.false_ne_true]
      rcases hex with ⟨low, -⟩ | ⟨low, -⟩
      · have bound : 97 ≤ c.toNat := low
        rw [if_pos low]
        omega
      · have bound : 65 ≤ c.toNat := low
        split
        · rename_i lower
          have higher : 97 ≤ c.toNat := lower
          omega
        · omega
    rw [if_pos letter, if_neg Bool.false_ne_true]
  · simp

theorem isDigit_of_start (start : isIdentifierStart c = true) : c.isDigit = false := by
  have digits : ∀ n ∈ List.range' 48 10, isIdentifierStart (Char.ofNat n) = false := by decide
  refine Bool.eq_false_iff.mpr fun digit => toNat_ne_of_start start (digits c.toNat ?_) rfl
  obtain ⟨low, high⟩ : 48 ≤ c.toNat ∧ c.toNat ≤ 57 := Char.isDigit_iff_toNat.mp digit
  simp only [List.mem_range'_1]
  omega

theorem afterLiteral_of_start (start : isIdentifierStart c = true)
    (quote : '"' ∉ c :: more) (apostrophe : Text.apostrophe ∉ c :: more) :
    afterLiteral (c :: more) = none := by
  have digit := isDigit_of_start start
  have byte : afterByte (c :: more) = none := by
    rw [afterByte, after_of_lacks Text.apostrophe (by decide) apostrophe]
    rfl
  have character : afterCharacter (c :: more) = none := by
    rw [afterCharacter, after_of_lacks Text.apostrophe (by decide) apostrophe]
    rfl
  have float : afterFloat (c :: more) = none := by
    rw [afterFloat, digit, if_neg Bool.false_ne_true]
  have int : afterInt (c :: more) = none := by
    have zero : c ≠ '0' := ne_of_start start (by decide)
    unfold afterInt
    simp [zero, digits_ten_of_start digit]
  rw [afterLiteral, afterQuoted_of_lacks quote, byte, character, float, int]
  rfl

theorem punct_of_start (start : isIdentifierStart c = true) : punct (c :: more) = none := by
  have slash : c ≠ '/' := ne_of_start start (by decide)
  have marks : punctuation.all (!isIdentifierStart ·) = true := by decide
  have mark : c ∉ punctuation := fun member => by
    simpa [start] using List.all_eq_true.mp marks c member
  simp [punct, punctChar, begins_of_ne "//" rfl slash,
    begins_of_ne "/*" rfl slash, mark]

theorem opening_of_start (start : isIdentifierStart c = true) : opening c = none := by
  have paren : c ≠ '(' := ne_of_start start (by decide)
  have bracket : c ≠ '[' := ne_of_start start (by decide)
  have brace : c.toNat ≠ 123 := toNat_ne_of_start start (by decide)
  simp [opening, paren, bracket, brace]

theorem closing_of_start (start : isIdentifierStart c = true) : closing c = none := by
  have paren : c ≠ ')' := ne_of_start start (by decide)
  have bracket : c ≠ ']' := ne_of_start start (by decide)
  have brace : c.toNat ≠ 125 := toNat_ne_of_start start (by decide)
  simp [closing, paren, bracket, brace]

end

/-- The characters of an identifier begin one, and there is no quote among them. -/
theorem written_chars {name : Ident} (proper : name.IsProper) :
    ∃ c more, name.written.toList = c :: more ∧ isIdentifierStart c = true ∧
      '"' ∉ c :: more ∧ Text.apostrophe ∉ c :: more := by
  obtain ⟨first, rest, chars, start, -⟩ := proper.characters
  have quote : '"' ∉ name.text.toList := fun member =>
    Text.ne_of_continue (proper.goesOn _ member) (by decide) rfl
  have apostrophe : Text.apostrophe ∉ name.text.toList := fun member =>
    Text.ne_of_continue (proper.goesOn _ member) (by decide) rfl
  cases raw : name.raw with
  | false =>
    rw [Ident.written_plain raw, chars]
    exact ⟨first, rest, rfl, start, chars ▸ quote, chars ▸ apostrophe⟩
  | true =>
    have marked : ("r#" ++ name.text).toList = 'r' :: '#' :: name.text.toList := by simp
    rw [Ident.written_raw raw, marked]
    refine ⟨'r', _, rfl, by decide, ?_, ?_⟩
    · simp [quote]
    · have others : Text.apostrophe ≠ 'r' ∧ Text.apostrophe ≠ '#' := by decide
      simp [apostrophe, others]

theorem name_alone {text : String} {first : Char} {rest : List Char}
    (chars : text.toList = first :: rest) (start : isIdentifierStart first = true)
    (further : ∀ c ∈ rest, isIdentifierContinue c = true) :
    name (first :: rest) = some (text, []) := by
  rw [name, if_pos start, List.takeWhile_eq_self_iff.mpr further,
    List.dropWhile_eq_nil_iff.mpr further, ← chars, String.ofList_toList]

/-- An identifier is all that is read of its characters. -/
theorem ident_written {name : Ident} (proper : name.IsProper) :
    ident name.written.toList = some (name, []) := by
  obtain ⟨first, rest, chars, start, further⟩ := proper.characters
  have alone := name_alone chars start further
  cases raw : name.raw with
  | false =>
    have lacks {d : Char} (other : isIdentifierContinue d = false) : d ∉ name.text.toList :=
      fun member => Text.ne_of_continue (proper.goesOn d member) other rfl
    have marks : literalOpenings.all (·.toList.any (!isIdentifierContinue ·)) = true := by decide
    have literal : literalOpenings.any (begins · name.text.toList) = false := by
      refine List.any_eq_false.mpr fun opening member => ?_
      obtain ⟨d, held, other⟩ := List.any_eq_true.mp (List.all_eq_true.mp marks opening member)
      rw [begins_of_lacks d held (lacks (by simpa using other))]
      exact Bool.false_ne_true
    have plain : after "r#" name.text.toList = none :=
      after_of_lacks '#' (by decide) (lacks (by decide))
    rw [Ident.written_plain raw, ident, literal, if_neg Bool.false_ne_true, anyIdent, plain, chars]
    dsimp only
    rw [alone]
    exact congrArg some (congrArg (·, []) (by rw [← raw]))
  | true =>
    have quote : first ≠ '"' := ne_of_start start (by decide)
    have mark : first ≠ '#' := ne_of_start start (by decide)
    have marked : ("r#" ++ name.text).toList = 'r' :: '#' :: first :: rest := by simp [chars]
    have literal : literalOpenings.any (begins · ('r' :: '#' :: first :: rest)) = false := by
      simp [literalOpenings, begins, List.isPrefixOf, quote.symm, mark.symm]
    have opened : after "r#" ('r' :: '#' :: first :: rest) = some (first :: rest) := rfl
    have allowed : neverRaw.contains name.text = false := by
      simpa using proper.rawable raw
    rw [Ident.written_raw raw, marked, ident, literal, if_neg Bool.false_ne_true, anyIdent, opened]
    dsimp only
    rw [alone]
    dsimp only [Option.bind_eq_bind, Option.bind_some]
    rw [allowed, if_neg Bool.false_ne_true, ← raw]

theorem lexemes_nil (fuel : Nat) : lexemes (fuel + 1) [] = some [] := rfl

theorem lexemes_written {name : Ident} (proper : name.IsProper) (fuel : Nat) :
    lexemes (fuel + 2) name.written.toList = some [.leaf (.ident name)] := by
  obtain ⟨c, more, chars, start, quote, apostrophe⟩ := written_chars proper
  have read := ident_written proper
  rw [chars] at read ⊢
  have paren : (c == '(') = false := beq_false_of_ne (ne_of_start start (by decide))
  have piece : leaf (c :: more) = some (.ident name, []) := by
    rw [leaf, afterLiteral_of_start start quote apostrophe, punct_of_start start, read]
    rfl
  rw [lexemes]
  simp [skipBlanks_of_start start, docComment_of_start start, paren, opening_of_start start,
    closing_of_start start, piece, lexemes_nil]

end Lexer

/-- Every identifier among the tokens of a text can be written. -/
theorem Tokens.read?_proper {text : String} {tokens : Tokens} (found : read? text = some tokens) :
    tokens.AreProper := by
  obtain ⟨pieces, read, nested⟩ := Option.bind_eq_some_iff.mp found
  exact Lexer.nest_proper (by simp) areProper_nil (Lexer.lexemes_proper read) nested

/-- An identifier is read from its written form. -/
theorem Tokens.read?_written {name : Ident} (proper : name.IsProper) :
    read? name.written = some [.ident name] := by
  obtain ⟨c, more, chars, start, -⟩ := Lexer.written_chars proper
  have mark : c.toNat ≠ 0xfeff := Lexer.toNat_ne_of_start start (by decide +kernel)
  have pieces := Lexer.lexemes_written proper more.length
  rw [chars] at pieces
  simp [read?, chars, mark, pieces, Lexer.nest]

end Endpoint.Source
