import Endpoint.Proofs.Source.Grammar.Known
import Endpoint.Proofs.Source.Grammar.Literal
import Endpoint.Source.Grammar
import Mathlib.Data.List.Forall2

/-!
A row of tokens that is written out of parts is read again, if each of the parts is. The attributes
of what was read are, but for values that stand behind their equals signs.
-/

namespace Endpoint.Source.Grammar

open Source.Parser

/-! ### Parts -/

section

variable {α : Type}

/-- In front of all that fits behind it, the row is taken as something that is as stated. -/
def Reads (parser : Parser α) (row : Tokens) (fits : Tokens → Prop) (stated : α → Prop) : Prop :=
  ∀ rest left, fits rest →
    ∃ value, parser (row ++ rest) left = .ok ((value, rest), left) ∧ stated value

/-- Nothing stands behind. -/
def AtEnd (rest : Tokens) : Prop := rest = []

/-- Anything may stand behind. -/
def Anything (_ : Tokens) : Prop := True

variable {ι : Type} {write : ι → Tokens} {stated : α → ι → Prop} {items : List ι}

/-- What is related to members of a list one by one is related to one of them each. -/
theorem exists_related {values : List α} (related : List.Forall₂ stated values items) :
    ∀ value ∈ values, ∃ item ∈ items, stated value item := by
  induction related with
  | nil => simp
  | cons here _ ih =>
    refine List.forall_mem_cons.mpr ⟨⟨_, .head _, here⟩, fun value member => ?_⟩
    obtain ⟨item, inside, related⟩ := ih value member
    exact ⟨item, .tail _ inside, related⟩

/-- Lists that are written alike one by one have the same rows. -/
theorem rows_eq_of_related {values : List α} {written : α → Tokens}
    (alike : ∀ value item, stated value item → written value = write item)
    (related : List.Forall₂ stated values items) : values.map written = items.map write := by
  induction related with
  | nil => rfl
  | cons here _ ih => rw [List.map_cons, List.map_cons, alike _ _ here, ih]

/-- Rows one behind the other are taken by a repetition that stops behind the last. -/
theorem reads_many {step : Parser (Option α)} {fits : Tokens → Prop}
    (some : ∀ item ∈ items, write item ≠ [])
    (each : ∀ item ∈ items, Reads step (write item) Anything fun found =>
      ∃ value, found = .some value ∧ stated value item)
    (stops : ∀ rest left, fits rest → step rest left = .ok ((none, rest), left)) :
    Reads (many step) (items.map write).flatten fits
      fun values => List.Forall₂ stated values items := by
  have repeats {fuel : Nat} (enough : (items.map write).flatten.length < fuel) :
      Reads (repeatFor step fuel) (items.map write).flatten fits
        fun values => List.Forall₂ stated values items := by
    induction items generalizing fuel with
    | nil =>
      obtain ⟨fuel, rfl⟩ : ∃ fewer, fuel = fewer + 1 := ⟨fuel - 1, by omega⟩
      intro rest left ends
      refine ⟨[], ?_, .nil⟩
      exact bind_ok_iff.mpr ⟨_, _, _, stops rest left ends, rfl⟩
    | cons item items ih =>
      obtain ⟨here, others⟩ := List.forall_mem_cons.mp each
      obtain ⟨nonempty, some⟩ := List.forall_mem_cons.mp some
      have shorter : 0 < (write item).length := List.length_pos_iff.mpr nonempty
      rw [List.map_cons, List.flatten_cons, List.length_append] at enough
      obtain ⟨fuel, rfl⟩ : ∃ fewer, fuel = fewer + 1 := ⟨fuel - 1, by omega⟩
      have fewer : (items.map write).flatten.length < fuel := by omega
      intro rest left ends
      obtain ⟨_, taken, value, rfl, isFirst⟩ :=
        here ((items.map write).flatten ++ rest) left trivial
      obtain ⟨values, further, areOthers⟩ := ih some others fewer rest left ends
      refine ⟨value :: values, ?_, .cons isFirst areOthers⟩
      rw [List.map_cons, List.flatten_cons, List.append_assoc, repeatFor]
      refine bind_ok_iff.mpr ⟨_, _, _, taken, ?_⟩
      exact bind_ok_iff.mpr ⟨_, _, _, further, rfl⟩
  intro rest left ends
  have enough : (items.map write).flatten.length <
      ((items.map write).flatten ++ rest).length + 1 := by
    rw [List.length_append]
    omega
  obtain ⟨values, taken, same⟩ := repeats enough rest left ends
  refine ⟨values, ?_, same⟩
  exact bind_ok_iff.mpr ⟨_, _, _, rfl, taken⟩

theorem withCommas_last (row : Tokens) : withCommas false [row] = row := by
  simp [withCommas, Token.commaSeparated]

/-- A comma stands behind a row in front of others, and behind the last one if asked for. -/
theorem withCommas_cons {comma : Bool} {rows : List Tokens} (more : comma = true ∨ rows ≠ [])
    (row : Tokens) :
    withCommas comma (row :: rows) = row ++ .punct ',' false :: withCommas comma rows := by
  cases rows with
  | nil =>
    obtain rfl := more.resolve_right (absurd rfl)
    rfl
  | cons second rows => simp [withCommas, Token.commaSeparated]

/-- Rows with commas between them are taken, each in front of a comma or the end. -/
theorem reads_commas {value : Parser α} (some : ∀ item ∈ items, write item ≠ [])
    (each : ∀ item ∈ items, Reads value (write item) Ends fun held => stated held item)
    (comma : Bool) :
    Reads (commasToEnd value) (withCommas comma (items.map write)) AtEnd fun found =>
      List.Forall₂ stated found.1 items ∧ found.2 = (comma && !items.isEmpty) := by
  have separated {fuel : Nat} (enough : (withCommas comma (items.map write)).length < fuel)
      (left : Option Delimiter) : ∃ values trailing,
        separatedFor "," atEnd value fuel (withCommas comma (items.map write)) left =
          .ok (((values, trailing), []), left) ∧
        List.Forall₂ stated values items ∧ trailing = (comma || items.isEmpty) := by
    induction items generalizing fuel with
    | nil =>
      obtain ⟨fuel, rfl⟩ : ∃ fewer, fuel = fewer + 1 := ⟨fuel - 1, by omega⟩
      exact ⟨[], true, by cases comma <;> rfl, .nil, by simp⟩
    | cons item items ih =>
      obtain ⟨here, others⟩ := List.forall_mem_cons.mp each
      obtain ⟨nonempty, some⟩ := List.forall_mem_cons.mp some
      obtain ⟨fuel, rfl⟩ : ∃ fewer, fuel = fewer + 1 := ⟨fuel - 1, by omega⟩
      have begins (rest : Tokens) :=
        run_atEnd (List.append_ne_nil_of_left_ne_nil nonempty rest) left
      rw [List.map_cons] at enough ⊢
      by_cases more : comma = true ∨ items ≠ []
      · have further : comma = true ∨ items.map write ≠ [] := by simpa using more
        rw [withCommas_cons further] at enough ⊢
        have fewer : (withCommas comma (items.map write)).length < fuel := by
          rw [List.length_append, List.length_cons] at enough
          omega
        obtain ⟨first, taken, isFirst⟩ :=
          here _ left (.comma false (withCommas comma (items.map write)))
        obtain ⟨values, trailing, loop, areOthers, ends⟩ := ih some others fewer
        refine ⟨first :: values, trailing, ?_, .cons isFirst areOthers, ?_⟩
        · rw [separatedFor]
          refine bind_ok_iff.mpr ⟨_, _, _, begins _, ?_⟩
          refine bind_ok_iff.mpr ⟨_, _, _, taken, ?_⟩
          refine bind_ok_iff.mpr ⟨false, _, _, rfl, ?_⟩
          refine bind_ok_iff.mpr
            ⟨_, _, _, (punct_char_ok_iff ',' rfl).mpr ⟨⟨false, rfl⟩, rfl⟩, ?_⟩
          exact bind_ok_iff.mpr ⟨_, _, _, loop, rfl⟩
        · rw [ends]
          cases comma <;> cases items <;> simp_all
      · obtain ⟨rfl, rfl⟩ : comma = false ∧ items = [] := by simpa using more
        rw [List.map_nil, withCommas_last]
        obtain ⟨first, taken, isFirst⟩ := here [] left .nothing
        rw [List.append_nil] at taken
        refine ⟨[first], false, ?_, .cons isFirst .nil, rfl⟩
        rw [separatedFor]
        refine bind_ok_iff.mpr ⟨_, _, _, List.append_nil (write item) ▸ begins [], ?_⟩
        exact bind_ok_iff.mpr ⟨_, _, _, taken, rfl⟩
  intro rest left ends
  obtain rfl : rest = [] := ends
  rw [List.append_nil]
  obtain ⟨values, trailing, taken, same, rfl⟩ := separated (Nat.lt_succ_self _) left
  refine ⟨(values, (comma || items.isEmpty) && !values.isEmpty), ?_, same, ?_⟩
  · simp only [commasToEnd, commas, run_bind, run_get, taken, run_pure]
  · cases same <;> cases comma <;> rfl

end

/-- What a repetition gives is given by its steps. -/
theorem many_yields {α : Type} {step : Parser (Option α)} {stated : α → Prop}
    (yields : Yields step fun found => ∀ value, found = some value → stated value) :
    Yields (many step) fun values => ∀ value ∈ values, stated value := by
  have repeats (fuel : Nat) :
      Yields (repeatFor step fuel) fun values => ∀ value ∈ values, stated value := by
    induction fuel with
    | zero => exact Yields.pure (by simp)
    | succ fuel ih =>
      refine Yields.bind_of yields fun found holds => ?_
      cases found with
      | none => exact Yields.pure (by simp)
      | some value =>
        refine Yields.bind_of ih fun values others => Yields.pure ?_
        exact List.forall_mem_cons.mpr ⟨holds value rfl, others⟩
  exact Yields.bind fun _ => repeats _

/-- What stands between commas is given by what is read there. -/
theorem commasToEnd_yields {α : Type} {value : Parser α} {stated : α → Prop}
    (yields : Yields value stated) :
    Yields (commasToEnd value) fun found => ∀ value ∈ found.1, stated value := by
  have separated (fuel : Nat) : Yields (separatedFor "," atEnd value fuel) fun found =>
      ∀ value ∈ found.1, stated value := by
    induction fuel with
    | zero => exact Yields.pure (by simp)
    | succ fuel ih =>
      refine Yields.bind fun _ => Yields.ite (fun _ => Yields.pure (by simp)) fun _ => ?_
      refine Yields.bind_of yields fun first holds => Yields.bind fun _ => ?_
      refine Yields.ite (fun _ => Yields.pure (by simpa using holds)) fun _ => ?_
      refine Yields.bind fun _ => Yields.bind_of ih fun found others => Yields.pure ?_
      exact List.forall_mem_cons.mpr ⟨holds, others⟩
  exact Yields.bind fun _ => Yields.bind_of (separated _) fun found holds => Yields.pure holds

variable {g : Grammar} {tokens rest : Tokens} {left after : Option Delimiter}
  {attributes : Attributes}

/-! ### Paths of attributes -/

/-- A name, or one of the words that stand for a segment of a path. -/
def startsPath (name : Ident) : Bool := name.isName || pathWords.any fun word => name == .plain word

/-- The path of an attribute: names without arguments, or the word `unsafe` in their place. -/
inductive AttributePath : Path → Prop
  | word : AttributePath (.ofIdent (.plain "unsafe"))
  | names (leading : Bool) {names : List Ident} (some : names ≠ [])
      (starts : ∀ name ∈ names, startsPath name = true) :
      AttributePath ⟨leading, names.map fun name => ⟨name, .none⟩⟩

theorem run_seesPathStart (name : Ident) :
    seesPathStart (.ident name :: rest) left =
      .ok ((startsPath name, .ident name :: rest), left) := by
  have same (word : String) :
      Tokens.beginWithWord word (.ident name :: rest) = (name == .plain word) := rfl
  simp [seesPathStart, startsPath, same]

/-- The names of a path with colons between them. -/
def namesRow (names : List Ident) : Tokens := joinColons (names.map fun name => [.ident name])

theorem path_tokens (leading : Bool) (names : List Ident) :
    Path.tokens ⟨leading, names.map fun name => ⟨name, .none⟩⟩ =
      (if leading then Token.operator "::" else []) ++ namesRow names := by
  have rows : segmentRows (names.map fun name => ⟨name, .none⟩) =
      names.map fun name => [.ident name] := by
    induction names with
    | nil => rfl
    | cons name names ih =>
      rw [List.map_cons, List.map_cons, segmentRows, ih]
      rfl
  rw [Path.tokens, rows, namesRow]

/-- Names with colons between them are read again where no colons stand behind them. -/
theorem reads_segments {names : List Ident} (some : names ≠ [])
    (starts : ∀ name ∈ names, startsPath name = true) {fuel : Nat} (enough : names.length ≤ fuel) :
    Reads (plainPath.segments fuel) (namesRow names) (·.beginWith "::" = false) (· = names) := by
  induction names generalizing fuel with
  | nil => exact absurd rfl some
  | cons name names ih =>
    obtain ⟨here, others⟩ := List.forall_mem_cons.mp starts
    obtain ⟨fuel, rfl⟩ : ∃ fewer, fuel = fewer + 1 := ⟨fuel - 1, by simp at enough; omega⟩
    have fewer : names.length ≤ fuel := by simpa using enough
    intro rest left noColons
    refine ⟨_, ?_, rfl⟩
    rw [plainPath.segments]
    have begins {rest : Tokens} : seesPathStart (.ident name :: rest) left =
        .ok ((true, .ident name :: rest), left) := by simp [run_seesPathStart, here]
    cases names with
    | nil =>
      refine bind_ok_iff.mpr ⟨_, _, _, begins, ?_⟩
      refine bind_ok_iff.mpr ⟨name, _, _, rfl, ?_⟩
      exact bind_ok_iff.mpr ⟨false, _, _, by simp [noColons], rfl⟩
    | cons second more =>
      obtain ⟨found, ran, rfl⟩ := ih (List.cons_ne_nil _ _) others fewer rest left noColons
      have goesOn : seesPathStart (namesRow (second :: more) ++ rest) left =
          .ok ((true, namesRow (second :: more) ++ rest), left) := by
        have starts : startsPath second = true := others second (.head _)
        obtain ⟨behind, row⟩ : ∃ behind,
            namesRow (second :: more) ++ rest = .ident second :: behind := by
          cases more <;> exact ⟨_, rfl⟩
        rw [row, run_seesPathStart, starts]
      refine bind_ok_iff.mpr ⟨_, _, _, begins, ?_⟩
      refine bind_ok_iff.mpr ⟨name, _, _, rfl, ?_⟩
      refine bind_ok_iff.mpr ⟨true, _, _, rfl, ?_⟩
      refine bind_ok_iff.mpr ⟨_, _, _, goesOn, ?_⟩
      exact bind_ok_iff.mpr ⟨_, _, _, ran, rfl⟩

theorem length_le_namesRow (names : List Ident) : names.length ≤ (namesRow names).length := by
  induction names with
  | nil => exact Nat.zero_le _
  | cons name names ih =>
    cases names with
    | nil => exact Nat.le_refl _
    | cons second more =>
      have row : (namesRow (name :: second :: more)).length =
        (namesRow (second :: more)).length + 3 := by
        simp [namesRow, joinColons, Token.operator, Token.operatorChars]
      rw [row, List.length_cons]
      omega

/-- A path of names is read again where no colons stand behind it. -/
theorem reads_plainPath (leading : Bool) {names : List Ident} (some : names ≠ [])
    (starts : ∀ name ∈ names, startsPath name = true) :
    Reads plainPath (Path.tokens ⟨leading, names.map fun name => ⟨name, .none⟩⟩)
      (·.beginWith "::" = false) (· = ⟨leading, names.map fun name => ⟨name, .none⟩⟩) := by
  intro rest left noColons
  have enough : names.length ≤ (namesRow names ++ rest).length + 1 := by
    rw [List.length_append]
    have := length_le_namesRow names
    omega
  have colons : punct? "::" (Path.tokens ⟨leading, names.map fun name => ⟨name, .none⟩⟩ ++ rest)
      left = .ok ((leading, namesRow names ++ rest), left) := by
    rw [path_tokens]
    cases leading with
    | true => rfl
    | false =>
      obtain ⟨name, more, rfl⟩ := List.exists_cons_of_ne_nil some
      cases more <;> rfl
  obtain ⟨found, ran, rfl⟩ := reads_segments some starts enough rest left noColons
  refine ⟨_, ?_, rfl⟩
  refine bind_ok_iff.mpr ⟨_, _, _, colons, ?_⟩
  refine bind_ok_iff.mpr ⟨_, _, _, rfl, ?_⟩
  exact bind_ok_iff.mpr ⟨_, _, _, ran, rfl⟩

/-- The segments that are read are such as start paths. -/
theorem segments_start (fuel : Nat) :
    Yields (plainPath.segments fuel) fun names =>
      names ≠ [] ∧ ∀ name ∈ names, startsPath name = true := by
  induction fuel with
  | zero => exact Yields.failExpecting _
  | succ fuel ih =>
    intro tokens left names rest after ran
    rw [plainPath.segments] at ran
    obtain ⟨starts, still, _, seen, begun⟩ := bind_ok_iff.mp ran
    obtain rfl : still = tokens := by
      cases seen
      rfl
    rw [run_ite] at begun
    split at begun
    · obtain ⟨name, _, _, taken, ended⟩ := bind_ok_iff.mp begun
      cases ended
      have isName := (ident_ok_iff.mp taken).2.1
      simp [startsPath, isName]
    · rename_i begins
      obtain ⟨name, behind, before, taken, further⟩ := bind_ok_iff.mp begun
      have start : startsPath name = true := by
        obtain ⟨rfl, -⟩ := anyIdent_ok_iff.mp taken
        rw [run_seesPathStart] at seen
        cases seen
        simpa using begins
      have goesOn : Yields (do
          if ← punct? "::" then
            if !(← seesPathStart) then refuseHere "expected path segment after `::`"
            return name :: (← plainPath.segments fuel)
          else return [name]) fun names => names ≠ [] ∧ ∀ name ∈ names, startsPath name = true := by
        refine Yields.bind fun _ => Yields.ite (fun _ => Yields.bind fun _ => ?_) fun _ => ?_
        · have further : Yields (do return name :: (← plainPath.segments fuel))
              fun names => names ≠ [] ∧ ∀ name ∈ names, startsPath name = true :=
            Yields.bind_of ih fun names others =>
              Yields.pure ⟨List.cons_ne_nil _ _, List.forall_mem_cons.mpr ⟨start, others.2⟩⟩
          refine Yields.ite (fun _ => ?_) fun _ => further
          exact Yields.bind fun _ => further
        · exact Yields.pure ⟨List.cons_ne_nil _ _, by simpa using start⟩
      exact goesOn _ _ _ _ _ further

theorem plainPath_names : Yields plainPath AttributePath := by
  refine Yields.bind fun leading => Yields.bind fun _ => Yields.bind_of (segments_start _) ?_
  exact fun names starts => Yields.pure (.names leading starts.1 starts.2)

/-! ### Attributes -/

/-- The value of an attribute, behind the equals sign. -/
def attributeValue (g : Grammar) : Parser Fragment := do
  if ← sees fun tokens =>
      tokens.beginWith "#" && Tokens.beginWithGroup .bracket (tokens.drop 1) then
    refuseHere "unexpected attribute inside of attribute"
  g.constant

/-- The value of the attribute is read again, if it has one. -/
def ReadsValue (g : Grammar) (held : Attribute) : Prop :=
  ∀ value, held.content = .value value →
    Reads (attributeValue g) value.tokens AtEnd fun found => found.tokens = value.tokens

/-- The path of an attribute. -/
def attributePath : Parser Path := do
  if ← seesWord "unsafe" then Path.ofIdent <$> anyIdent else plainPath

/-- What stands behind the path of an attribute. -/
def attributeContent (g : Grammar) : Parser AttributeContent := do
  match ← attributeGroup? with
  | some content => return content
  | none =>
    if ← sees fun tokens =>
        tokens.beginWith "=" && !tokens.beginWith "==" && !tokens.beginWith "=>" then
      punct "="
      return .value (← attributeValue g)
    else return .none

theorem attributeBody_eq : attributeBody g = do
    let path ← attributePath
    return (path, ← attributeContent g) := by
  simp only [attributeBody, attributePath, attributeContent, attributeValue, bind_assoc]
  congr 1
  funext isWord
  split <;> (congr 1; funext path; congr 1; funext found; cases found <;> simp [apply_ite])

/-- The path of an attribute is read again where no colons stand behind it. -/
theorem reads_attributePath {path : Path} (isPath : AttributePath path) :
    Reads attributePath path.tokens (·.beginWith "::" = false) (· = path) := by
  intro rest left noColons
  cases isPath with
  | word => exact ⟨_, rfl, rfl⟩
  | @names leading names some starts =>
    have noWord : Tokens.beginWithWord "unsafe"
        (Path.tokens ⟨leading, names.map fun name => ⟨name, .none⟩⟩ ++ rest) = false := by
      obtain ⟨name, more, rfl⟩ := List.exists_cons_of_ne_nil some
      have other : name ≠ .plain "unsafe" := by
        rintro rfl
        exact absurd (starts _ (.head _)) (by decide)
      rw [path_tokens]
      cases leading <;> cases more <;> simp [namesRow, joinColons, Token.operator,
        Token.operatorChars, Tokens.beginWithWord, Tokens.ident?, other]
    obtain ⟨found, ran, rfl⟩ := reads_plainPath leading some starts rest left noColons
    refine ⟨_, bind_ok_iff.mpr ⟨false, _, _, ?_, ran⟩, rfl⟩
    rw [← noWord]
    rfl

theorem reads_attributeContent {content : AttributeContent}
    (value : ∀ value, content = .value value →
      Reads (attributeValue g) value.tokens AtEnd fun found => found.tokens = value.tokens) :
    Reads (attributeContent g) content.tokens AtEnd fun found => found.tokens = content.tokens := by
  intro rest left ends
  obtain rfl : rest = [] := ends
  cases content with
  | none => exact ⟨_, rfl, rfl⟩
  | list delimiter inner => exact ⟨_, rfl, rfl⟩
  | value held =>
    obtain ⟨found, taken, same⟩ := value held rfl [] left rfl
    refine ⟨.value found, ?_, congrArg (List.cons _) same⟩
    refine bind_ok_iff.mpr ⟨none, _, _, rfl, ?_⟩
    refine bind_ok_iff.mpr ⟨true, _, _, rfl, ?_⟩
    refine bind_ok_iff.mpr ⟨(), _, _, rfl, ?_⟩
    exact bind_ok_iff.mpr ⟨_, _, _, taken, rfl⟩

/-- The parts of the attribute are read again: its path and its value. -/
structure ReadsAttribute (g : Grammar) (held : Attribute) : Prop where
  path : AttributePath held.path
  value : ReadsValue g held

/-- What stands between the brackets of the attribute is read again. -/
theorem reads_attributeBody {held : Attribute} (reads : ReadsAttribute g held) :
    Reads (attributeBody g) (held.path.tokens ++ held.content.tokens) AtEnd fun found =>
      found.1 = held.path ∧ found.2.tokens = held.content.tokens := by
  obtain ⟨inner, path, content⟩ := held
  obtain ⟨isPath, value⟩ := reads
  intro rest left ends
  have noColons : (content.tokens ++ rest).beginWith "::" = false := by
    obtain rfl : rest = [] := ends
    cases content <;> rfl
  obtain ⟨found, ranContent, same⟩ := reads_attributeContent value rest left ends
  obtain ⟨_, ranPath, rfl⟩ := reads_attributePath isPath _ left noColons
  refine ⟨(_, found), ?_, rfl, same⟩
  rw [attributeBody_eq, List.append_assoc]
  refine bind_ok_iff.mpr ⟨_, _, _, ranPath, ?_⟩
  exact bind_ok_iff.mpr ⟨_, _, _, ranContent, rfl⟩

/-- The attribute has the path of the other and is written like it. -/
structure AttributeAgain (held other : Attribute) : Prop where
  inner : held.inner = other.inner
  path : held.path = other.path
  written : held.tokens = other.tokens

/-- The tokens of the attributes inside or outside of what they belong to. -/
def sideTokens (inner : Bool) (attributes : Attributes) : Tokens :=
  ((attributes.filter (·.inner == inner)).map Attribute.tokens).flatten

theorem outer_eq_side : attributes.outer = sideTokens false attributes := by
  unfold Attributes.outer
  induction attributes with
  | nil => rfl
  | cons held others ih => cases inner : held.inner <;> simp_all [outerTokens, sideTokens]

theorem inner_eq_side : attributes.inner = sideTokens true attributes := by
  simp [Attributes.inner, sideTokens]

theorem tokens_eq (held : Attribute) :
    held.tokens = .punct '#' false :: ((if held.inner then [.punct '!' false] else []) ++
      [.bracket (held.path.tokens ++ held.content.tokens)]) := by
  cases held
  rw [Attribute.tokens]

theorem tokens_ne_nil (held : Attribute) : held.tokens ≠ [] := by
  rw [tokens_eq]
  exact List.cons_ne_nil _ _

/-- An attribute is read behind the mark in front of it. -/
theorem reads_attributeGroup {held : Attribute} (reads : ReadsAttribute g held) (rest : Tokens)
    (left : Option Delimiter) :
    ∃ found, group .bracket (attributeBody g)
        (.bracket (held.path.tokens ++ held.content.tokens) :: rest) left =
          .ok ((found, rest), left) ∧
      AttributeAgain ⟨held.inner, found.1, found.2⟩ held := by
  obtain ⟨found, taken, path, written⟩ := reads_attributeBody reads [] left rfl
  rw [List.append_nil] at taken
  refine ⟨found, ?_, rfl, path, ?_⟩
  · rw [Token.bracket, run_group, taken]
    rfl
  · rw [tokens_eq, tokens_eq, path, written]

/-- Nothing that would be an attribute of this side stands in front. -/
def EndsSide (inner : Bool) (rest : Tokens) : Prop :=
  (rest.beginWith "#" && (!inner || Tokens.beginWith "!" (rest.drop 1))) = false

/-- Attributes of one side are read again. -/
theorem reads_side (inner : Bool) (reads : ∀ held ∈ attributes, ReadsAttribute g held) :
    Reads (if inner then innerAttributes g else outerAttributes g) (sideTokens inner attributes)
      (EndsSide inner) fun again => List.Forall₂ AttributeAgain again
        (attributes.filter (·.inner == inner)) := by
  have placed : ∀ held ∈ attributes.filter (·.inner == inner),
      held.inner = inner ∧ ReadsAttribute g held := fun held member => by
    obtain ⟨inside, same⟩ := List.mem_filter.mp member
    exact ⟨beq_iff_eq.mp same, reads held inside⟩
  cases inner with
  | false =>
    refine reads_many (fun held _ => tokens_ne_nil held) (fun held member rest left _ => ?_)
      fun rest left ends => ?_
    · obtain ⟨outer, reads⟩ := placed held member
      obtain ⟨found, taken, again⟩ := reads_attributeGroup reads rest left
      rw [outer] at again
      refine ⟨_, ?_, _, rfl, again⟩
      rw [tokens_eq, outer]
      refine bind_ok_iff.mpr ⟨true, _, _, rfl, ?_⟩
      exact bind_ok_iff.mpr ⟨_, _, _, taken, rfl⟩
    · have noMark : rest.beginWith "#" = false := by simpa [EndsSide] using ends
      simp [noMark]
  | true =>
    refine reads_many (fun held _ => tokens_ne_nil held) (fun held member rest left _ => ?_)
      fun rest left ends => ?_
    · obtain ⟨inner, reads⟩ := placed held member
      obtain ⟨found, taken, again⟩ := reads_attributeGroup reads rest left
      rw [inner] at again
      refine ⟨_, ?_, _, rfl, again⟩
      rw [tokens_eq, inner]
      refine bind_ok_iff.mpr ⟨true, _, _, rfl, ?_⟩
      refine bind_ok_iff.mpr ⟨(), _, _, rfl, ?_⟩
      refine bind_ok_iff.mpr ⟨(), _, _, rfl, ?_⟩
      exact bind_ok_iff.mpr ⟨_, _, _, taken, rfl⟩
    · have noMark : (rest.beginWith "#" && Tokens.beginWith "!" (rest.drop 1)) = false := ends
      refine bind_ok_iff.mpr ⟨_, _, _, run_sees _ _ _, ?_⟩
      rw [noMark]
      rfl

/-- Every attribute has the path of one of the others. -/
def AreAmong (attributes others : Attributes) : Prop :=
  ∀ held ∈ attributes, ∃ other ∈ others, held.path = other.path

theorem AreAmong.append {first second others : Attributes} (areFirst : AreAmong first others)
    (areSecond : AreAmong second others) : AreAmong (first ++ second) others :=
  fun held member => (List.mem_append.mp member).elim (areFirst held) (areSecond held)

/-- Attributes that were read again are of the same side, have the same paths and are written
alike. -/
theorem again_side {again : Attributes} {inner : Bool}
    (same : List.Forall₂ AttributeAgain again (attributes.filter (·.inner == inner))) :
    AreAmong again attributes ∧ (∀ held ∈ again, held.inner = inner) ∧
      sideTokens inner again = sideTokens inner attributes := by
  have each : ∀ held ∈ again, ∃ other ∈ attributes, other.inner = inner ∧
      AttributeAgain held other := fun held member => by
    obtain ⟨other, inside, like⟩ := exists_related same held member
    obtain ⟨inside, placed⟩ := List.mem_filter.mp inside
    exact ⟨other, inside, beq_iff_eq.mp placed, like⟩
  have placed : ∀ held ∈ again, held.inner = inner := fun held member => by
    obtain ⟨other, -, placed, like⟩ := each held member
    exact like.inner.trans placed
  refine ⟨fun held member => ?_, placed, ?_⟩
  · obtain ⟨other, inside, -, like⟩ := each held member
    exact ⟨other, inside, like.path⟩
  · have all : again.filter (·.inner == inner) = again :=
      List.filter_eq_self.mpr fun held member => beq_iff_eq.mpr (placed held member)
    rw [sideTokens, sideTokens, all, rows_eq_of_related (fun _ _ like => like.written) same]

/-- Attributes in front of something are read again. -/
theorem reads_front (reads : ∀ held ∈ attributes, ReadsAttribute g held)
    (noMark : rest.beginWith "#" = false) (left : Option Delimiter) :
    ∃ again, outerAttributes g (attributes.outer ++ rest) left = .ok ((again, rest), left) ∧
      AreAmong again attributes ∧ (∀ held ∈ again, held.inner = false) ∧
      again.outer = attributes.outer := by
  rw [outer_eq_side]
  have ends : EndsSide false rest := by simp [EndsSide, noMark]
  obtain ⟨again, ran, same⟩ := reads_side false reads rest left ends
  obtain ⟨among, areOuter, written⟩ := again_side same
  exact ⟨again, ran, among, areOuter, outer_eq_side.trans written⟩

/-- Attributes at the beginning of what encloses them are read again. -/
theorem reads_begin (reads : ∀ held ∈ attributes, ReadsAttribute g held)
    (noMark : EndsSide true rest) (left : Option Delimiter) :
    ∃ again, innerAttributes g (attributes.inner ++ rest) left = .ok ((again, rest), left) ∧
      AreAmong again attributes ∧ (∀ held ∈ again, held.inner = true) ∧
      again.inner = attributes.inner := by
  rw [inner_eq_side]
  obtain ⟨again, ran, same⟩ := reads_side true reads rest left noMark
  obtain ⟨among, areInner, written⟩ := again_side same
  exact ⟨again, ran, among, areInner, inner_eq_side.trans written⟩

/-- Attributes from both places are written in both again. -/
theorem attributes_append {outer inner : Attributes} (areOuter : ∀ held ∈ outer, held.inner = false)
    (areInner : ∀ held ∈ inner, held.inner = true) :
    Attributes.outer (outer ++ inner) = outer.outer ∧
      Attributes.inner (outer ++ inner) = inner.inner := by
  have noOuter : sideTokens false inner = [] := by
    rw [sideTokens, List.filter_eq_nil_iff.mpr fun held member => by simp [areInner held member]]
    rfl
  have noInner : sideTokens true outer = [] := by
    rw [sideTokens, List.filter_eq_nil_iff.mpr fun held member => by simp [areOuter held member]]
    rfl
  have parts (side : Bool) :
      sideTokens side (outer ++ inner) = sideTokens side outer ++ sideTokens side inner := by
    simp [sideTokens]
  constructor
  · rw [outer_eq_side, parts, noOuter, List.append_nil, outer_eq_side]
  · rw [inner_eq_side, parts, noInner, List.nil_append, inner_eq_side]

/-! ### Attributes that are read -/

theorem attributeBody_path : Yields (attributeBody g) fun found => AttributePath found.1 := by
  rw [attributeBody_eq]
  have path : Yields attributePath AttributePath := by
    intro tokens left path rest after ran
    obtain ⟨isWord, _, _, seen, ran⟩ := bind_ok_iff.mp ran
    cases isWord with
    | false => exact plainPath_names _ _ _ _ _ ran
    | true =>
      simp only [seesWord, run_sees, Except.ok.injEq, Prod.mk.injEq] at seen
      obtain ⟨⟨isWord, rfl⟩, rfl⟩ := seen
      obtain ⟨more, rfl⟩ := beginWithWord_iff.mp isWord
      cases ran
      exact .word
  exact Yields.bind_of path fun path isPath => Yields.bind fun content => Yields.pure isPath

/-- What is read as attributes has the paths of attributes. -/
theorem outerAttributes_paths :
    Yields (outerAttributes g) fun attributes => ∀ held ∈ attributes, AttributePath held.path := by
  refine many_yields (Yields.bind fun _ => Yields.ite (fun _ => ?_) fun _ => ?_)
  · refine Yields.bind_of (Yields.group attributeBody_path) fun found isPath => Yields.pure ?_
    rintro _ ⟨⟩
    exact isPath
  · exact Yields.pure (by simp)

theorem innerAttributes_paths :
    Yields (innerAttributes g) fun attributes => ∀ held ∈ attributes, AttributePath held.path := by
  refine many_yields (Yields.bind fun _ => Yields.ite (fun _ => ?_) fun _ => ?_)
  · refine Yields.bind fun _ => Yields.bind fun _ => ?_
    refine Yields.bind_of (Yields.group attributeBody_path) fun found isPath => Yields.pure ?_
    rintro _ ⟨⟩
    exact isPath
  · exact Yields.pure (by simp)

end Endpoint.Source.Grammar
