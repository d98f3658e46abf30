import Endpoint.Proofs.Source.Rereading.Attribute

/-!
The inputs of a function are read again with other attributes in front of them, if what stands
behind their attributes is, and so is its signature around them.
-/

namespace Endpoint.Source

namespace Input

def isReceiver : Input → Bool
  | .receiver _ => true
  | .typed .. => false

def attributes : Input → Attributes
  | .receiver held => held.attributes
  | .typed attributes _ _ => attributes

/-- The input under other attributes. -/
def under (attributes : Attributes) : Input → Input
  | .receiver held => .receiver { held with attributes }
  | .typed _ pattern ty => .typed attributes pattern ty

end Input

namespace Grammar

open Source.Parser

variable {g : Grammar} {tokens rest : Tokens} {left after : Option Delimiter}

/-! ### Inputs -/

/-- What is read behind the attributes of an input: the input, or nothing for a variadic end. -/
def bareInput (g : Grammar) : Parser (Option Input) := do
  if ← punct? "..." then return none
  match ← optional? (receiver g []) with
  | some held => return some (.receiver held)
  | none =>
    if ← sees fun tokens => tokens.beginWithName && Tokens.beginWith "<" (tokens.drop 1) then
      return some (.typed [] .wild (← g.ty true))
    else
      let pattern ← g.pattern
      punct ":"
      if ← punct? "..." then return none
      return some (.typed [] pattern (← g.ty true))

theorem input_tokens (attributes : Attributes) (input : Input) :
    (input.under attributes).tokens = attributes.outer ++ (input.under []).tokens := by
  cases input <;>
    simp [Input.under, Input.tokens, Receiver.tokens, Attributes.outer, outerTokens]

theorem receiver_under (attributes : Attributes) :
    receiver g attributes = (fun taken => { taken with attributes }) <$> receiver g [] := by
  simp [receiver, map_bind, apply_ite fun parser : Parser Receiver =>
    (fun taken : Receiver => { taken with attributes }) <$> parser]

theorem run_optional_receiver (attributes : Attributes) {held : Option Receiver}
    (ran : optional? (receiver g []) tokens left = .ok ((held, rest), after)) :
    optional? (receiver g attributes) tokens left =
      .ok ((held.map fun taken => { taken with attributes }, rest), after) := by
  rw [receiver_under, optional?, run_map]
  rw [optional?] at ran
  cases taken : receiver g [] tokens left with
  | error fault =>
    rw [taken] at ran
    cases ran
    rfl
  | ok found =>
    rw [taken] at ran
    cases ran
    rfl

/-- An input is read behind its attributes, and then what follows it. -/
theorem run_input {attributes : Attributes} {behind : Tokens} {input : Input}
    {first received : Bool}
    (place : input.isReceiver = true → first = true ∧ received = false) (more : tokens ≠ [])
    (front : outerAttributes g tokens left = .ok ((attributes, behind), left))
    (bare : bareInput g behind left = .ok ((some input, rest), after)) (fuel : Nat) :
    inputsFor g first received (fuel + 1) tokens left =
      inputsFor.goOn g fuel (received || input.isReceiver) (input.under attributes) rest after := by
  rw [inputsFor, run_step (run_atEnd more left), run_ite, if_neg Bool.false_ne_true, run_step front]
  obtain ⟨points, _, _, ranPoints, bare⟩ := bind_ok_iff.mp bare
  rw [run_step ranPoints]
  cases points with
  | true => cases bare
  | false =>
    obtain ⟨held, _, _, ranReceiver, bare⟩ := bind_ok_iff.mp bare
    simp only [Bool.false_eq_true, if_false, run_ite]
    rw [run_step (run_optional_receiver attributes ranReceiver)]
    cases held with
    | some held =>
      cases bare
      obtain ⟨rfl, rfl⟩ := place rfl
      rfl
    | none =>
      obtain ⟨isBare, _, _, ranSees, bare⟩ := bind_ok_iff.mp bare
      dsimp only [Option.map_none]
      rw [run_step ranSees]
      cases isBare with
      | true =>
        obtain ⟨ty, _, _, ranTy, ended⟩ := bind_ok_iff.mp bare
        cases ended
        simp only [if_true]
        rw [run_step ranTy, Input.isReceiver, Bool.or_false]
        rfl
      | false =>
        obtain ⟨pattern, _, _, ranPattern, bare⟩ := bind_ok_iff.mp bare
        obtain ⟨_, _, _, ranColon, bare⟩ := bind_ok_iff.mp bare
        obtain ⟨variadic, _, _, ranVariadic, bare⟩ := bind_ok_iff.mp bare
        simp only [Bool.false_eq_true, if_false]
        rw [run_step ranPattern, run_step ranColon, run_step ranVariadic]
        cases variadic with
        | true => cases bare
        | false =>
          obtain ⟨ty, _, _, ranTy, ended⟩ := bind_ok_iff.mp bare
          cases ended
          simp only [Bool.false_eq_true, if_false]
          rw [run_step ranTy, Input.isReceiver, Bool.or_false]
          rfl

/-- The parts of an input are read again: the values of its attributes, and what stands behind
them. -/
structure ReadsInput (g : Grammar) (input : Input) : Prop where
  values : ∀ held ∈ input.attributes, ReadsValue g held
  noMark : (input.under []).tokens.beginWith "#" = false
  bare : Reads (bareInput g) (input.under []).tokens Ends fun found =>
    ∃ again, found = some again ∧ again.isReceiver = input.isReceiver ∧
      (again.under []).tokens = (input.under []).tokens

/-- The input is of the kind of the other and written like it, with attributes of the same paths. -/
structure InputAgain (again input : Input) : Prop where
  kind : again.isReceiver = input.isReceiver
  among : AreAmong again.attributes input.attributes
  written : again.tokens = input.tokens

theorem under_attributes (input : Input) : input.under input.attributes = input := by
  cases input <;> rfl

theorem attributes_under (attributes : Attributes) (input : Input) :
    (input.under attributes).attributes = attributes := by
  cases input <;> rfl

theorem isReceiver_under (attributes : Attributes) (input : Input) :
    (input.under attributes).isReceiver = input.isReceiver := by
  cases input <;> rfl

theorem bare_ne_nil (input : Input) : (input.under []).tokens ≠ [] := by
  cases input <;> simp [Input.under, Input.tokens, Receiver.tokens]

/-- An input is read again, and then what follows it. -/
theorem reads_input {input : Input} (reads : ReadsInput g input)
    (paths : ∀ held ∈ input.attributes, AttributePath held.path) {first received : Bool}
    (place : input.isReceiver = true → first = true ∧ received = false) (ends : Ends rest)
    (left : Option Delimiter) (fuel : Nat) :
    ∃ again, InputAgain again input ∧
      inputsFor g first received (fuel + 1) (input.tokens ++ rest) left =
        inputsFor.goOn g fuel (received || input.isReceiver) again rest left := by
  have row : input.tokens = input.attributes.outer ++ (input.under []).tokens := by
    rw [← input_tokens, under_attributes]
  have noMark : ((input.under []).tokens ++ rest).beginWith "#" = false := by
    obtain ⟨token, more, begins⟩ := List.exists_cons_of_ne_nil (bare_ne_nil input)
    have noMark := reads.noMark
    rw [begins] at noMark ⊢
    cases token <;> exact noMark
  obtain ⟨found, ranBare, again, rfl, kind, written⟩ := reads.bare rest left ends
  obtain ⟨attributes, ranFront, among, -, outer⟩ :=
    reads_front (fun held member => ⟨paths held member, reads.values held member⟩) noMark left
  refine ⟨again.under attributes, ⟨?_, ?_, ?_⟩, ?_⟩
  · rw [isReceiver_under, kind]
  · rwa [attributes_under]
  · rw [row, input_tokens, outer, written]
  · have more : input.attributes.outer ++ ((input.under []).tokens ++ rest) ≠ [] := by
      simp [bare_ne_nil]
    rw [row, List.append_assoc, run_input (kind ▸ place) more ranFront ranBare, kind]

/-! ### Inputs that are read -/

/-- No input is a receiver but the first, and that one not if others stand in front. All have
attributes with the paths of attributes. -/
structure HoldsInputs (first : Bool) (inputs : List Input) : Prop where
  others : ∀ input ∈ inputs.tail, input.isReceiver = false
  leads : first = false → ∀ input ∈ inputs, input.isReceiver = false
  paths : ∀ input ∈ inputs, ∀ held ∈ input.attributes, AttributePath held.path

theorem holdsInputs_nil (first : Bool) : HoldsInputs first [] :=
  ⟨by simp, by simp, by simp⟩

theorem holdsInputs_cons_iff {first : Bool} {input : Input} {inputs : List Input} :
    HoldsInputs first (input :: inputs) ↔
      (input.isReceiver = true → first = true) ∧
        (∀ held ∈ input.attributes, AttributePath held.path) ∧ HoldsInputs false inputs := by
  constructor
  · rintro ⟨others, leads, paths⟩
    obtain ⟨here, further⟩ := List.forall_mem_cons.mp paths
    refine ⟨fun receives => ?_, here, fun other member => ?_, fun _ => others, further⟩
    · by_contra later
      rw [leads (Bool.eq_false_iff.mpr later) input (.head _)] at receives
      cases receives
    · exact others other (List.mem_of_mem_tail member)
  · rintro ⟨place, here, -, leads, paths⟩
    refine ⟨leads rfl, fun later => ?_, List.forall_mem_cons.mpr ⟨here, paths⟩⟩
    refine List.forall_mem_cons.mpr ⟨Bool.eq_false_iff.mpr fun receives => ?_, leads rfl⟩
    rw [place receives] at later
    cases later

theorem inputsFor_holds (first received : Bool) (fuel : Nat) :
    Yields (inputsFor g first received fuel) fun found => HoldsInputs first found.1 := by
  induction fuel generalizing first received with
  | zero =>
    rw [inputsFor]
    exact Yields.failExpecting _
  | succ fuel ih =>
    have further (received : Bool) {input : Input} (place : input.isReceiver = true → first = true)
        (paths : ∀ held ∈ input.attributes, AttributePath held.path) :
        Yields (inputsFor.goOn g fuel received input) fun found => HoldsInputs first found.1 := by
      unfold inputsFor.goOn
      refine Yields.bind fun ends => Yields.ite (fun _ => ?_) fun _ => Yields.bind fun _ => ?_
      · exact Yields.pure (holdsInputs_cons_iff.mpr ⟨place, paths, holdsInputs_nil false⟩)
      · refine Yields.bind_of (ih false received) fun found others => ?_
        exact Yields.pure (holdsInputs_cons_iff.mpr ⟨place, paths, others⟩)
    unfold inputsFor
    refine Yields.bind fun ends => ?_
    refine Yields.ite (fun _ => Yields.pure (holdsInputs_nil first)) fun _ => ?_
    refine Yields.bind_of outerAttributes_paths fun attributes paths => Yields.bind fun points => ?_
    refine Yields.ite (fun _ => ?_) fun _ => ?_
    · exact Yields.bind fun _ => Yields.pure (holdsInputs_nil first)
    have typed (received : Bool) (pattern : Pattern) (ty : Ty) :
        Yields (inputsFor.goOn g fuel received (.typed attributes pattern ty)) fun found =>
          HoldsInputs first found.1 := further received (fun receives => by cases receives) paths
    have receiver : Yields (optional? (receiver g attributes)) fun found =>
        ∀ held, found = some held → held.attributes = attributes := by
      intro tokens left found rest after ran held same
      rw [optional?, receiver_under, run_map] at ran
      cases taken : receiver g [] tokens left with
      | error fault =>
        rw [taken] at ran
        cases ran
        cases same
      | ok found =>
        rw [taken] at ran
        cases ran
        cases same
        rfl
    refine Yields.bind_of receiver fun found same => ?_
    cases found with
    | some found =>
      have paths : ∀ held ∈ (Input.receiver found).attributes, AttributePath held.path := by
        rwa [Input.attributes, same found rfl]
      have leads : Yields (do
          if !first then refuse "unexpected method receiver"
          inputsFor.goOn g fuel true (.receiver found)) fun held => HoldsInputs first held.1 := by
        refine Yields.ite (fun later => ?_) fun leads => ?_
        · exact Yields.bind_of (Yields.refuse _) fun _ => False.elim
        · exact further true (fun _ => by simpa using leads) paths
      exact Yields.ite (fun _ => Yields.bind fun _ => leads) fun _ => leads
    | none =>
      refine Yields.bind fun bare => Yields.ite (fun _ => Yields.bind fun ty => typed _ _ _) ?_
      intro
      refine Yields.bind fun pattern => Yields.bind fun _ => Yields.bind fun points => ?_
      refine Yields.ite (fun _ => ?_) fun _ => Yields.bind fun ty => typed _ _ _
      exact Yields.bind fun _ => Yields.pure (holdsInputs_nil first)

theorem signature_holds (allowSafe : Bool) :
    Yields (signature g allowSafe) fun found => HoldsInputs true found.1.inputs := by
  unfold signature
  iterate 4 refine Yields.bind fun _ => ?_
  refine Yields.bind_of (Yields.group (Yields.bind fun _ => inputsFor_holds true false _)) ?_
  intro found holds
  exact Yields.bind fun _ => Yields.bind fun _ => Yields.pure holds

/-! ### Signatures -/

/-- The tokens of a variadic end, if there is one. -/
def variadicRow (held : Option Variadic) : Tokens := (held.map Variadic.tokens).getD []

section

variable (g)

/-- A variadic end is read again behind any inputs. -/
def ReadsVariadic (held : Variadic) : Prop :=
  ∀ first received fuel, Reads (inputsFor g first received (fuel + 1)) held.tokens AtEnd
    fun found => found.1 = [] ∧ found.2.1 = true ∧ variadicRow found.2.2 = held.tokens

end

/-- What stands between the parentheses of a function. -/
def inputsRow (inputs : List Input) (comma : Bool) (variadic : Option Variadic) : Tokens :=
  withCommas (comma || variadic.isSome) (inputs.map Input.tokens) ++ variadicRow variadic

theorem inputsRow_nil (comma : Bool) (variadic : Option Variadic) :
    inputsRow [] comma variadic = variadicRow variadic := by
  cases comma <;> cases variadic <;> rfl

theorem inputsRow_cons {inputs : List Input} {comma : Bool} {variadic : Option Variadic}
    (more : (comma || variadic.isSome) = true ∨ inputs ≠ []) (input : Input) :
    inputsRow (input :: inputs) comma variadic =
      input.tokens ++ .punct ',' false :: inputsRow inputs comma variadic := by
  have rows : (comma || variadic.isSome) = true ∨ inputs.map Input.tokens ≠ [] := by
    simpa using more
  rw [inputsRow, List.map_cons, withCommas_cons rows, inputsRow, List.append_assoc,
    List.cons_append]

/-- Inputs with commas between them are read again, and the variadic end behind them. -/
theorem reads_inputs {inputs : List Input} (reads : ∀ input ∈ inputs, ReadsInput g input)
    {variadic : Option Variadic} (ends : ∀ held, variadic = some held → ReadsVariadic g held)
    {first received : Bool} (holds : HoldsInputs first inputs)
    (fresh : first = true → received = false) (comma : Bool) (left : Option Delimiter) {fuel : Nat}
    (enough : (inputsRow inputs comma variadic).length < fuel) :
    ∃ again flag found, inputsFor g first received fuel (inputsRow inputs comma variadic) left =
        .ok (((again, flag, found), []), left) ∧
      List.Forall₂ InputAgain again inputs ∧ (again = [] → flag = true) ∧
      inputsRow again flag found = inputsRow inputs comma variadic := by
  obtain ⟨fuel, rfl⟩ : ∃ fewer, fuel = fewer + 1 := ⟨fuel - 1, by omega⟩
  induction inputs generalizing first received fuel with
  | nil =>
    rw [inputsRow_nil]
    cases variadic with
    | none =>
      refine ⟨[], true, none, ?_, .nil, fun _ => rfl, rfl⟩
      rw [inputsFor]
      rfl
    | some held =>
      obtain ⟨⟨again, flag, found⟩, ran, isEmpty, isTrue, same⟩ :=
        ends held rfl first received fuel [] left rfl
      obtain rfl : again = [] := isEmpty
      obtain rfl : flag = true := isTrue
      rw [List.append_nil] at ran
      exact ⟨[], true, found, ran, .nil, fun _ => rfl, (inputsRow_nil _ _).trans same⟩
  | cons input inputs ih =>
    obtain ⟨here, further⟩ := List.forall_mem_cons.mp reads
    obtain ⟨place, paths, others⟩ := holdsInputs_cons_iff.mp holds
    have stands := fun receives => And.intro (place receives) (fresh (place receives))
    by_cases more : (comma || variadic.isSome) = true ∨ inputs ≠ []
    · rw [inputsRow_cons more] at enough ⊢
      rw [List.length_append, List.length_cons] at enough
      obtain ⟨fuel, rfl⟩ : ∃ fewer, fuel = fewer + 1 := ⟨fuel - 1, by omega⟩
      obtain ⟨again, same, ran⟩ := reads_input here paths stands
        (.comma false (inputsRow inputs comma variadic)) left (fuel + 1)
      obtain ⟨agains, flag, found, loop, sames, isTrue, row⟩ :=
        ih further others (fun later => by cases later) fuel (by omega)
      refine ⟨again :: agains, flag, found, ?_, .cons same sames, by simp, ?_⟩
      · rw [ran, inputsFor.goOn, run_step (run_atEnd (List.cons_ne_nil _ _) left), run_ite,
          if_neg Bool.false_ne_true,
          run_step ((punct_char_ok_iff ',' rfl).mpr ⟨⟨false, rfl⟩, rfl⟩), run_step loop]
        rfl
      · have separated : (flag || found.isSome) = true ∨ agains ≠ [] := by
          by_cases none : agains = []
          · simp [isTrue none]
          · exact .inr none
        rw [inputsRow_cons separated, same.written, row]
    · obtain ⟨⟨rfl, noVariadic⟩, rfl⟩ :
          (comma = false ∧ variadic.isSome = false) ∧ inputs = [] := by simpa using more
      obtain rfl := Option.isNone_iff_eq_none.mp (by simpa using noVariadic)
      have row : inputsRow [input] false none = input.tokens := by
        simp [inputsRow, withCommas_last, variadicRow]
      obtain ⟨again, same, ran⟩ := reads_input here paths stands .nothing left fuel
      refine ⟨[again], false, none, ?_, .cons same .nil, by simp, ?_⟩
      · rw [row, ← List.append_nil input.tokens, ran, inputsFor.goOn]
        rfl
      · rw [row, ← same.written]
        simp [inputsRow, withCommas_last, variadicRow]

/-- What stands between the parentheses does not hang on a comma behind nothing. -/
theorem inputsRow_comma (inputs : List Input) (comma : Bool) (variadic : Option Variadic) :
    inputsRow inputs (comma && !inputs.isEmpty) variadic = inputsRow inputs comma variadic := by
  cases inputs with
  | nil => rw [inputsRow_nil, inputsRow_nil]
  | cons => simp

/-- A function in front of its parentheses. -/
def signatureFront (g : Grammar) : Parser Signature := do
  let words ← signatureWords false
  word "fn"
  let name ← ident
  let generics ← genericParameters g
  return ⟨words.isConst, words.isAsync, words.safety, words.linkage, name, generics, [], false,
    none, none⟩

/-- A function behind its parentheses: its result and its conditions. -/
def signatureBack (g : Grammar) : Parser (Option Ty × Option WhereClause) := do
  let output ← result? g true
  return (output, ← whereClause? g)

/-- The tokens of a where clause, if there is one. -/
def clauseRow (clause : Option WhereClause) : Tokens := Generics.clauseTokens ⟨[], false, clause⟩

def frontRow (held : Signature) : Tokens :=
  keywordIf held.isConst "const" ++ keywordIf held.isAsync "async" ++
    (held.safety.map fun word => [Token.ident word]).getD [] ++
    linkageTokens held.linkage ++ [.word "fn", .ident held.name] ++ held.generics.tokens

def backRow (output : Option Ty) (clause : Option WhereClause) : Tokens :=
  returnTokens output ++ clauseRow clause

theorem withCommas_close (comma : Bool) (rows : List Tokens) :
    withCommas comma rows ++ (if rows.isEmpty || comma then [] else [.punct ',' false]) =
      withCommas true rows := by
  cases comma <;> cases rows <;> simp [withCommas]

theorem signature_tokens (held : Signature) :
    held.tokens = frontRow held ++ .paren (inputsRow held.inputs held.comma held.variadic) ::
      backRow held.output held.generics.clause := by
  obtain ⟨isConst, isAsync, safety, linkage, name, generics, inputs, comma, variadic, output⟩ :=
    held
  cases variadic with
  | none =>
    simp [Signature.tokens, frontRow, inputsRow, variadicRow, backRow, clauseRow,
      Generics.clauseTokens]
  | some held =>
    have close := withCommas_close comma (inputs.map Input.tokens)
    rw [List.isEmpty_map] at close
    simp [Signature.tokens, frontRow, inputsRow, variadicRow, backRow, clauseRow,
      Generics.clauseTokens, ← close]

/-- Parentheses stand behind. -/
def OpensParen (rest : Tokens) : Prop := ∃ inner more, rest = .paren inner :: more

/-- A body or a semicolon stands behind. -/
inductive EndsSignature : Tokens → Prop
  | body (inner more : Tokens) : EndsSignature (.brace inner :: more)
  | nothing (more : Tokens) : EndsSignature (.punct ';' false :: more)

/-- The parts of a signature are read again: what stands around its parentheses, each input, and the
variadic end. -/
structure ReadsSignature (g : Grammar) (held : Signature) : Prop where
  front : Reads (signatureFront g) (frontRow held) OpensParen
    fun found => frontRow found = frontRow held
  inputs : ∀ input ∈ held.inputs, ReadsInput g input
  variadic : ∀ end?, held.variadic = some end? → ReadsVariadic g end?
  back : Reads (signatureBack g) (backRow held.output held.generics.clause) EndsSignature
    fun found => backRow found.1 found.2 = backRow held.output held.generics.clause

theorem reads_signature {held : Signature} (reads : ReadsSignature g held)
    (holds : HoldsInputs true held.inputs) :
    Reads (signature g false) held.tokens EndsSignature fun found =>
      found.1.tokens = held.tokens ∧ List.Forall₂ InputAgain found.1.inputs held.inputs := by
  intro rest left ends
  obtain ⟨found, ranFront, sameFront⟩ := reads.front
    (.paren (inputsRow held.inputs held.comma held.variadic) ::
      (backRow held.output held.generics.clause ++ rest)) left ⟨_, _, rfl⟩
  obtain ⟨words, _, _, ranWords, ranFront⟩ := bind_ok_iff.mp ranFront
  obtain ⟨_, _, _, ranWord, ranFront⟩ := bind_ok_iff.mp ranFront
  obtain ⟨name, _, _, ranName, ranFront⟩ := bind_ok_iff.mp ranFront
  obtain ⟨generics, _, _, ranGenerics, ended⟩ := bind_ok_iff.mp ranFront
  cases ended
  obtain ⟨again, flag, variadic, ranInputs, sameInputs, isTrue, row⟩ :=
    reads_inputs reads.inputs reads.variadic holds (fun _ => rfl) held.comma left
      (Nat.lt_succ_self _)
  obtain ⟨back, ranBack, sameBack⟩ := reads.back rest left ends
  obtain ⟨output, _, _, ranOutput, ranBack⟩ := bind_ok_iff.mp ranBack
  obtain ⟨clause, _, _, ranClause, ended⟩ := bind_ok_iff.mp ranBack
  cases ended
  refine ⟨(⟨words.isConst, words.isAsync, words.safety, words.linkage, name,
    { generics with clause }, again, flag && !again.isEmpty, variadic, output⟩, words.isSafe),
    ?_, ?_, sameInputs⟩
  · rw [signature_tokens, List.append_assoc, List.cons_append]
    refine bind_ok_iff.mpr ⟨_, _, _, ranWords, ?_⟩
    refine bind_ok_iff.mpr ⟨_, _, _, ranWord, ?_⟩
    refine bind_ok_iff.mpr ⟨_, _, _, ranName, ?_⟩
    refine bind_ok_iff.mpr ⟨_, _, _, ranGenerics, ?_⟩
    have ranGroup : group .paren (do inputsFor g true false ((← get).length + 1))
        (.paren (inputsRow held.inputs held.comma held.variadic) ::
          (backRow held.output held.generics.clause ++ rest)) left =
        .ok (((again, flag, variadic), backRow held.output held.generics.clause ++ rest),
          left) := by
      rw [Token.paren, run_group, run_step (run_get _ _), ranInputs]
      rfl
    refine bind_ok_iff.mpr ⟨_, _, _, ranGroup, ?_⟩
    refine bind_ok_iff.mpr ⟨_, _, _, ranOutput, ?_⟩
    exact bind_ok_iff.mpr ⟨_, _, _, ranClause, rfl⟩
  · rw [signature_tokens, signature_tokens held, ← sameFront, inputsRow_comma, row, ← sameBack]
    rfl

end Grammar

end Endpoint.Source
