import Endpoint.Lowering.Method
import Endpoint.Proofs.Outcome

/-!
The typed parameters of a method as a list. They are bound one by one, up to the first that does not
go with those before it.
-/

namespace Endpoint.Lowering

open Source (Attributes Ident Input Pattern Ty)

/-- A parameter with its type, as it is declared. -/
structure Parameter where
  attributes : Attributes
  pattern : Pattern
  ty : Ty

/-- The parameter that an input is, unless it is the receiver. -/
def parameter? : Input → Option Parameter
  | .typed attributes pattern ty => some ⟨attributes, pattern, ty⟩
  | .receiver _ => none

/-- The typed parameters among inputs, in order. -/
def parametersOf (inputs : List Input) : List Parameter := inputs.filterMap parameter?

namespace Parameter

/-- The parameter is a plain identifier: no `ref` stands in front of it and no pattern behind it. -/
def IsNamed (declared : Parameter) (name : Ident) : Prop :=
  ∃ isMutable, declared.pattern = .ident false isMutable name none

/-- The parameter carries the marker of the body. -/
def IsMarked (imports : Imports) (declared : Parameter) : Prop :=
  ∃ held ∈ declared.attributes, helper imports held = .marker .body

/-- The parameter carries the marker of the body and names no placeholder. -/
def IsBody (imports : Imports) (placeholders : List String) (declared : Parameter) (name : Ident) :
    Prop :=
  declared.IsNamed name ∧ name.text ∉ placeholders ∧ declared.IsMarked imports

/-- The input that the parameter was declared as. -/
def toInput (declared : Parameter) : Input :=
  .typed declared.attributes declared.pattern declared.ty

theorem plainName?_eq_some_iff {declared : Parameter} {name : Ident} :
    plainName? declared.pattern = some name ↔ declared.IsNamed name := by
  unfold IsNamed plainName?
  split
  · rename_i isMutable found shape
    rw [shape]
    simp [eq_comm]
  · rename_i other
    refine iff_of_false (by simp) ?_
    rintro ⟨isMutable, shape⟩
    exact other isMutable name shape

theorem IsNamed.unique {declared : Parameter} {first second : Ident} (one : declared.IsNamed first)
    (two : declared.IsNamed second) : first = second := by
  rw [← plainName?_eq_some_iff] at one two
  exact Option.some.inj (one.symm.trans two)

theorem any_isHelper_iff {imports : Imports} {declared : Parameter} :
    declared.attributes.any (isHelper imports .body) = true ↔ declared.IsMarked imports := by
  simp [IsMarked, isHelper]

end Parameter

/-! ### Parameters that go together -/

/-- Parameters that can be bound: all are plain identifiers, none that names a placeholder carries
the marker of the body, and at most one of the others does. -/
structure Sound (imports : Imports) (placeholders : List String) (parameters : List Parameter) :
    Prop where
  named : ∀ declared ∈ parameters, ∃ name, declared.IsNamed name
  apart : ∀ declared ∈ parameters, ∀ name, declared.IsNamed name → name.text ∈ placeholders →
    ¬declared.IsMarked imports
  single : parameters.Pairwise fun first second => ∀ name other,
    first.IsBody imports placeholders name → ¬second.IsBody imports placeholders other

/-- What is wrong with a parameter behind others that can be bound. -/
inductive ParameterFault (imports : Imports) (placeholders : List String)
    (before : List Parameter) (declared : Parameter) : Problem → Prop
  | pattern (unnamed : ∀ name, ¬declared.IsNamed name) :
      ParameterFault imports placeholders before declared
        (.unsupportedParameter (Source.Token.listText declared.pattern.tokens))
  | conflict (name : Ident) (named : declared.IsNamed name) (taken : name.text ∈ placeholders)
      (marked : declared.IsMarked imports) :
      ParameterFault imports placeholders before declared (.conflictingRoles name.text)
  | repeated (earlier : Parameter) (first name : Ident) (inside : earlier ∈ before)
      (one : earlier.IsBody imports placeholders first)
      (two : declared.IsBody imports placeholders name) :
      ParameterFault imports placeholders before declared (.duplicateBody first.text name.text)

variable {imports : Imports} {placeholders : List String}

theorem Sound.nil (imports : Imports) (placeholders : List String) :
    Sound imports placeholders [] := ⟨by simp, by simp, .nil⟩

/-- Parameters in front of others that can be bound can be bound. -/
theorem Sound.left {before behind : List Parameter}
    (sound : Sound imports placeholders (before ++ behind)) : Sound imports placeholders before :=
  ⟨fun declared inside => sound.named declared (List.mem_append_left _ inside),
    fun declared inside => sound.apart declared (List.mem_append_left _ inside),
    (List.pairwise_append.mp sound.single).1⟩

/-- Behind parameters that can be bound, one more can be bound too or is faulty. -/
theorem Sound.concat_or_fault {done : List Parameter} (sound : Sound imports placeholders done)
    (declared : Parameter) : Sound imports placeholders (done ++ [declared]) ∨
      ∃ problem, ParameterFault imports placeholders done declared problem := by
  by_cases named : ∃ name, declared.IsNamed name
  · obtain ⟨name, named⟩ := named
    by_cases conflict : name.text ∈ placeholders ∧ declared.IsMarked imports
    · exact .inr ⟨_, .conflict name named conflict.1 conflict.2⟩
    by_cases again : ∃ earlier ∈ done, ∃ first other,
        earlier.IsBody imports placeholders first ∧ declared.IsBody imports placeholders other
    · obtain ⟨earlier, inside, first, other, one, two⟩ := again
      exact .inr ⟨_, .repeated earlier first other inside one two⟩
    refine .inl ⟨?_, ?_, List.pairwise_append.mpr ⟨sound.single, List.pairwise_singleton .., ?_⟩⟩
    · intro member inside
      rcases List.mem_append.mp inside with before | last
      · exact sound.named member before
      · exact List.mem_singleton.mp last ▸ ⟨name, named⟩
    · intro member inside
      rcases List.mem_append.mp inside with before | last
      · exact sound.apart member before
      · rw [List.mem_singleton.mp last]
        intro other called taken marked
        exact conflict ⟨named.unique called ▸ taken, marked⟩
    · intro earlier inside member last first other one two
      rw [List.mem_singleton.mp last] at two
      exact again ⟨earlier, inside, first, other, one, two⟩
  · exact .inr ⟨_, .pattern (not_exists.mp named)⟩

/-- All parameters can be bound, or there is a first one that is faulty. -/
theorem sound_or_fault (imports : Imports) (placeholders : List String)
    (parameters : List Parameter) :
    Sound imports placeholders parameters ∨ ∃ before declared behind problem,
      parameters = before ++ declared :: behind ∧ Sound imports placeholders before ∧
        ParameterFault imports placeholders before declared problem := by
  rcases sound_or_first (fun done declared sound => sound.concat_or_fault declared) parameters
    (Sound.nil imports placeholders) with
    sound | ⟨before, declared, behind, split, early, problem, fault⟩
  · exact .inl sound
  · exact .inr ⟨before, declared, behind, problem, split, early, fault⟩

/-! ### Binding -/

/-- The name of a parameter that is the body. -/
def body? (imports : Imports) (placeholders : List String) (declared : Parameter) : Option Ident :=
  (plainName? declared.pattern).filter fun name =>
    !placeholders.contains name.text && declared.attributes.any (isHelper imports .body)

/-- The text of the name of the first body among parameters. -/
def bodyText? (imports : Imports) (placeholders : List String) (done : List Parameter) :
    Option String :=
  (done.findSome? (body? imports placeholders)).map Ident.text

theorem body?_eq_some_iff {declared : Parameter} {name : Ident} :
    body? imports placeholders declared = some name ↔
      declared.IsBody imports placeholders name := by
  simp only [body?, Option.filter_eq_some_iff, Bool.and_eq_true, Bool.not_eq_true',
    List.contains_eq_mem, decide_eq_false_iff_not, Parameter.plainName?_eq_some_iff,
    Parameter.any_isHelper_iff, Parameter.IsBody]

theorem bodyText?_concat (done : List Parameter) (declared : Parameter) :
    bodyText? imports placeholders (done ++ [declared]) =
      (bodyText? imports placeholders done).or
        ((body? imports placeholders declared).map Ident.text) := by
  rw [bodyText?, bodyText?, List.findSome?_append, List.findSome?_singleton, Option.map_or]

/-- The only body among parameters that can be bound is the first. -/
theorem Sound.bodyText?_eq {done : List Parameter} (sound : Sound imports placeholders done)
    {earlier : Parameter} {first : Ident} (inside : earlier ∈ done)
    (body : earlier.IsBody imports placeholders first) :
    bodyText? imports placeholders done = some first.text := by
  obtain ⟨front, back, rfl⟩ := List.append_of_mem inside
  have found : (front ++ earlier :: back).findSome? (body? imports placeholders) = some first := by
    refine List.findSome?_eq_some_iff.mpr
      ⟨front, earlier, back, rfl, body?_eq_some_iff.mpr body, fun other before => ?_⟩
    refine Option.eq_none_iff_forall_ne_some.mpr fun name also => ?_
    exact (List.pairwise_append.mp sound.single).2.2 other before earlier (by simp) name first
      (body?_eq_some_iff.mp also) body
  rw [bodyText?, found, Option.map_some]

/-- Behind another body, a parameter that can be bound is none. -/
theorem Sound.bodyText?_eq_none {done : List Parameter} {declared : Parameter} {name : Ident}
    (sound : Sound imports placeholders (done ++ [declared]))
    (body : declared.IsBody imports placeholders name) :
    bodyText? imports placeholders done = none := by
  rw [bodyText?, Option.map_eq_none_iff, List.findSome?_eq_none_iff]
  intro earlier inside
  refine Option.eq_none_iff_forall_ne_some.mpr fun first also => ?_
  exact (List.pairwise_append.mp sound.single).2.2 earlier inside declared (by simp) first name
    (body?_eq_some_iff.mp also) body

/-- What a plain parameter is bound as. -/
def binding? (imports : Imports) (symbols : Symbols) (placeholders : List String)
    (declared : Parameter) : Option Binding :=
  (plainName? declared.pattern).map fun name =>
    ⟨name, roleOf imports symbols placeholders
      (declared.attributes.any (isHelper imports .body)) name.text declared.ty⟩

variable {symbols : Symbols}

/-- Receivers are passed over. -/
theorem bindingsOf_eq (body : Option String) (inputs : List Input) :
    bindingsOf imports symbols placeholders body inputs =
      bindingsOf imports symbols placeholders body
        ((parametersOf inputs).map Parameter.toInput) := by
  induction inputs generalizing body with
  | nil => rfl
  | cons input rest ih =>
    cases input with
    | receiver _ => exact ih body
    | typed attributes pattern ty =>
      simp only [parametersOf, parameter?, List.filterMap_cons, List.map_cons, Parameter.toInput,
        bindingsOf]
      simp only [ih, parametersOf]

/-- A parameter behind others is bound, and those behind it after that. -/
theorem bindingsOf_step {done : List Parameter} {declared : Parameter}
    (sound : Sound imports placeholders (done ++ [declared])) (rest : List Input) :
    bindingsOf imports symbols placeholders (bodyText? imports placeholders done)
        (declared.toInput :: rest) =
      (bindingsOf imports symbols placeholders
        (bodyText? imports placeholders (done ++ [declared])) rest).map
          ((binding? imports symbols placeholders declared).toList ++ ·) := by
  obtain ⟨name, named⟩ := sound.named declared (by simp)
  have plain := Parameter.plainName?_eq_some_iff.mpr named
  have apart : placeholders.contains name.text = true →
      ¬declared.attributes.any (isHelper imports .body) = true := by
    rw [Parameter.any_isHelper_iff, List.contains_iff_mem]
    exact sound.apart declared (by simp) name named
  rw [bodyText?_concat, Parameter.toInput, bindingsOf, binding?, plain]
  cases marked : declared.attributes.any (isHelper imports .body) with
  | false =>
    have unmarked : body? imports placeholders declared = none := by simp [body?, plain, marked]
    rw [unmarked, Option.map_none, Option.or_none]
    cases bodyText? imports placeholders done <;> simp [pure, Except.pure, bind_ok_eq_map]
  | true =>
    have free : name.text ∉ placeholders := fun taken => apart (by simpa using taken) marked
    have body : declared.IsBody imports placeholders name :=
      ⟨named, free, Parameter.any_isHelper_iff.mp marked⟩
    rw [sound.bodyText?_eq_none body, body?_eq_some_iff.mpr body, Option.none_or]
    simp [free, pure, Except.pure, bind_ok_eq_map]

/-- Parameters that can be bound are, in front of any others. -/
theorem bindingsOf_append (symbols : Symbols) (done before : List Parameter)
    (sound : Sound imports placeholders (done ++ before)) (rest : List Input) :
    bindingsOf imports symbols placeholders (bodyText? imports placeholders done)
        (before.map Parameter.toInput ++ rest) =
      (bindingsOf imports symbols placeholders
        (bodyText? imports placeholders (done ++ before)) rest).map
          (before.filterMap (binding? imports symbols placeholders) ++ ·) := by
  induction before generalizing done with
  | nil =>
    rw [List.append_nil, List.map_nil, List.nil_append]
    cases bindingsOf imports symbols placeholders (bodyText? imports placeholders done) rest <;> rfl
  | cons declared before ih =>
    rw [List.append_cons] at sound ⊢
    rw [List.map_cons, List.cons_append, bindingsOf_step sound.left, ih _ sound, map_map_except]
    congr 1
    funext bindings
    cases bound : binding? imports symbols placeholders declared <;> simp [bound]

/-- The first faulty parameter gives its problem. -/
theorem bindingsOf_fault {before : List Parameter} {declared : Parameter} {problem : Problem}
    (sound : Sound imports placeholders before)
    (fault : ParameterFault imports placeholders before declared problem) (rest : List Input) :
    bindingsOf imports symbols placeholders (bodyText? imports placeholders before)
      (declared.toInput :: rest) = .error problem := by
  rw [Parameter.toInput, bindingsOf]
  rcases fault with unnamed | ⟨name, named, taken, marked⟩ |
    ⟨earlier, first, name, inside, one, two⟩
  · have none : plainName? declared.pattern = none :=
      Option.eq_none_iff_forall_ne_some.mpr fun name plain =>
        unnamed name (Parameter.plainName?_eq_some_iff.mp plain)
    rw [none]
  · rw [Parameter.plainName?_eq_some_iff.mpr named]
    simp [taken, Parameter.any_isHelper_iff.mpr marked]
  · obtain ⟨named, free, marked⟩ := two
    rw [Parameter.plainName?_eq_some_iff.mpr named, sound.bodyText?_eq inside one]
    simp [free, Parameter.any_isHelper_iff.mpr marked]

/-- Inputs are bound exactly if their parameters can be, each as it is by itself; otherwise the
first faulty one gives its problem. -/
theorem bindingsOf_exact (imports : Imports) (symbols : Symbols) (placeholders : List String)
    (inputs : List Input) :
    Exactly (bindingsOf imports symbols placeholders none inputs)
      (fun bindings => Sound imports placeholders (parametersOf inputs) ∧
        bindings = (parametersOf inputs).filterMap (binding? imports symbols placeholders))
      (fun problem => ∃ before declared behind,
        parametersOf inputs = before ++ declared :: behind ∧ Sound imports placeholders before ∧
          ParameterFault imports placeholders before declared problem) := by
  rw [bindingsOf_eq]
  have start : (none : Option String) = bodyText? imports placeholders [] := rfl
  refine .of_cases ?passes ?breaks ?either
  case passes =>
    rintro _ ⟨sound, rfl⟩
    have bound := bindingsOf_append symbols [] (parametersOf inputs) sound []
    rw [List.append_nil] at bound
    rw [start, bound]
    simp [bindingsOf, Except.map]
  case breaks =>
    rintro problem ⟨before, declared, behind, split, sound, fault⟩
    have bound := bindingsOf_append symbols [] before sound
      (declared.toInput :: behind.map Parameter.toInput)
    rw [List.nil_append, bindingsOf_fault sound fault] at bound
    rw [split, List.map_append, List.map_cons, start, bound]
    rfl
  case either =>
    rcases sound_or_fault imports placeholders (parametersOf inputs) with
      sound | ⟨before, declared, behind, problem, split, sound, fault⟩
    · exact .inl ⟨_, sound, rfl⟩
    · exact .inr ⟨problem, before, declared, behind, split, sound, fault⟩

end Endpoint.Lowering
