import Endpoint.Proofs.Expansion
import Endpoint.Proofs.Lowering.Client
import Endpoint.Proofs.Lowering.Parameters

/-!
Which methods are understood as calls, and why the others are not. Main statement: a method is
understood exactly if its attributes, receiver, parameters and return type are in order, and
otherwise its problem is that of the first of them that is not.
-/

namespace Endpoint.Source

namespace Parser

theorem stringLiteral_cons (token : Token) (rest : Tokens) (left : Option Delimiter) :
    stringLiteral (token :: rest) left =
      match token.stringValue? with
      | some value => .ok (((token, value), rest), left)
      | none => .error (.expected ["string literal"] false) := by
  change (match token.stringValue? with
    | some value => do set rest; return (token, value)
    | none => failExpecting ["string literal"] : Parser (Token × String)) _ left = _
  cases token.stringValue? <;> rfl

/-- A string literal is all that there is in tokens exactly if it is the only one of them. -/
theorem whole_stringLiteral_eq_ok {tokens : Tokens} {token : Token} {text : String} :
    whole stringLiteral tokens = .ok (token, text) ↔
      tokens = [token] ∧ token.stringValue? = some text := by
  unfold whole
  cases tokens with
  | nil =>
    refine iff_of_false ?_ (by simp)
    rintro ⟨⟩
  | cons first rest =>
    rw [stringLiteral_cons]
    cases value : first.stringValue? with
    | none =>
      refine iff_of_false (by simp) ?_
      rintro ⟨same, found⟩
      cases same
      simp [value] at found
    | some found =>
      cases rest with
      | nil =>
        simp only [Except.ok.injEq, Prod.mk.injEq, List.cons.injEq, and_true]
        refine and_congr_right ?_
        rintro rfl
        rw [value, Option.some.injEq]
      | cons second more => simp

end Parser

/-- The only argument of the attribute is a string literal with the text. -/
def Attribute.HasArgument (held : Attribute) (text : String) : Prop :=
  ∃ delimiter token, held.content = .list delimiter [token] ∧ token.stringValue? = some text

theorem Attribute.stringArgument?_eq_some_iff {held : Attribute} {text : String} :
    held.stringArgument? = some text ↔ held.HasArgument text := by
  unfold stringArgument? parseArguments HasArgument
  cases content : held.content with
  | none => simp
  | value _ => simp
  | list delimiter inner =>
    have taken : (∃ token, Parser.whole Parser.stringLiteral inner = .ok (token, text)) ↔
        ∃ delimiter' token, AttributeContent.list delimiter inner = .list delimiter' [token] ∧
          token.stringValue? = some text := by
      constructor
      · rintro ⟨token, whole⟩
        obtain ⟨rfl, value⟩ := Parser.whole_stringLiteral_eq_ok.mp whole
        exact ⟨delimiter, token, rfl, value⟩
      · rintro ⟨_, token, same, value⟩
        cases same
        exact ⟨token, Parser.whole_stringLiteral_eq_ok.mpr ⟨rfl, value⟩⟩
    rw [← taken]
    cases whole : Parser.whole Parser.stringLiteral inner with
    | error fault => simp [whole]
    | ok found => simp [whole, Prod.ext_iff]

end Endpoint.Source

namespace Endpoint.Lowering

open Source (Attribute Attributes Ident Input Method)

/-! ### The call -/

/-- The verb that an attribute marks a method with. -/
def verbOf? (imports : Imports) (held : Attribute) : Option Verb :=
  match helper imports held with
  | .marker (.verb verb) => some verb
  | _ => none

/-- One attribute marks the method with the verb, and no other with any. -/
def OneVerb (imports : Imports) (attributes : Attributes) (held : Attribute) (verb : Verb) : Prop :=
  ∃ before behind, attributes = before ++ held :: behind ∧ verbOf? imports held = some verb ∧
    ∀ other ∈ before ++ behind, verbOf? imports other = none

/-- The attribute resolves to a path outside of the vocabulary that ends in the name of a verb. -/
def IsForeign (imports : Imports) (held : Attribute) (path : String) : Prop :=
  ∃ resolved verb, imports.resolve held.path = some resolved ∧
    Marker.ofPath? resolved = none ∧ resolved.getLast? = some (Marker.verb verb).name ∧
    path = "::".intercalate resolved

/-- The attributes tell the verb and the route of a call. -/
def Calls (imports : Imports) (attributes : Attributes) (verb : Verb) (route : Route) : Prop :=
  ∃ held text, OneVerb imports attributes held verb ∧ held.HasArgument text ∧
    Route.read text = .ok route

/-- Why attributes do not tell a call: none is a verb, several are, the argument is no string
literal, or its text is no template. -/
inductive CallFault (imports : Imports) (attributes : Attributes) : Problem → Prop
  | foreign (before : Attributes) (held : Attribute) (behind : Attributes) (path : String)
      (unmarked : ∀ held ∈ attributes, verbOf? imports held = none)
      (split : attributes = before ++ held :: behind) (leads : IsForeign imports held path)
      (early : ∀ other ∈ before, ∀ path, ¬IsForeign imports other path) :
      CallFault imports attributes (.foreignMarker path)
  | missing (unmarked : ∀ held ∈ attributes, verbOf? imports held = none)
      (own : ∀ held ∈ attributes, ∀ path, ¬IsForeign imports held path) :
      CallFault imports attributes .missingVerb
  | several (many : 2 ≤ (attributes.filterMap (verbOf? imports)).length) :
      CallFault imports attributes
        (.duplicateVerb (", ".intercalate ((attributes.filterMap (verbOf? imports)).map Verb.text)))
  | argument (held : Attribute) (verb : Verb) (one : OneVerb imports attributes held verb)
      (other : ∀ text, ¬held.HasArgument text) :
      CallFault imports attributes (.invalidRouteArgument (Marker.verb verb).name)
  | template (held : Attribute) (verb : Verb) (text : String) (fault : Route.Fault)
      (one : OneVerb imports attributes held verb) (argument : held.HasArgument text)
      (refused : Route.read text = .error fault) :
      CallFault imports attributes (.malformedRoute text fault.message)

theorem verbMarkers_eq (imports : Imports) (attributes : Attributes) :
    verbMarkers imports attributes =
      attributes.filterMap fun held => (verbOf? imports held).map fun verb => (verb, held) := by
  unfold verbMarkers verbOf?
  congr 1
  funext held
  split <;> simp_all

theorem verbMarkers_eq_nil_iff {imports : Imports} {attributes : Attributes} :
    verbMarkers imports attributes = [] ↔ ∀ held ∈ attributes, verbOf? imports held = none := by
  simp [verbMarkers_eq]

theorem verbMarkers_eq_singleton_iff {imports : Imports} {attributes : Attributes}
    {held : Attribute} {verb : Verb} :
    verbMarkers imports attributes = [(verb, held)] ↔ OneVerb imports attributes held verb := by
  rw [verbMarkers_eq, List.filterMap_eq_cons_iff]
  constructor
  · rintro ⟨before, found, behind, split, early, marked, late⟩
    obtain ⟨verb', marked, same⟩ := Option.map_eq_some_iff.mp marked
    cases same
    refine ⟨before, behind, split, marked, fun other member => ?_⟩
    rcases List.mem_append.mp member with front | back
    · simpa using early other front
    · simpa using List.filterMap_eq_nil_iff.mp late other back
  · rintro ⟨before, behind, split, marked, others⟩
    refine ⟨before, held, behind, split, fun other front => ?_, by simp [marked], ?_⟩
    · simp [others other (List.mem_append_left _ front)]
    · refine List.filterMap_eq_nil_iff.mpr fun other back => ?_
      simp [others other (List.mem_append_right _ back)]

theorem verbMarkers_map_fst (imports : Imports) (attributes : Attributes) :
    (verbMarkers imports attributes).map (·.1) = attributes.filterMap (verbOf? imports) := by
  rw [verbMarkers_eq, List.map_filterMap]
  simp [Option.map_map, Function.comp_def]

/-- The path of an attribute of another crate that is named like a verb. -/
def foreignPath? (imports : Imports) (held : Attribute) : Option String :=
  match helper imports held with
  | .foreign (.verb _) path => some path
  | _ => none

theorem foreignPath?_eq_some_iff {imports : Imports} {held : Attribute} {path : String} :
    foreignPath? imports held = some path ↔ IsForeign imports held path := by
  have helps (verb : Verb) : helperOnly (some (.verb verb)) = some (.verb verb) := rfl
  constructor
  · intro found
    unfold foreignPath? at found
    split at found
    · rename_i verb other shape
      cases found
      unfold helper at shape
      split at shape
      · rename_i resolved leads
        split at shape
        · split at shape <;> cases shape
        · rename_i outside
          split at shape
          · rename_i marker named
            cases shape
            obtain ⟨last, _⟩ := Option.filter_eq_some_iff.mp named
            obtain ⟨name, ends, called⟩ := Option.bind_eq_some_iff.mp last
            rw [Marker.ofName?_eq_some_iff.mp called] at ends
            exact ⟨resolved, verb, leads, outside, ends, rfl⟩
          · cases shape
      · split at shape <;> cases shape
    · cases found
  · rintro ⟨resolved, verb, leads, outside, ends, rfl⟩
    simp [foreignPath?, helper, leads, outside, ends, Marker.ofName?_name, helps]

theorem foreignPath?_eq_none_iff {imports : Imports} {held : Attribute} :
    foreignPath? imports held = none ↔ ∀ path, ¬IsForeign imports held path := by
  simp only [Option.eq_none_iff_forall_ne_some, ne_eq, foreignPath?_eq_some_iff]

theorem foreignVerb?_eq (imports : Imports) (attributes : Attributes) :
    foreignVerb? imports attributes = attributes.findSome? (foreignPath? imports) := rfl

theorem foreignVerb?_eq_some_iff {imports : Imports} {attributes : Attributes} {path : String} :
    foreignVerb? imports attributes = some path ↔ ∃ before held behind,
      attributes = before ++ held :: behind ∧ IsForeign imports held path ∧
        ∀ other ∈ before, ∀ path, ¬IsForeign imports other path := by
  simp only [foreignVerb?_eq, List.findSome?_eq_some_iff, foreignPath?_eq_some_iff,
    foreignPath?_eq_none_iff]

theorem foreignVerb?_eq_none_iff {imports : Imports} {attributes : Attributes} :
    foreignVerb? imports attributes = none ↔
      ∀ held ∈ attributes, ∀ path, ¬IsForeign imports held path := by
  simp only [foreignVerb?_eq, List.findSome?_eq_none_iff, foreignPath?_eq_none_iff]

/-- The verb and route of attributes are exactly those of the call that they tell. -/
theorem verbAndRoute_exact (imports : Imports) (attributes : Attributes) :
    Exactly (verbAndRoute imports attributes)
      (fun call => Calls imports attributes call.1 call.2) (CallFault imports attributes) := by
  refine .of_cases ?passes ?breaks ?either
  case passes =>
    rintro ⟨verb, route⟩ ⟨held, text, one, argument, read⟩
    simp only [verbAndRoute, verbMarkers_eq_singleton_iff.mpr one,
      Source.Attribute.stringArgument?_eq_some_iff.mpr argument, read]
  case breaks =>
    rintro _ (⟨before, held, behind, path, unmarked, split, leads, early⟩ | ⟨unmarked, own⟩ | many |
      ⟨held, verb, one, other⟩ | ⟨held, verb, text, fault, one, argument, refused⟩)
    · simp only [verbAndRoute, verbMarkers_eq_nil_iff.mpr unmarked,
        foreignVerb?_eq_some_iff.mpr ⟨before, held, behind, split, leads, early⟩]
    · simp only [verbAndRoute, verbMarkers_eq_nil_iff.mpr unmarked,
        foreignVerb?_eq_none_iff.mpr own]
    · rw [← verbMarkers_map_fst] at many ⊢
      rw [List.length_map] at many
      rw [List.map_map]
      unfold verbAndRoute
      match markers : verbMarkers imports attributes with
      | [] => simp [markers] at many
      | [_] => simp [markers] at many
      | _ :: _ :: _ => rfl
    · have none : held.stringArgument? = none :=
        Option.eq_none_iff_forall_ne_some.mpr fun text found =>
          other text (Source.Attribute.stringArgument?_eq_some_iff.mp found)
      simp only [verbAndRoute, verbMarkers_eq_singleton_iff.mpr one, none]
    · simp only [verbAndRoute, verbMarkers_eq_singleton_iff.mpr one,
        Source.Attribute.stringArgument?_eq_some_iff.mpr argument, refused]
  case either =>
    match markers : verbMarkers imports attributes with
    | [] =>
      have unmarked := verbMarkers_eq_nil_iff.mp markers
      cases astray : foreignVerb? imports attributes with
      | none => exact .inr ⟨_, .missing unmarked (foreignVerb?_eq_none_iff.mp astray)⟩
      | some path =>
        obtain ⟨before, held, behind, split, leads, early⟩ := foreignVerb?_eq_some_iff.mp astray
        exact .inr ⟨_, .foreign before held behind path unmarked split leads early⟩
    | [(verb, held)] =>
      have one := verbMarkers_eq_singleton_iff.mp markers
      by_cases given : ∃ text, held.HasArgument text
      · obtain ⟨text, argument⟩ := given
        cases read : Route.read text with
        | ok route => exact .inl ⟨(verb, route), held, text, one, argument, read⟩
        | error fault => exact .inr ⟨_, .template held verb text fault one argument read⟩
      · exact .inr ⟨_, .argument held verb one (not_exists.mp given)⟩
    | _ :: _ :: _ =>
      refine .inr ⟨_, .several ?_⟩
      rw [← verbMarkers_map_fst, markers]
      simp

/-! ### Methods -/

/-- A method that is understood as a call with the route. -/
structure Acceptable (imports : Imports) (declared : Method) (verb : Verb) (route : Route) :
    Prop where
  call : Calls imports declared.attributes verb route
  receiver : ∃ taken rest, declared.signature.inputs = .receiver taken :: rest
  parameters : Sound imports route.placeholders (parametersOf declared.signature.inputs)
  returns : ∃ returns, classify imports declared.signature = .ok returns

/-- The first thing that keeps a method from being understood. The parameters are looked at
together, from left to right. -/
inductive MethodFault (imports : Imports) (declared : Method) : Problem → Prop
  | call {problem : Problem} (fault : CallFault imports declared.attributes problem) :
      MethodFault imports declared problem
  | receiver (verb : Verb) (route : Route) (call : Calls imports declared.attributes verb route)
      (lost : ∀ taken rest, declared.signature.inputs ≠ .receiver taken :: rest) :
      MethodFault imports declared .missingReceiver
  | parameter (verb : Verb) (route : Route) (before : List Parameter) (odd : Parameter)
      (behind : List Parameter) {problem : Problem}
      (call : Calls imports declared.attributes verb route)
      (receiver : ∃ taken rest, declared.signature.inputs = .receiver taken :: rest)
      (split : parametersOf declared.signature.inputs = before ++ odd :: behind)
      (early : Sound imports route.placeholders before)
      (fault : ParameterFault imports route.placeholders before odd problem) :
      MethodFault imports declared problem
  | returns (verb : Verb) (route : Route) (fault : ReturnFault)
      (call : Calls imports declared.attributes verb route)
      (receiver : ∃ taken rest, declared.signature.inputs = .receiver taken :: rest)
      (parameters : Sound imports route.placeholders (parametersOf declared.signature.inputs))
      (refused : classify imports declared.signature = .error fault) :
      MethodFault imports declared (.illDefinedReturn fault.message)

theorem receiver?_eq_some_iff {signature : Source.Signature} {taken : Source.Receiver} :
    signature.receiver? = some taken ↔ ∃ rest, signature.inputs = .receiver taken :: rest := by
  unfold Source.Signature.receiver?
  split
  · rename_i found rest shape
    simp [shape]
  · rename_i other
    refine iff_of_false (by simp) ?_
    rintro ⟨rest, shape⟩
    exact other taken rest shape

variable {imports : Imports} {declared : Method} {verb : Verb} {route : Route}

theorem Acceptable.understood (fit : Acceptable imports declared verb route) (symbols : Symbols) :
    ∃ definition, method imports symbols declared = .ok definition := by
  obtain ⟨returns, classified⟩ := fit.returns
  obtain ⟨taken, rest, first⟩ := fit.receiver
  have call := ((verbAndRoute_exact imports declared.attributes).ok (verb, route)).mpr fit.call
  have receiver := Option.isSome_of_eq_some (receiver?_eq_some_iff.mpr ⟨rest, first⟩)
  have bound := ((bindingsOf_exact imports symbols route.placeholders
    declared.signature.inputs).ok _).mpr ⟨fit.parameters, rfl⟩
  exact ⟨_, method_of_parts call receiver bound classified⟩

theorem MethodFault.stops {problem : Problem} (fault : MethodFault imports declared problem)
    (symbols : Symbols) : method imports symbols declared = .error problem := by
  have calls := verbAndRoute_exact imports declared.attributes
  have binds (route : Route) := bindingsOf_exact imports symbols route.placeholders
    declared.signature.inputs
  rcases fault with fault | ⟨verb, route, call, lost⟩ |
    ⟨verb, route, before, odd, behind, call, ⟨taken, rest, first⟩, split, early, fault⟩ |
    ⟨verb, route, fault, call, ⟨taken, rest, first⟩, parameters, refused⟩
  · simp [method, (calls.error problem).mpr fault, bind, Except.bind]
  · have untaken : declared.signature.receiver? = none := by
      refine Option.eq_none_iff_forall_ne_some.mpr fun taken held => ?_
      obtain ⟨rest, first⟩ := receiver?_eq_some_iff.mp held
      exact lost taken rest first
    simp [method, (calls.ok (verb, route)).mpr call, untaken, bind, Except.bind, throw, throwThe,
      MonadExceptOf.throw]
  · have unbound := ((binds route).error problem).mpr ⟨before, odd, behind, split, early, fault⟩
    simp [method, (calls.ok (verb, route)).mpr call, receiver?_eq_some_iff.mpr ⟨rest, first⟩,
      unbound, bind, Except.bind]
  · have bound := ((binds route).ok _).mpr ⟨parameters, rfl⟩
    simp [method, (calls.ok (verb, route)).mpr call, receiver?_eq_some_iff.mpr ⟨rest, first⟩, bound,
      refused, bind, Except.bind, throw, throwThe, MonadExceptOf.throw]

theorem acceptable_or_fault (imports : Imports) (declared : Method) :
    (∃ verb route, Acceptable imports declared verb route) ∨
      ∃ problem, MethodFault imports declared problem := by
  have calls := verbAndRoute_exact imports declared.attributes
  cases called : verbAndRoute imports declared.attributes with
  | error problem => exact .inr ⟨problem, .call ((calls.error problem).mp called)⟩
  | ok found =>
    obtain ⟨verb, route⟩ := found
    have call := (calls.ok (verb, route)).mp called
    by_cases receiver : ∃ taken rest, declared.signature.inputs = .receiver taken :: rest
    · rcases sound_or_fault imports route.placeholders (parametersOf declared.signature.inputs) with
        parameters | ⟨before, odd, behind, problem, split, early, fault⟩
      · cases classified : classify imports declared.signature with
        | error fault =>
          exact .inr ⟨_, .returns verb route fault call receiver parameters classified⟩
        | ok returns => exact .inl ⟨verb, route, call, receiver, parameters, returns, classified⟩
      · exact .inr ⟨problem,
          .parameter verb route before odd behind call receiver split early fault⟩
    · refine .inr ⟨_, .receiver verb route call fun taken rest first => ?_⟩
      exact receiver ⟨taken, rest, first⟩

/-- A method is understood exactly if its attributes, receiver, parameters and return type are in
order, and otherwise its problem is that of the first of them that is not. -/
theorem method_understood_iff (imports : Imports) (symbols : Symbols) (declared : Method) :
    ((∃ definition, method imports symbols declared = .ok definition) ↔
      ∃ verb route, Acceptable imports declared verb route) ∧
    ∀ problem, method imports symbols declared = .error problem ↔
      MethodFault imports declared problem := by
  rcases acceptable_or_fault imports declared with ⟨verb, route, fit⟩ | ⟨problem, fault⟩
  · obtain ⟨definition, done⟩ := fit.understood symbols
    refine ⟨iff_of_true ⟨definition, done⟩ ⟨verb, route, fit⟩, fun problem => iff_of_false ?_ ?_⟩
    · simp [done]
    · intro fault
      simp [fault.stops symbols] at done
  · have stopped := fault.stops symbols
    refine ⟨iff_of_false ?_ ?_, fun other => ⟨?_, fun fault => fault.stops symbols⟩⟩
    · simp [stopped]
    · rintro ⟨verb, route, fit⟩
      obtain ⟨definition, done⟩ := fit.understood symbols
      simp [stopped] at done
    · intro done
      cases stopped.symm.trans done
      exact fault

end Endpoint.Lowering
