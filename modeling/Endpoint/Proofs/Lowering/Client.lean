import Endpoint.Lowering.Client
import Endpoint.Lowering.Method
import Endpoint.Proofs.Outcome
import Endpoint.Proofs.Scan.Variation
import Endpoint.Validation

/-!
What is understood of a method comes of its parts, and parts that are in order are understood. Each
method of a trait that has no body is part of the client or is named by one diagnostic. What stands
outside the methods alone decides whether the trait is rejected and what its client is called.
-/

namespace Endpoint.Lowering

open Source (Associated Ident Method Trait)

/-! ### Methods -/

/-- The parts of a declared method that its definition was made of. -/
structure Understood (imports : Imports) (symbols : Symbols) (declared : Method)
    (definition : MethodDefinition) : Prop where
  name : definition.name = declared.signature.name.text
  call : verbAndRoute imports declared.attributes = .ok (definition.verb, definition.route)
  receiver : declared.signature.receiver?.isSome = true
  bindings : bindingsOf imports symbols definition.route.placeholders none
    declared.signature.inputs = .ok definition.bindings
  returns : classify imports declared.signature = .ok definition.returns
  signature : definition.signature =
    { declared.signature with
      inputs := declared.signature.inputs.map (withoutBodyMarker imports) }

theorem method_understood {imports : Imports} {symbols : Symbols} {declared : Method}
    {definition : MethodDefinition} (done : method imports symbols declared = .ok definition) :
    Understood imports symbols declared definition := by
  simp only [method, bind_eq_ok] at done
  obtain ⟨⟨verb, route⟩, call, done⟩ := done
  by_cases missing : declared.signature.receiver?.isNone = true
  · simp [missing, throw, throwThe, MonadExceptOf.throw, bind, Except.bind] at done
  · simp only [missing, Bool.false_eq_true, if_false, bind_eq_ok] at done
    obtain ⟨bindings, bound, done⟩ := done
    cases returned : classify imports declared.signature with
    | error fault => simp [returned, throw, throwThe, MonadExceptOf.throw] at done
    | ok returns =>
      simp only [returned, pure, Except.pure, Except.ok.injEq] at done
      subst definition
      exact ⟨rfl, call, by simpa [Option.isSome_iff_ne_none] using missing, bound, returned, rfl⟩

/-- Parts that are in order make a definition. -/
theorem method_of_parts {imports : Imports} {symbols : Symbols} {declared : Method} {verb : Verb}
    {route : Route} {bindings : List Binding} {returns : Returns}
    (call : verbAndRoute imports declared.attributes = .ok (verb, route))
    (receiver : declared.signature.receiver?.isSome = true)
    (bound : bindingsOf imports symbols route.placeholders none declared.signature.inputs =
      .ok bindings)
    (returned : classify imports declared.signature = .ok returns) :
    method imports symbols declared =
      .ok ⟨declared.signature.name.text, verb, route, bindings, returns,
        { declared.signature with
          inputs := declared.signature.inputs.map (withoutBodyMarker imports) }⟩ := by
  obtain ⟨taken, held⟩ := Option.isSome_iff_exists.mp receiver
  simp [method, call, held, bound, returned, bind, Except.bind, pure, Except.pure]

/-! ### Methods of a trait -/

/-- A method that the client has to implement: one without a body. -/
def required? : Associated → Option Method
  | .method declared => if declared.body.isSome then none else some declared
  | _ => none

/-- The methods of a trait that its client has to implement, in order. -/
def requiredMethods (item : Trait) : List Method := item.items.filterMap required?

/-- The definition of a method that is understood and whose parts fit together, or the first
problem that it has. -/
def endpoint (imports : Imports) (symbols : Symbols) (declared : Method) :
    Except Problem MethodDefinition := do
  let definition ← method imports symbols declared
  definition.validate
  return definition

/-- The diagnostic of a method that is no endpoint. -/
def endpointDiagnostic? (identity : Identity) (imports : Imports) (symbols : Symbols)
    (declared : Method) : Option Diagnostic :=
  match endpoint imports symbols declared with
  | .ok _ => none
  | .error problem => some (.ofMember identity declared.signature.name.text problem)

/-! ### Lowering alone -/

/-- The diagnostic of a method that is not understood. -/
def methodDiagnostic? (identity : Identity) (imports : Imports) (symbols : Symbols)
    (declared : Method) : Option Diagnostic :=
  match method imports symbols declared with
  | .ok _ => none
  | .error problem => some (.ofMember identity declared.signature.name.text problem)

theorem member?_method (imports : Imports) (symbols : Symbols) (item : Associated) :
    (member? imports symbols item).bind Member.method? =
      (required? item).bind fun declared => (method imports symbols declared).toOption := by
  cases item with
  | method declared =>
    simp only [member?, required?]
    by_cases body : declared.body.isSome = true
    · simp [body]
    · cases result : method imports symbols declared <;>
        simp [body, result, Member.method?, Except.toOption]
  | _ => rfl

theorem member?_diagnostic (identity : Identity) (imports : Imports) (symbols : Symbols)
    (item : Associated) :
    (member? imports symbols item).bind (Member.diagnostic? identity) =
      (required? item).bind (methodDiagnostic? identity imports symbols) := by
  cases item with
  | method declared =>
    simp only [member?, required?]
    by_cases body : declared.body.isSome = true
    · simp [body]
    · cases result : method imports symbols declared <;>
        simp [body, result, Member.diagnostic?, methodDiagnostic?]
  | _ => rfl

/-- A lowered trait is rejected with diagnostics of its own, or has the methods that are
understood and one diagnostic for each of the others that have no body. -/
theorem client_cases {candidate : Candidate} {item : Trait} {symbols : Symbols} {config : Config}
    {lowered : Lowered ClientDefinition}
    (done : client candidate item symbols config = .ok lowered) :
    (lowered.definition = none ∧ lowered.diagnostics ≠ [] ∧
      ∀ diagnostic ∈ lowered.diagnostics, diagnostic.subject = candidate.identity) ∨
    ∃ definition, lowered.definition = some definition ∧
      definition.identity = candidate.identity ∧ definition.trait = item.name ∧
      definition.methods = (requiredMethods item).filterMap
        (fun declared => (method candidate.imports symbols declared).toOption) ∧
      lowered.diagnostics = (requiredMethods item).filterMap
        (methodDiagnostic? candidate.identity candidate.imports symbols) := by
  simp only [client] at done
  split at done
  · cases done
    exact .inl ⟨rfl, by simp [Lowered.rejected], by simp [Lowered.rejected, Diagnostic.ofDeclaration]⟩
  split at done
  · cases done
    exact .inl ⟨rfl, by simp [Lowered.rejected], by simp [Lowered.rejected, Diagnostic.ofDeclaration]⟩
  · rename_i given _
    cases named : identifier (given.getD (item.name.text ++ config.clientSuffix)) with
    | error failure => simp [named, bind, Except.bind] at done
    | ok name =>
      simp only [named, bind, Except.bind] at done
      split at done
      · rename_i refused
        cases done
        refine .inl ⟨rfl, ?_, ?_⟩
        · simpa [Lowered.rejected] using refused
        · intro diagnostic member
          obtain ⟨text, _, rfl⟩ := List.mem_map.mp member
          rfl
      · cases done
        refine .inr ⟨_, rfl, rfl, rfl, ?_, ?_⟩
        · simp only [requiredMethods, List.filterMap_filterMap, member?_method]
        · simp only [requiredMethods, List.filterMap_filterMap, member?_diagnostic]

/-! ### Lowering and validation -/

theorem endpoint_toOption (imports : Imports) (symbols : Symbols) (declared : Method) :
    (endpoint imports symbols declared).toOption =
      (method imports symbols declared).toOption.filter MethodDefinition.isValid := by
  cases lowered : method imports symbols declared with
  | error problem => simp [endpoint, lowered, bind, Except.bind, Except.toOption]
  | ok definition =>
    cases checked : definition.validate <;>
      simp [endpoint, lowered, checked, MethodDefinition.isValid, Option.filter, bind, Except.bind,
        pure, Except.pure, Except.toOption]

/-- An endpoint is a method that is understood and validated. -/
theorem endpoint_ok_iff (imports : Imports) (symbols : Symbols) (declared : Method)
    (definition : MethodDefinition) :
    endpoint imports symbols declared = .ok definition ↔
      method imports symbols declared = .ok definition ∧ definition.validate = .ok () := by
  simp only [endpoint, bind_eq_ok, pure, Except.pure, Except.ok.injEq]
  constructor
  · rintro ⟨_, lowered, _, checked, rfl⟩
    exact ⟨lowered, checked⟩
  · rintro ⟨lowered, checked⟩
    exact ⟨definition, lowered, (), checked, rfl⟩

/-- A method that is no endpoint is named by lowering or by validation, not by both. -/
theorem endpointDiagnostic?_eq (identity : Identity) (imports : Imports) (symbols : Symbols)
    (declared : Method) :
    endpointDiagnostic? identity imports symbols declared =
      match method imports symbols declared with
      | .error problem => some (.ofMember identity declared.signature.name.text problem)
      | .ok definition => definition.diagnostic? identity := by
  cases lowered : method imports symbols declared with
  | error problem => simp [endpointDiagnostic?, endpoint, lowered, bind, Except.bind]
  | ok definition =>
    have named := (method_understood lowered).name
    cases checked : definition.validate <;>
      simp [endpointDiagnostic?, endpoint, lowered, checked, MethodDefinition.diagnostic?, named,
        bind, Except.bind, pure, Except.pure]

theorem endpointDiagnostic?_subject {identity : Identity} {imports : Imports} {symbols : Symbols}
    {declared : Method} {diagnostic : Diagnostic}
    (named : endpointDiagnostic? identity imports symbols declared = some diagnostic) :
    diagnostic.subject = identity := by
  simp only [endpointDiagnostic?] at named
  split at named
  · cases named
  · cases named
    rfl

theorem endpointDiagnostics_perm (identity : Identity) (imports : Imports) (symbols : Symbols)
    (declared : List Method) :
    (declared.filterMap (methodDiagnostic? identity imports symbols) ++
        (declared.filterMap fun one => (method imports symbols one).toOption).filterMap
          (MethodDefinition.diagnostic? identity)).Perm
      (declared.filterMap (endpointDiagnostic? identity imports symbols)) := by
  induction declared with
  | nil => exact .nil
  | cons first rest ih =>
    cases lowered : method imports symbols first with
    | error problem =>
      simpa [methodDiagnostic?, endpointDiagnostic?_eq, lowered, Except.toOption] using ih
    | ok definition =>
      cases checked : definition.diagnostic? identity with
      | none =>
        simpa [methodDiagnostic?, endpointDiagnostic?_eq, lowered, checked, Except.toOption]
          using ih
      | some diagnostic =>
        have named : endpointDiagnostic? identity imports symbols first = some diagnostic := by
          simp [endpointDiagnostic?_eq, lowered, checked]
        have early : methodDiagnostic? identity imports symbols first = none := by
          simp [methodDiagnostic?, lowered]
        have kept : (method imports symbols first).toOption = some definition := by
          simp [lowered, Except.toOption]
        rw [List.filterMap_cons_some named, List.filterMap_cons_none early,
          List.filterMap_cons_some (f := fun one => (method imports symbols one).toOption) kept,
          List.filterMap_cons_some checked]
        exact List.perm_middle.trans (ih.cons diagnostic)

/-- A client and diagnostics that together stand for the methods of a trait. -/
structure Accounts (candidate : Candidate) (item : Trait) (symbols : Symbols)
    (definition : ClientDefinition) (diagnostics : List Diagnostic) : Prop where
  trait : definition.trait = item.name
  methods : definition.methods = (requiredMethods item).filterMap fun declared =>
    (endpoint candidate.imports symbols declared).toOption
  diagnostics : diagnostics.Perm ((requiredMethods item).filterMap
    (endpointDiagnostic? candidate.identity candidate.imports symbols))

/-- What is left of a lowered client after validation accounts for all methods of the trait. -/
theorem client_accounts {candidate : Candidate} {item : Trait} {symbols : Symbols}
    {config : Config} {lowered : Lowered ClientDefinition} {definition : ClientDefinition}
    (done : client candidate item symbols config = .ok lowered)
    (present : lowered.definition = some definition) :
    Accounts candidate item symbols definition.validate.1
      (lowered.diagnostics ++ definition.validate.2) := by
  rcases client_cases done with
    ⟨missing, _, _⟩ | ⟨found, held, identity, trait, methods, diagnostics⟩
  · simp [missing] at present
  · obtain rfl : found = definition := by simpa [held] using present
    refine ⟨trait, ?_, ?_⟩
    · simp only [ClientDefinition.validate, methods, List.filter_filterMap, endpoint_toOption]
    · simp only [ClientDefinition.validate, methods, diagnostics, identity]
      exact endpointDiagnostics_perm ..

/-! ### Outside the methods -/

/-- What a trait comes to without a look at its methods: the diagnostics that reject it, or the name
of its client. -/
def shell (identity : Identity) (imports : Imports) (config : Config) (item : Trait) :
    Except Failure (List Diagnostic ⊕ Ident) :=
  if isGeneric item.generics then .ok (.inl [.ofDeclaration identity .genericDeclaration])
  else
    match clientName imports item with
    | .error reason => .ok (.inl [.ofDeclaration identity (.invalidClientArguments reason)])
    | .ok given => do
      let name ← identifier (given.getD (item.name.text ++ config.clientSuffix))
      let refused := item.items.filterMap unsupported?
      if refused.isEmpty then return .inr name
      else return .inl (refused.map fun text => .ofDeclaration identity (.unsupportedTraitItem text))

/-- The client of a trait whose shell has been understood. -/
def clientOfShell (identity : Identity) (imports : Imports) (symbols : Symbols) (item : Trait) :
    List Diagnostic ⊕ Ident → Lowered ClientDefinition
  | .inl diagnostics => .rejected diagnostics
  | .inr name =>
    ⟨some ⟨identity, item.name, name, item.visibility, item.isUnsafe,
        (item.items.filterMap (member? imports symbols)).filterMap Member.method?⟩,
      (item.items.filterMap (member? imports symbols)).filterMap (Member.diagnostic? identity)⟩

theorem client_eq (candidate : Candidate) (item : Trait) (symbols : Symbols) (config : Config) :
    client candidate item symbols config =
      (shell candidate.identity candidate.imports config item).map
        (clientOfShell candidate.identity candidate.imports symbols item) := by
  simp only [client, shell]
  by_cases generic : isGeneric item.generics = true
  · simp [generic, clientOfShell, Except.map, pure, Except.pure]
  · simp only [generic, Bool.false_eq_true, if_false]
    cases clientName candidate.imports item with
    | error reason => rfl
    | ok given =>
      cases named : identifier (given.getD (item.name.text ++ config.clientSuffix)) with
      | error failure => simp [named, bind, Except.bind, Except.map]
      | ok name =>
        cases (item.items.filterMap unsupported?).isEmpty <;>
          simp [named, bind, Except.bind, Except.map, pure, Except.pure, clientOfShell]

/-- Traits that differ in their methods only have the same shell. -/
theorem shell_congr {first second : Trait} (traits : first.SameButMethods second)
    (identity : Identity) (imports : Imports) (config : Config) :
    shell identity imports config first = shell identity imports config second := by
  have passed : ∀ items : List Associated,
      items.filterMap unsupported? = (items.filter Associated.isOther).filterMap unsupported? := by
    intro items
    rw [List.filterMap_filter]
    congr 1
    funext item
    cases item <;> rfl
  have refused : first.items.filterMap unsupported? = second.items.filterMap unsupported? := by
    rw [passed, traits.others, ← passed]
  rw [shell, shell, refused, traits.outside]
  rfl

end Endpoint.Lowering
