import Endpoint.Proofs.Lowering.Acceptance
import Endpoint.Proofs.Run.Isolation
import Endpoint.Proofs.Run.Spelling
import Endpoint.Proofs.Validation.Conditions

/-!
Names of clients. Main statement: of the clients that could be generated under one name in one
module the first by hint is kept, and each of the others gives way to one diagnostic that names it.
-/

namespace Endpoint

/-! ### Diagnostics of clashes -/

/-- The problem is that the name of a client is taken. -/
def Problem.isCollision : Problem → Bool
  | .clientNameCollision .. => true
  | _ => false

/-- The diagnostics that tell of a declaration that the name of its client is taken. -/
def collisions (identity : Identity) (diagnostics : List Diagnostic) : List Diagnostic :=
  diagnostics.filter fun diagnostic =>
    diagnostic.subject == identity && diagnostic.problem.isCollision

theorem Lowering.MethodFault.isCollision {imports : Imports} {declared : Source.Method}
    {problem : Problem} (fault : MethodFault imports declared problem) :
    problem.isCollision = false := by
  cases fault with
  | call fault => cases fault <;> rfl
  | receiver => rfl
  | parameter _ _ _ _ _ _ _ _ _ fault => cases fault <;> rfl
  | returns => rfl

theorem MethodDefinition.FirstFault.isCollision {method : MethodDefinition} {problem : Problem}
    (fault : method.FirstFault problem) : problem.isCollision = false := by
  cases fault with
  | route fault => cases fault <;> rfl
  | body _ fault => cases fault; rfl
  | cancellation _ _ fault => cases fault <;> rfl
  | keys _ _ _ fault => cases fault; rfl
  | errors => rfl

/-- No method is reported as a clash. -/
theorem Lowering.endpointDiagnostic?_isCollision {identity : Identity} {imports : Imports}
    {symbols : Symbols} {declared : Source.Method} {diagnostic : Diagnostic}
    (found : endpointDiagnostic? identity imports symbols declared = some diagnostic) :
    diagnostic.problem.isCollision = false := by
  unfold endpointDiagnostic? at found
  split at found
  · cases found
  · rename_i problem refused
    cases found
    unfold endpoint at refused
    rcases bind_eq_error.mp refused with fault | ⟨definition, -, rest⟩
    · exact (((method_understood_iff imports symbols declared).2 problem).mp fault).isCollision
    · rcases bind_eq_error.mp rest with fault | ⟨_, -, ended⟩
      · exact ((definition.validate_exact.error problem).mp fault).isCollision
      · cases ended

/-- A trait that is rejected as a whole is not reported as a clash. -/
theorem Lowering.shell_isCollision {identity : Identity} {imports : Imports} {config : Config}
    {item : Source.Trait} {diagnostics : List Diagnostic}
    (rejected : shell identity imports config item = .ok (.inl diagnostics)) :
    ∀ diagnostic ∈ diagnostics, diagnostic.problem.isCollision = false := by
  unfold shell at rejected
  split at rejected
  · cases rejected
    simp [Diagnostic.ofDeclaration, Problem.isCollision]
  · split at rejected
    · cases rejected
      simp [Diagnostic.ofDeclaration, Problem.isCollision]
    · simp only [bind_eq_ok] at rejected
      obtain ⟨name, -, rest⟩ := rejected
      split at rest
      · cases rest
      · cases rest
        intro diagnostic member
        obtain ⟨text, -, rfl⟩ := List.mem_map.mp member
        rfl

theorem Lowering.enumeration_isCollision (candidate : Candidate) (item : Source.Enum) :
    ∀ diagnostic ∈ (enumeration candidate item).diagnostics,
      diagnostic.problem.isCollision = false := by
  unfold enumeration
  dsimp only
  split
  · simp [Lowered.rejected, Diagnostic.ofDeclaration, Problem.isCollision]
  · split
    · simp
    · intro diagnostic member
      obtain ⟨variant, -, named⟩ := List.mem_filterMap.mp member
      unfold variantProblem? enumerationMember at named
      -- What is wrong with a variant is its shape or its alias.
      grind [Diagnostic.ofMember, Problem.isCollision]

theorem memberDiagnostics_isCollision (identity : Identity) (members : List EnumerationMember) :
    ∀ seen, ∀ diagnostic ∈ memberDiagnostics identity seen members,
      diagnostic.problem.isCollision = false := by
  induction members with
  | nil => simp [memberDiagnostics]
  | cons member rest ih =>
    intro seen diagnostic held
    unfold memberDiagnostics at held
    grind [Diagnostic.ofMember, Problem.isCollision]

/-- No declaration is reported as a clash before names are compared. -/
theorem Scan.ofUnits_isCollision (units : List SourceUnit) :
    ∀ diagnostic ∈ (ofUnits units).diagnostics, diagnostic.problem.isCollision = false := by
  refine ofUnits_preserves
    (P := fun scan => ∀ diagnostic ∈ scan.diagnostics, diagnostic.problem.isCollision = false)
    ?_ (by simp [empty]) units
  intro imports found scan before
  rcases add_cases imports found scan with same | ⟨-, -, ⟨-, added⟩ | ⟨-, added⟩⟩
  · rwa [same]
  · rwa [added]
  · rw [added]
    simpa [Diagnostic.ofDeclaration, Problem.isCollision, or_imp, forall_and] using before

namespace Run

/-- What a declaration comes to by itself is never a clash. -/
theorem process_isCollision {config : Config} {symbols : Symbols} {job : String × Candidate}
    {found : Processed} (done : process config symbols job = .ok found) :
    ∀ diagnostic ∈ found.diagnostics, diagnostic.problem.isCollision = false := by
  simp only [process, bind_eq_ok] at done
  obtain ⟨context, -, done⟩ := done
  split at done
  · rcases processClient_cases done with
      ⟨diagnostics, rejected, rfl⟩ | ⟨name, unit, diagnostics, -, rfl, -, methods⟩
    · exact Lowering.shell_isCollision rejected
    · intro diagnostic member
      have reported := methods.subset member
      rw [reported_fate] at reported
      obtain ⟨declared, -, named⟩ := List.mem_filterMap.mp reported
      exact Lowering.endpointDiagnostic?_isCollision named
  · rename_i item _
    have lowered := Lowering.enumeration_isCollision job.2 item
    rcases processEnum_cases done with ⟨-, rfl⟩ | ⟨enumeration, -, ⟨unit, -, -, rfl⟩ | ⟨-, rfl⟩⟩
    · exact lowered
    · exact lowered
    · intro diagnostic member
      rcases List.mem_append.mp member with early | late
      · exact lowered diagnostic early
      · exact memberDiagnostics_isCollision _ _ _ diagnostic late

/-! ### Clients and serializers before names are compared -/

/-- The client of a trait, complete but for the comparison of names: its name and its unit. -/
def IsClient (config : Config) (symbols : Symbols) (job : String × Candidate) (name : String)
    (unit : GeneratedUnit) : Prop :=
  ∃ item context definition diagnostics, job.2.declaration = .trait item ∧
    Emission.Context.ofConfig config = .ok context ∧
    Lowering.client job.2 item symbols config = .ok ⟨some definition, diagnostics⟩ ∧
    Emission.render (Emission.clientTokens context definition.validate.1) job.1 job.2.kind
      job.2.identity = .ok unit ∧
    definition.name.written = name

/-- The serializer of an enum and its unit. -/
def IsSerializer (config : Config) (job : String × Candidate) (unit : GeneratedUnit) : Prop :=
  ∃ item context enumeration, job.2.declaration = .enum item ∧
    Emission.Context.ofConfig config = .ok context ∧
    (Lowering.enumeration job.2 item).definition = some enumeration ∧
    enumeration.problems = [] ∧
    Emission.render (Emission.serializerTokens context enumeration) job.1 job.2.kind
      job.2.identity = .ok unit

theorem IsClient.origin {config : Config} {symbols : Symbols} {job : String × Candidate}
    {name : String} {unit : GeneratedUnit} (client : IsClient config symbols job name unit) :
    unit.hint = job.1 ∧ unit.kind = job.2.kind ∧ unit.source = job.2.identity := by
  obtain ⟨_, _, _, _, _, _, _, rendered, _⟩ := client
  exact render_origin rendered

theorem IsClient.processed {config : Config} {symbols : Symbols} {job : String × Candidate}
    {found : Processed} {name : String} {unit : GeneratedUnit}
    (client : IsClient config symbols job name unit)
    (done : process config symbols job = .ok found) :
    found.unit = some unit ∧ found.clientName = some name := by
  obtain ⟨item, context, definition, diagnostics, declared, given, lowered, rendered, rfl⟩ := client
  simp only [process, given, declared, processClient, lowered, rendered, bind, Except.bind, pure,
    Except.pure, Except.ok.injEq] at done
  subst found
  exact ⟨rfl, rfl⟩

theorem IsSerializer.processed {config : Config} {symbols : Symbols} {job : String × Candidate}
    {found : Processed} {unit : GeneratedUnit} (serializer : IsSerializer config job unit)
    (done : process config symbols job = .ok found) :
    found.unit = some unit ∧ found.clientName = none := by
  obtain ⟨item, context, enumeration, declared, given, lowered, sound, rendered⟩ := serializer
  have ended : processEnum context job.1 job.2 item = .ok found := by
    simpa only [process, given, declared, bind, Except.bind] using done
  rcases processEnum_cases ended with
    ⟨missing, -⟩ | ⟨_, held, ⟨unit, -, emitted, rfl⟩ | ⟨faulty, -⟩⟩
  · cases lowered.symm.trans missing
  · cases lowered.symm.trans held
    cases rendered.symm.trans emitted
    exact ⟨rfl, rfl⟩
  · cases lowered.symm.trans held
    exact absurd sound faulty

/-- A declaration comes to nothing, to a client or to a serializer. -/
theorem process_cases {config : Config} {symbols : Symbols} {job : String × Candidate}
    {found : Processed} (done : process config symbols job = .ok found) :
    found.unit = none ∨
    (∃ name unit, IsClient config symbols job name unit ∧
      found.unit = some unit ∧ found.clientName = some name) ∨
    ∃ unit, IsSerializer config job unit ∧ found.unit = some unit ∧ found.clientName = none := by
  simp only [process, bind_eq_ok] at done
  obtain ⟨context, given, done⟩ := done
  split at done
  · rename_i item declared
    simp only [processClient, bind_eq_ok] at done
    obtain ⟨⟨definition, diagnostics⟩, lowered, done⟩ := done
    cases definition with
    | none =>
      cases done
      exact .inl rfl
    | some definition =>
      simp only [bind_eq_ok, pure, Except.pure, Except.ok.injEq] at done
      obtain ⟨unit, rendered, rfl⟩ := done
      refine .inr (.inl ⟨definition.name.written, unit, ?_, rfl, rfl⟩)
      exact ⟨item, context, definition, diagnostics, declared, given, lowered, rendered, rfl⟩
  · rename_i item declared
    rcases processEnum_cases done with
      ⟨-, rfl⟩ | ⟨enumeration, understood, ⟨unit, sound, rendered, rfl⟩ | ⟨-, rfl⟩⟩
    · exact .inl rfl
    · refine .inr (.inr ⟨unit, ?_, rfl, rfl⟩)
      exact ⟨item, context, enumeration, declared, given, understood, sound, rendered⟩
    · exact .inl rfl

/-! ### Claims -/

/-- The module and the name that a client claims, and its declaration. -/
def Processed.claim? (found : Processed) : Option ((Names × String) × Identity) :=
  match found.unit, found.clientName with
  | some unit, some name => some ((unit.source.module, name), unit.source)
  | _, _ => none

/-- Whether a declaration has come to a client that claims the name in the module. -/
def claims (key : Names × String) (one : Worked) : Bool := one.2.claim?.any (·.1 == key)

theorem find?_namesAfter (names : ClientNames) (found : Processed) (key : Names × String) :
    (found.namesAfter names).find? (·.1 == key) =
      (names.find? (·.1 == key)).or (found.claim?.filter (·.1 == key)) := by
  unfold Processed.namesAfter Processed.claim?
  cases found.unit with
  | none => simp
  | some unit =>
    cases found.clientName with
    | none => simp
    | some name =>
      dsimp only
      split
      · rename_i taken
        by_cases same : (unit.source.module, name) = key
        · subst key
          obtain ⟨entry, held⟩ := Option.isSome_iff_exists.mp taken
          simp [held]
        · simp [Option.filter, same]
      · simp [List.find?_append, List.find?_singleton, Option.filter]

/-- A name is held by the first that claimed it. -/
theorem find?_names (before : List Worked) (names : ClientNames) (key : Names × String) :
    ((before.map Prod.snd).foldl Processed.namesAfter names).find? (·.1 == key) =
      (names.find? (·.1 == key)).or ((before.find? (claims key)).bind (·.2.claim?)) := by
  induction before generalizing names with
  | nil => simp
  | cons one rest ih =>
    rw [List.map_cons, List.foldl_cons, ih, find?_namesAfter, Option.or_assoc, List.find?_cons]
    congr 1
    cases held : one.2.claim? with
    | none => simp [claims, held]
    | some claim =>
      by_cases same : claim.1 = key
      · simp [claims, held, same, Option.filter]
      · have other : (claim.1 == key) = false := by simpa using same
        simp [claims, held, other, Option.filter]

theorem sharesOf_append (names : ClientNames) (before behind : List Worked) :
    sharesOf names (before ++ behind) = sharesOf names before ++
      sharesOf ((before.map Prod.snd).foldl Processed.namesAfter names) behind := by
  induction before generalizing names with
  | nil => rfl
  | cons one rest ih => simp [sharesOf, ih]

section

variable {config : Config} {symbols : Symbols} {one : Worked}

theorem IsClient.claim? {name : String} {unit : GeneratedUnit}
    (client : IsClient config symbols one.1 name unit)
    (done : process config symbols one.1 = .ok one.2) :
    one.2.claim? = some ((one.1.2.identity.module, name), one.1.2.identity) := by
  obtain ⟨present, named⟩ := client.processed done
  have source := ((process_accounts done).origin unit (by simp [present])).2.2
  simp only [Processed.claim?, present, named, source]

/-- Only clients claim names. -/
theorem client_of_claim? {claim : (Names × String) × Identity}
    (done : process config symbols one.1 = .ok one.2) (claimed : one.2.claim? = some claim) :
    ∃ name unit, IsClient config symbols one.1 name unit ∧
      claim = ((one.1.2.identity.module, name), one.1.2.identity) := by
  rcases process_cases done with none | ⟨name, unit, client, -, -⟩ | ⟨unit, -, -, unnamed⟩
  · simp [Processed.claim?, none] at claimed
  · exact ⟨name, unit, client, by simpa [client.claim? done] using claimed.symm⟩
  · simp [Processed.claim?, unnamed] at claimed

theorem claims_iff (done : process config symbols one.1 = .ok one.2) (module : Names)
    (name : String) :
    claims (module, name) one = true ↔
      one.1.2.identity.module = module ∧ ∃ unit, IsClient config symbols one.1 name unit := by
  constructor
  · intro claimed
    cases held : one.2.claim? with
    | none => simp [claims, held] at claimed
    | some claim =>
      obtain ⟨own, unit, client, rfl⟩ := client_of_claim? done held
      obtain ⟨rfl, rfl⟩ : one.1.2.identity.module = module ∧ own = name := by
        simpa [claims, held] using claimed
      exact ⟨rfl, unit, client⟩
  · rintro ⟨rfl, unit, client⟩
    simp [claims, client.claim? done]

theorem claim?_of_claims {key : Names × String} (done : process config symbols one.1 = .ok one.2)
    (claimed : claims key one = true) : one.2.claim? = some (key, one.1.2.identity) := by
  obtain ⟨module, name⟩ := key
  obtain ⟨rfl, unit, client⟩ := (claims_iff done module name).mp claimed
  exact client.claim? done

end

/-! ### The share of a client -/

/-- The declaration is the first by hint of those that have come to clients of the name in the
module. -/
structure Owns (config : Config) (symbols : Symbols) (jobs : List (String × Candidate))
    (owner : String × Candidate) (module : Names) (name : String) : Prop where
  member : owner ∈ jobs
  home : owner.2.identity.module = module
  client : ∃ unit, IsClient config symbols owner name unit
  first : ∀ job ∈ jobs, job.2.identity.module = module →
    (∃ unit, IsClient config symbols job name unit) → job ≠ owner → owner.1 < job.1

theorem Owns.unique {config : Config} {symbols : Symbols} {jobs : List (String × Candidate)}
    {one two : String × Candidate} {module : Names} {name : String}
    (first : Owns config symbols jobs one module name)
    (second : Owns config symbols jobs two module name) : one = two := by
  by_contra other
  have before := first.first two second.member second.home second.client (Ne.symm other)
  have behind := second.first one first.member first.home first.client other
  exact String.lt_irrefl _ (String.lt_trans before behind)

theorem Owns.of_mem_iff {config : Config} {symbols : Symbols}
    {jobs others : List (String × Candidate)} (same : ∀ job, job ∈ jobs ↔ job ∈ others)
    {owner : String × Candidate} {module : Names} {name : String}
    (owns : Owns config symbols jobs owner module name) :
    Owns config symbols others owner module name :=
  ⟨(same owner).mp owns.member, owns.home, owns.client,
    fun job member => owns.first job ((same job).mpr member)⟩

/-- Declarations with their results, as a run collects them. -/
structure InOrder (config : Config) (symbols : Symbols) (worked : List Worked) : Prop where
  processed : ∀ one ∈ worked, process config symbols one.1 = .ok one.2
  rising : worked.Pairwise fun one two => one.1.1 < two.1.1
  keys : (worked.map fun one => Scan.key one.1.2).Nodup
  kinds : ∀ one ∈ worked, one.1.2.kind = one.1.2.declaration.kind

section

variable {config : Config} {symbols : Symbols} {worked : List Worked}

/-- The first that claims a name owns it. -/
theorem InOrder.owns (order : InOrder config symbols worked) {module : Names} {name : String}
    {owner : Worked} (first : worked.find? (claims (module, name)) = some owner) :
    Owns config symbols (worked.map Prod.fst) owner.1 module name := by
  obtain ⟨claimed, before, behind, rfl, earlier⟩ := List.find?_eq_some_iff_append.mp first
  obtain ⟨home, client⟩ := (claims_iff (order.processed owner (by simp)) module name).mp claimed
  refine ⟨by simp, home, client, ?_⟩
  intro job member own other apart
  obtain ⟨one, held, rfl⟩ := List.mem_map.mp member
  have claiming := (claims_iff (order.processed one held) module name).mpr ⟨own, other⟩
  rcases List.mem_append.mp held with early | late
  · exact absurd claiming (by simpa using earlier one early)
  · rcases List.mem_cons.mp late with rfl | late
    · exact absurd rfl apart
    · exact (List.pairwise_cons.mp (List.pairwise_append.mp order.rising).2.1).1 one late

/-- The share of a result among others depends on the names that are taken before it. -/
theorem share_mem (before : List Worked) (one : Worked) (behind : List Worked) :
    ⟨one.1, (one.2.contribution ((before.map Prod.snd).foldl Processed.namesAfter [])).1,
      (one.2.contribution ((before.map Prod.snd).foldl Processed.namesAfter [])).2⟩ ∈
        sharesOf [] (before ++ one :: behind) := by
  rw [sharesOf_append]
  exact List.mem_append_right _ List.mem_cons_self

/-- The client that owns its name is kept; any other gives way to a diagnostic that tells of the
owner. -/
theorem InOrder.client_share (order : InOrder config symbols worked) {one : Worked}
    (member : one ∈ worked) {name : String} {unit : GeneratedUnit}
    (client : IsClient config symbols one.1 name unit) :
    ∃ owner, Owns config symbols (worked.map Prod.fst) owner one.1.2.identity.module name ∧
      (owner = one.1 ∧ ⟨one.1, some unit, one.2.diagnostics⟩ ∈ sharesOf [] worked ∨
        owner ≠ one.1 ∧ ⟨one.1, none, one.2.diagnostics ++ [.ofDeclaration one.1.2.identity
          (.clientNameCollision name owner.2.identity.text)]⟩ ∈ sharesOf [] worked) := by
  have processed := order.processed one member
  have claiming := (claims_iff processed one.1.2.identity.module name).mpr ⟨rfl, unit, client⟩
  obtain ⟨present, named⟩ := client.processed processed
  have source := ((process_accounts processed).origin unit (by simp [present])).2.2
  obtain ⟨before, behind, rfl⟩ := List.append_of_mem member
  have share := share_mem before one behind
  have taken := find?_names before [] (one.1.2.identity.module, name)
  have first : (before ++ one :: behind).find? (claims (one.1.2.identity.module, name)) =
      (before.find? (claims (one.1.2.identity.module, name))).or (some one) := by
    simp [List.find?_append, claiming]
  obtain ⟨job, hint, _, _, diagnostics⟩ := one
  obtain ⟨rfl, rfl⟩ : _ = some unit ∧ _ = some name := ⟨present, named⟩
  dsimp only at source first taken share ⊢
  cases held : before.find? (claims (job.2.identity.module, name)) with
  | none =>
    rw [held] at first taken
    rw [(Processed.contribution_of_free (source ▸ taken) hint diagnostics).1] at share
    exact ⟨job, order.owns first, .inl ⟨rfl, share⟩⟩
  | some owner =>
    have early : owner ∈ before := List.mem_of_find?_eq_some held
    rw [held] at first taken
    have claim := claim?_of_claims
      (order.processed owner (List.mem_append_left _ early)) (List.find?_some held)
    simp only [Option.bind_some, claim] at taken
    rw [(Processed.contribution_of_taken (source ▸ taken) hint diagnostics).1, source] at share
    refine ⟨owner.1, order.owns first, .inr ⟨?_, share⟩⟩
    intro same
    have before := (List.pairwise_append.mp order.rising).2.2 owner early _ List.mem_cons_self
    rw [same] at before
    exact String.lt_irrefl _ before

example :
    let unit name : GeneratedUnit := ⟨name, .client, ⟨["a"], name⟩, ""⟩
    (contributions [] [⟨"Api", some (unit "Api"), some "Shared", []⟩,
        ⟨"Beta", some (unit "Beta"), some "Shared", []⟩]) =
      [(some (unit "Api"), []),
        (none, [.ofDeclaration ⟨["a"], "Beta"⟩ (.clientNameCollision "Shared" "a::Api")])] := by
  decide +kernel

theorem InOrder.serializer_share (order : InOrder config symbols worked) {one : Worked}
    (member : one ∈ worked) {unit : GeneratedUnit}
    (serializer : IsSerializer config one.1 unit) :
    ⟨one.1, some unit, one.2.diagnostics⟩ ∈ sharesOf [] worked := by
  obtain ⟨present, unnamed⟩ := serializer.processed (order.processed one member)
  obtain ⟨before, behind, rfl⟩ := List.append_of_mem member
  have share := share_mem before one behind
  simpa only [Processed.contribution, present, unnamed] using share

/-! ### The clashes that a run reports -/

theorem mem_sharesOf {share : Share} {names : ClientNames}
    (member : share ∈ sharesOf names worked) :
    ∃ one ∈ worked, ∃ taken, share =
      ⟨one.1, (one.2.contribution taken).1, (one.2.contribution taken).2⟩ := by
  induction worked generalizing names with
  | nil => cases member
  | cons one rest ih =>
    rcases List.mem_cons.mp member with rfl | later
    · exact ⟨one, List.mem_cons_self, names, rfl⟩
    · obtain ⟨other, held, taken, same⟩ := ih later
      exact ⟨other, List.mem_cons_of_mem _ held, taken, same⟩

/-- A clash is reported of a client, in its own share. -/
theorem InOrder.clash_key (order : InOrder config symbols worked) {share : Share}
    (member : share ∈ sharesOf [] worked) {diagnostic : Diagnostic}
    (held : diagnostic ∈ share.diagnostics) (clash : diagnostic.problem.isCollision = true) :
    Scan.key share.job.2 = (.client, diagnostic.subject) := by
  have subject := (sharesOf_accounted order.processed [] share member).subjects diagnostic held
  obtain ⟨one, worked, taken, rfl⟩ := mem_sharesOf member
  have processed := order.processed one worked
  suffices declared : one.1.2.declaration.kind = .client by
    simp [Scan.key, subject, order.kinds one worked, declared]
  rcases process_cases processed with none | ⟨name, unit, ⟨item, _, _, _, declared, -⟩, -⟩ |
    ⟨unit, -, present, unnamed⟩
  · simp only [Processed.contribution, none] at held
    simp [process_isCollision processed diagnostic held] at clash
  · rw [declared]
    rfl
  · simp only [Processed.contribution, present, unnamed] at held
    simp [process_isCollision processed diagnostic held] at clash

theorem collisions_append (identity : Identity) (first second : List Diagnostic) :
    collisions identity (first ++ second) =
      collisions identity first ++ collisions identity second :=
  List.filter_append ..

theorem collisions_eq_nil {identity : Identity} {diagnostics : List Diagnostic}
    (none : ∀ diagnostic ∈ diagnostics, diagnostic.problem.isCollision = true →
      diagnostic.subject ≠ identity) : collisions identity diagnostics = [] := by
  simpa [collisions, List.filter_eq_nil_iff, imp_not_comm] using none

theorem InOrder.shares_keys (order : InOrder config symbols worked) :
    ((sharesOf [] worked).map fun share => Scan.key share.job.2).Nodup := by
  have jobs := congrArg (List.map fun job => Scan.key job.2) (sharesOf_jobs [] worked)
  simp only [List.map_map, Function.comp_def] at jobs
  exact jobs ▸ order.keys

/-- The clashes of a client are all in its share. -/
theorem InOrder.collisions_shares (order : InOrder config symbols worked) {share : Share}
    (member : share ∈ sharesOf [] worked) (client : share.job.2.kind = .client) :
    collisions share.job.2.identity ((sharesOf [] worked).flatMap Share.diagnostics) =
      collisions share.job.2.identity share.diagnostics := by
  have keys := order.shares_keys
  have own := @InOrder.clash_key _ _ _ order
  obtain ⟨before, behind, split⟩ := List.append_of_mem member
  rw [split] at keys own ⊢
  simp only [List.map_append, List.map_cons, List.nodup_middle, List.nodup_cons, List.mem_append,
    List.mem_map, not_or, not_exists, not_and] at keys
  -- Another share with a clash of this subject would have the same key.
  have elsewhere : ∀ shares ⊆ before ++ behind,
      collisions share.job.2.identity (shares.flatMap Share.diagnostics) = [] := by
    intro shares among
    refine collisions_eq_nil fun diagnostic held clash subject => ?_
    obtain ⟨other, one, here⟩ := List.mem_flatMap.mp held
    have place := List.mem_append.mp (among one)
    have key : Scan.key other.job.2 = Scan.key share.job.2 := by
      rw [own (List.mem_append.mpr (place.imp_right (List.mem_cons_of_mem _))) here clash, subject,
        ← client]
      rfl
    rcases place with early | late
    · exact keys.1.1 other early key
    · exact keys.1.2 other late key
  simp only [List.flatMap_append, List.flatMap_cons, collisions_append,
    elsewhere before (List.subset_append_left ..), elsewhere behind (List.subset_append_right ..),
    List.nil_append, List.append_nil]

end

/-! ### Runs -/

theorem collectedOrder_inOrder {config : Config} {symbols : Symbols}
    {jobs : List (String × Candidate)} {found : List Processed}
    (settled : settle (jobs.map (process config symbols)) = .ok found)
    (hints : (jobs.map Prod.fst).Nodup) (keys : (jobs.map fun job => Scan.key job.2).Nodup)
    (kinds : ∀ job ∈ jobs, job.2.kind = job.2.declaration.kind) :
    InOrder config symbols (collectedOrder jobs found) := by
  have processed := collectedOrder_done settled
  have permuted := collectedOrder_jobs (settle_length settled)
  have byHint : (collectedOrder jobs found).Pairwise fun one two => one.2.hint ≤ two.2.hint :=
    Sorting.pairwise_mergeSort_text (fun one : Worked => one.2.hint) _
  have sorted : (collectedOrder jobs found).Pairwise fun one two => one.1.1 ≤ two.1.1 := by
    refine byHint.imp_of_mem fun {one two} first second before => ?_
    rwa [← process_hint (processed one first), ← process_hint (processed two second)]
  have apart : (collectedOrder jobs found).Pairwise fun one two => one.1.1 ≠ two.1.1 := by
    have distinct := (permuted.map Prod.fst).nodup_iff.mpr hints
    rw [List.map_map] at distinct
    exact List.pairwise_map.mp distinct
  refine ⟨processed, (sorted.and apart).imp fun held => Std.lt_of_le_of_ne held.1 held.2, ?_, ?_⟩
  · have distinct := (permuted.map fun job => Scan.key job.2).nodup_iff.mpr keys
    rwa [List.map_map] at distinct
  · exact fun one member => kinds one.1 (permuted.mem_iff.mp (List.mem_map_of_mem member))

/-- A report consists of the shares of the jobs of a run, and of diagnostics from before. -/
structure Gathered (config : Config) (symbols : Symbols) (jobs : List (String × Candidate))
    (scanned : List Diagnostic) (worked : List Worked) (report : Report) : Prop where
  order : InOrder config symbols worked
  jobs : ∀ job, job ∈ jobs ↔ job ∈ worked.map Prod.fst
  units : report.units = (sharesOf [] worked).filterMap Share.unit
  diagnostics : report.diagnostics = scanned ++ (sharesOf [] worked).flatMap Share.diagnostics
  unclashed : ∀ diagnostic ∈ scanned, diagnostic.problem.isCollision = false

/-- A run is cancelled before its first job, or its report is gathered from all of them. -/
theorem generate_gathered {hints : Hints} (reachable : hints.Reachable) {config : Config}
    {cancelled : Bool} {units : List SourceUnit} {report : Report}
    (done : (generate config cancelled hints units).1 = .ok report) :
    report.cancelled = true ∧ report.units = [] ∨
    ∃ worked, Gathered config (Symbols.ofUnits units) (jobsOf hints units)
      (Scan.ofUnits units).diagnostics worked report := by
  have own : (jobsOf hints units).map Prod.snd =
      (Scan.ofUnits units).candidates.mergeSort sortsBefore := reserveAll_candidates ..
  have scanned := Scan.ofUnits_distinct units
  have sorted := List.mergeSort_perm (Scan.ofUnits units).candidates sortsBefore
  have unclashed := Scan.ofUnits_isCollision units
  cases cancelled with
  | true =>
    simp only [generate, if_true, Except.ok.injEq] at done
    subst report
    cases jobs : jobsOf hints units with
    | nil =>
      exact .inr ⟨[], ⟨by simp, .nil, by simp, by simp⟩, by simp, rfl, (List.append_nil _).symm,
        unclashed⟩
    | cons job rest =>
      refine .inl ⟨?_, rfl⟩
      rw [jobsOf] at jobs
      simp [jobs]
  | false =>
    simp only [generate, Bool.false_eq_true, if_false, bind_eq_ok, pure, Except.pure,
      Except.ok.injEq] at done
    obtain ⟨found, settled, rfl⟩ := done
    have candidateKeys : (((Scan.ofUnits units).candidates.mergeSort sortsBefore).map
        Scan.key).Nodup := (sorted.map Scan.key).nodup_iff.mpr scanned.keys
    have jobKeys := candidateKeys
    rw [← own, List.map_map] at jobKeys
    have order := collectedOrder_inOrder settled
      (reserveAll_distinct reachable.consistent candidateKeys) jobKeys
      (fun job member => scanned.kinds job.2 ((mem_jobsOf hints).mp ⟨job.1, member⟩))
    have shares := report_shares (Scan.ofUnits units).diagnostics (settle_length settled)
    exact .inr ⟨_, order, fun job => (collectedOrder_jobs (settle_length settled)).mem_iff.symm,
      shares.1, shares.2, unclashed⟩

/-- What becomes of clients that are generated under one name in one module. -/
structure NamesSettled (config : Config) (symbols : Symbols) (jobs : List (String × Candidate))
    (report : Report) : Prop where
  /-- Clients of one module have different names. -/
  apart : report.units.Pairwise fun first second =>
    ∀ one ∈ jobs, ∀ two ∈ jobs, ∀ name other, IsClient config symbols one name first →
      IsClient config symbols two other second →
      first.source.module = second.source.module → name ≠ other
  /-- Every unit is that of a client or of a serializer. -/
  origin : ∀ unit ∈ report.units, ∃ job ∈ jobs,
    (∃ name, IsClient config symbols job name unit) ∨ IsSerializer config job unit
  /-- A name has an owner. -/
  owned : report.cancelled = false → ∀ job ∈ jobs, ∀ name unit,
    IsClient config symbols job name unit →
    ∃ owner, Owns config symbols jobs owner job.2.identity.module name
  kept : report.cancelled = false → ∀ owner module name unit,
    Owns config symbols jobs owner module name → IsClient config symbols owner name unit →
    unit ∈ report.units ∧ collisions owner.2.identity report.diagnostics = []
  dropped : report.cancelled = false → ∀ job ∈ jobs, ∀ owner name unit,
    IsClient config symbols job name unit →
    Owns config symbols jobs owner job.2.identity.module name → job ≠ owner →
    report.units.countP (isFor job.2) = 0 ∧
      collisions job.2.identity report.diagnostics =
        [.ofDeclaration job.2.identity (.clientNameCollision name owner.2.identity.text)]
  /-- No client gives way that is alone with its name in its module. -/
  unshared : report.cancelled = false → ∀ job ∈ jobs, ∀ name unit,
    IsClient config symbols job name unit →
    (∀ other ∈ jobs, ∀ unit, IsClient config symbols other name unit →
      other.2.identity.module = job.2.identity.module → other = job) →
    unit ∈ report.units
  serializers : report.cancelled = false → ∀ job ∈ jobs, ∀ unit,
    IsSerializer config job unit → unit ∈ report.units

namespace Gathered

variable {config : Config} {symbols : Symbols} {jobs : List (String × Candidate)}
  {scanned : List Diagnostic} {worked : List Worked} {report : Report}

/-- A client stays in a report if it owns its name, and gives way to the owner otherwise. -/
theorem client_settled (gathered : Gathered config symbols jobs scanned worked report)
    {job : String × Candidate} (member : job ∈ jobs) {name : String} {unit : GeneratedUnit}
    (client : IsClient config symbols job name unit) :
    ∃ owner, Owns config symbols jobs owner job.2.identity.module name ∧
      (owner = job ∧ unit ∈ report.units ∧ collisions job.2.identity report.diagnostics = [] ∨
        owner ≠ job ∧ report.units.countP (isFor job.2) = 0 ∧
        collisions job.2.identity report.diagnostics =
          [.ofDeclaration job.2.identity (.clientNameCollision name owner.2.identity.text)]) := by
  have order := gathered.order
  obtain ⟨one, held, rfl⟩ := List.mem_map.mp ((gathered.jobs job).mp member)
  have processed := order.processed one held
  have kind : one.1.2.kind = .client := by
    obtain ⟨item, _, _, _, declared, -⟩ := client
    rw [order.kinds one held, declared]
    rfl
  have early : collisions one.1.2.identity scanned = [] :=
    collisions_eq_nil fun diagnostic found clash => by
      simp [gathered.unclashed diagnostic found] at clash
  have own : collisions one.1.2.identity one.2.diagnostics = [] :=
    collisions_eq_nil fun diagnostic found clash => by
      simp [process_isCollision processed diagnostic found] at clash
  obtain ⟨owner, owns, shared⟩ := order.client_share held client
  refine ⟨owner, owns.of_mem_iff fun job => (gathered.jobs job).symm, ?_⟩
  rw [gathered.units, gathered.diagnostics, collisions_append, early, List.nil_append]
  rcases shared with ⟨alone, share⟩ | ⟨other, share⟩
  · refine .inl ⟨alone, List.mem_filterMap.mpr ⟨_, share, rfl⟩, ?_⟩
    rw [order.collisions_shares share kind, own]
  · refine .inr ⟨other,
      units_count (sharesOf_accounted order.processed []) order.shares_keys share, ?_⟩
    rw [order.collisions_shares share kind, collisions_append, own]
    simp [collisions, Diagnostic.ofDeclaration, Problem.isCollision]

/-- A client with a unit in the report is the owner of its name. -/
theorem owns_of_mem (gathered : Gathered config symbols jobs scanned worked report)
    {job : String × Candidate} (member : job ∈ jobs) {name : String} {unit : GeneratedUnit}
    (client : IsClient config symbols job name unit) (present : unit ∈ report.units) :
    Owns config symbols jobs job job.2.identity.module name := by
  obtain ⟨owner, owns, ⟨rfl, -⟩ | ⟨-, missing, -⟩⟩ := gathered.client_settled member client
  · exact owns
  · have absent := List.countP_eq_zero.mp missing unit present
    simp [isFor, client.origin] at absent

theorem rising (gathered : Gathered config symbols jobs scanned worked report) :
    report.units.Pairwise fun first second => first.hint < second.hint := by
  have hints := congrArg (List.map Prod.fst) (sharesOf_jobs [] worked)
  rw [List.map_map, List.map_map] at hints
  rw [gathered.units]
  refine units_sorted ?_ (sharesOf_accounted gathered.order.processed [])
  exact hints ▸ List.pairwise_map.mpr gathered.order.rising

theorem origin (gathered : Gathered config symbols jobs scanned worked report)
    {unit : GeneratedUnit} (member : unit ∈ report.units) :
    ∃ job ∈ jobs,
      (∃ name, IsClient config symbols job name unit) ∨ IsSerializer config job unit := by
  obtain ⟨share, held, own⟩ := List.mem_filterMap.mp (gathered.units ▸ member)
  obtain ⟨one, worked, taken, rfl⟩ := mem_sharesOf held
  have present : one.2.unit = some unit := by
    simp only [Processed.contribution] at own
    grind
  refine ⟨one.1, (gathered.jobs _).mpr (List.mem_map_of_mem worked), ?_⟩
  rcases process_cases (gathered.order.processed one worked) with
    none | ⟨name, made, client, same, -⟩ | ⟨made, serializer, same, -⟩
  · simp [none] at present
  · obtain rfl : made = unit := by simpa [same] using present
    exact .inl ⟨name, client⟩
  · obtain rfl : made = unit := by simpa [same] using present
    exact .inr serializer

/-- Two clients of one name in one module would both be its owner. -/
theorem apart (gathered : Gathered config symbols jobs scanned worked report) :
    report.units.Pairwise fun first second =>
      ∀ one ∈ jobs, ∀ two ∈ jobs, ∀ name other, IsClient config symbols one name first →
        IsClient config symbols two other second →
        first.source.module = second.source.module → name ≠ other := by
  refine gathered.rising.imp_of_mem ?_
  rintro first second firstUnit secondUnit before one oneJob two twoJob name _ oneClient twoClient
    home rfl
  have oneOwns := gathered.owns_of_mem oneJob oneClient firstUnit
  have twoOwns := gathered.owns_of_mem twoJob twoClient secondUnit
  rw [← oneClient.origin.2.2, home, twoClient.origin.2.2] at oneOwns
  rw [oneClient.origin.1, twoClient.origin.1, oneOwns.unique twoOwns] at before
  exact String.lt_irrefl _ before

end Gathered

end Run

end Endpoint
