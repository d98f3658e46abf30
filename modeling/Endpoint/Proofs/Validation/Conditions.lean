import Endpoint.Proofs.Validation

/-!
What validation asks of a method, and which of its conditions a refused method breaks first. Main
statement: validation accepts exactly the methods whose parts fit together, and what it keeps of a
client it keeps for good.
-/

namespace Endpoint

theorem Role.placeholder?_eq_some_iff {role : Role} {name : String} :
    role.placeholder? = some name ↔ role = .route name := by
  cases role <;> simp [Role.placeholder?]

namespace MethodDefinition

/-! ### Placeholders -/

/-- One of the parameters stands for the placeholder. -/
def Binds (bindings : List Binding) (name : String) : Prop :=
  ∃ binding ∈ bindings, binding.role = .route name

/-- All route parameters have placeholders of their own. -/
structure OwnPlaceholders (route : Route) (bindings : List Binding) : Prop where
  used : ∀ name, Binds bindings name → .placeholder name ∈ route.segments
  apart : bindings.Pairwise fun first second =>
    ∀ name, first.role = .route name → second.role ≠ .route name

/-- The placeholders are those that parameters stand for, each of them once. -/
structure RouteFits (method : MethodDefinition) : Prop where
  bound : ∀ name, .placeholder name ∈ method.route.segments → Binds method.bindings name
  own : OwnPlaceholders method.route method.bindings

/-- The first placeholder without a parameter, or else the first route parameter without a
placeholder of its own. -/
inductive RouteFault (method : MethodDefinition) : Problem → Prop
  | unbound (before : List Route.Segment) (name : String) (behind : List Route.Segment)
      (split : method.route.segments = before ++ .placeholder name :: behind)
      (early : ∀ other, .placeholder other ∈ before → Binds method.bindings other)
      (lost : ¬Binds method.bindings name) : RouteFault method (.unboundPlaceholder name)
  | unused (before : List Binding) (binding : Binding) (behind : List Binding) (name : String)
      (bound : ∀ name, .placeholder name ∈ method.route.segments → Binds method.bindings name)
      (split : method.bindings = before ++ binding :: behind)
      (early : OwnPlaceholders method.route before) (role : binding.role = .route name)
      (late : .placeholder name ∉ method.route.segments ∨ Binds before name) :
      RouteFault method (.unusedRouteParameter binding.name)

theorem mem_boundPlaceholders (method : MethodDefinition) (name : String) :
    name ∈ method.boundPlaceholders ↔ Binds method.bindings name := by
  simp [boundPlaceholders, Binds, List.mem_filterMap, Role.placeholder?_eq_some_iff]

/-- The names that occur as placeholders are searched as if each stood once. -/
theorem find?_placeholders (route : Route) (p : String → Bool) :
    route.placeholders.find? p = (route.segments.filterMap Route.Segment.name?).find? p := by
  suffices general : ∀ names found : List String,
      (names.foldl (fun found name => if found.contains name then found else found ++ [name])
        found).find? p = (found.find? p).or (names.find? p) by
    simpa [Route.placeholders] using general (route.segments.filterMap Route.Segment.name?) []
  intro names
  induction names with
  | nil => simp
  | cons first rest ih =>
    intro found
    rw [List.foldl_cons, ih]
    by_cases known : first ∈ found
    · -- A name that is found again has been searched already.
      by_cases hit : p first = true
      · have early : (found.find? p).isSome := List.find?_isSome.mpr ⟨first, known, hit⟩
        simp [known, Option.or_of_isSome early]
      · simp [known, hit]
    · cases hit : p first <;> simp [known, hit, List.find?_append]

/-- The names that route parameters have taken, the latest first. -/
def takenNames (bindings : List Binding) : List String :=
  (bindings.filterMap (·.role.placeholder?)).reverse

theorem mem_takenNames (bindings : List Binding) (name : String) :
    name ∈ takenNames bindings ↔ Binds bindings name := by
  simp [takenNames, Binds, List.mem_filterMap, Role.placeholder?_eq_some_iff]

theorem takenNames_concat (bindings : List Binding) (binding : Binding) :
    takenNames (bindings ++ [binding]) = binding.role.placeholder?.toList ++ takenNames bindings := by
  cases bound : binding.role.placeholder? <;> simp [takenNames, bound]

/-- A parameter behind others with placeholders of their own has one too, exactly if it stands for a
placeholder that is in the route and not taken. -/
theorem ownPlaceholders_concat {route : Route} {done : List Binding} {binding : Binding} :
    OwnPlaceholders route (done ++ [binding]) ↔ OwnPlaceholders route done ∧
      ∀ name, binding.role = .route name →
        .placeholder name ∈ route.segments ∧ ¬Binds done name := by
  constructor
  · rintro ⟨used, apart⟩
    have ⟨before, _, across⟩ := List.pairwise_append.mp apart
    refine ⟨⟨fun name ⟨other, inside, role⟩ => ?_, before⟩, fun name role => ⟨?_, ?_⟩⟩
    · exact used name ⟨other, List.mem_append_left _ inside, role⟩
    · exact used name ⟨binding, by simp, role⟩
    · rintro ⟨other, inside, taken⟩
      exact across other inside binding (by simp) name taken role
  · rintro ⟨⟨used, apart⟩, own⟩
    refine ⟨?_, List.pairwise_append.mpr ⟨apart, List.pairwise_singleton .., ?_⟩⟩
    · rintro name ⟨other, inside, role⟩
      rcases List.mem_append.mp inside with before | last
      · exact used name ⟨other, before, role⟩
      · rw [List.mem_singleton.mp last] at role
        exact (own name role).1
    · intro other inside last member name taken role
      rw [List.mem_singleton.mp member] at role
      exact (own name role).2 ⟨other, inside, taken⟩

/-- The search for an unused parameter passes over parameters that have placeholders of their own. -/
theorem unusedParameter?_passes {route : Route} (done : List Binding) {before : List Binding}
    (own : OwnPlaceholders route (done ++ before)) (rest : List Binding) :
    unusedParameter? route.placeholders (takenNames done) (before ++ rest) =
      unusedParameter? route.placeholders (takenNames (done ++ before)) rest := by
  induction before generalizing done with
  | nil => simp
  | cons binding before ih =>
    rw [List.append_cons] at own ⊢
    rw [← ih _ own, List.cons_append, unusedParameter?, takenNames_concat]
    cases bound : binding.role.placeholder? with
    | none => rfl
    | some name =>
      have role := Role.placeholder?_eq_some_iff.mp bound
      have known : name ∈ route.placeholders :=
        (route.mem_placeholders name).mpr (own.used name ⟨binding, by simp, role⟩)
      have fresh : name ∉ takenNames done := by
        rw [mem_takenNames]
        rintro ⟨other, inside, taken⟩
        have across := (List.pairwise_append.mp (List.append_assoc .. ▸ own.apart)).2.2
        exact across other inside binding (by simp) name taken role
      simp [known, fresh]

/-- It stops at the first one that has none. -/
theorem unusedParameter?_stops {route : Route} {before behind : List Binding} {binding : Binding}
    {name : String} (own : OwnPlaceholders route before) (role : binding.role = .route name)
    (late : .placeholder name ∉ route.segments ∨ Binds before name) :
    unusedParameter? route.placeholders [] (before ++ binding :: behind) = some binding.name := by
  have passed := unusedParameter?_passes [] own (binding :: behind)
  rw [← Route.mem_placeholders, ← mem_takenNames] at late
  have odd : (!route.placeholders.contains name || (takenNames before).contains name) = true := by
    simpa using late
  rw [show takenNames [] = [] from rfl, List.nil_append] at passed
  rw [passed, unusedParameter?, role, Role.placeholder?]
  simp only [odd, if_true]

/-- All placeholders have parameters, or there is a first one that has none. -/
theorem bound_or_first (bindings : List Binding) (segments : List Route.Segment) :
    (∀ name, .placeholder name ∈ segments → Binds bindings name) ∨
      ∃ before name behind, segments = before ++ .placeholder name :: behind ∧
        (∀ other, .placeholder other ∈ before → Binds bindings other) ∧ ¬Binds bindings name := by
  have step (done : List Route.Segment) (segment : Route.Segment)
      (early : ∀ name, .placeholder name ∈ done → Binds bindings name) :
      (∀ name, .placeholder name ∈ done ++ [segment] → Binds bindings name) ∨
        ∃ name, segment = .placeholder name ∧ ¬Binds bindings name := by
    by_cases odd : ∃ name, segment = .placeholder name ∧ ¬Binds bindings name
    · exact .inr odd
    · refine .inl fun name member => ?_
      rcases List.mem_append.mp member with before | last
      · exact early name before
      · by_contra lost
        exact odd ⟨name, (List.mem_singleton.mp last).symm, lost⟩
  rcases sound_or_first step segments (by simp) with
    bound | ⟨before, _, behind, split, early, name, rfl, lost⟩
  · exact .inl bound
  · exact .inr ⟨before, name, behind, split, early, lost⟩

/-- All route parameters have placeholders of their own, or there is a first one that has none. -/
theorem own_or_first (route : Route) (bindings : List Binding) :
    OwnPlaceholders route bindings ∨
      ∃ before binding behind name, bindings = before ++ binding :: behind ∧
        OwnPlaceholders route before ∧ binding.role = .route name ∧
        (.placeholder name ∉ route.segments ∨ Binds before name) := by
  have step (done : List Binding) (binding : Binding) (own : OwnPlaceholders route done) :
      OwnPlaceholders route (done ++ [binding]) ∨ ∃ name, binding.role = .route name ∧
        (.placeholder name ∉ route.segments ∨ Binds done name) := by
    by_cases odd : ∃ name, binding.role = .route name ∧
        (.placeholder name ∉ route.segments ∨ Binds done name)
    · exact .inr odd
    · refine .inl (ownPlaceholders_concat.mpr ⟨own, fun name role => ?_⟩)
      by_contra late
      exact odd ⟨name, role, by tauto⟩
  rcases sound_or_first step bindings ⟨by simp [Binds], .nil⟩ with
    own | ⟨before, binding, behind, split, early, name, role, late⟩
  · exact .inl own
  · exact .inr ⟨before, binding, behind, name, split, early, role, late⟩

theorem find?_unbound_eq_none {method : MethodDefinition}
    (bound : ∀ name, .placeholder name ∈ method.route.segments → Binds method.bindings name) :
    method.route.placeholders.find? (!method.boundPlaceholders.contains ·) = none := by
  refine List.find?_eq_none.mpr fun name used => ?_
  simpa [mem_boundPlaceholders] using bound name ((method.route.mem_placeholders name).mp used)

theorem find?_unbound_eq_some {method : MethodDefinition} {before behind : List Route.Segment}
    {name : String} (split : method.route.segments = before ++ .placeholder name :: behind)
    (early : ∀ other, .placeholder other ∈ before → Binds method.bindings other)
    (lost : ¬Binds method.bindings name) :
    method.route.placeholders.find? (!method.boundPlaceholders.contains ·) = some name := by
  rw [find?_placeholders, split, List.find?_eq_some_iff_append]
  refine ⟨by simpa [mem_boundPlaceholders] using lost, before.filterMap Route.Segment.name?,
    behind.filterMap Route.Segment.name?, by simp [Route.Segment.name?], fun other member => ?_⟩
  obtain ⟨segment, inside, named⟩ := List.mem_filterMap.mp member
  cases segment with
  | literal text => cases named
  | placeholder name =>
    cases named
    simpa [mem_boundPlaceholders] using early _ inside

theorem checkRoute_exact (method : MethodDefinition) :
    Exactly method.checkRoute (fun _ => method.RouteFits) method.RouteFault := by
  refine .of_cases ?passes ?breaks ?either
  case passes =>
    intro _ fits
    have passed := unusedParameter?_passes [] fits.own []
    rw [List.append_nil, show takenNames [] = [] from rfl, List.nil_append] at passed
    simp only [checkRoute, find?_unbound_eq_none fits.bound, passed]
    rfl
  case breaks =>
    rintro _ (⟨before, name, behind, split, early, lost⟩ |
      ⟨before, binding, behind, name, bound, split, early, role, late⟩)
    · simp only [checkRoute, find?_unbound_eq_some split early lost]
    · simp only [checkRoute, find?_unbound_eq_none bound, split,
        unusedParameter?_stops early role late]
  case either =>
    rcases bound_or_first method.bindings method.route.segments with
      bound | ⟨before, name, behind, split, early, lost⟩
    · rcases own_or_first method.route method.bindings with
        own | ⟨before, binding, behind, name, split, early, role, late⟩
      · exact .inl ⟨(), bound, own⟩
      · exact .inr ⟨_, .unused before binding behind name bound split early role late⟩
    · exact .inr ⟨_, .unbound before name behind split early lost⟩

/-! ### Body and cancellation -/

/-- At most one parameter is the body. -/
def BodyFits (method : MethodDefinition) : Prop := method.bindings.countP (·.role.isBody) ≤ 1

/-- The first two bodies. -/
inductive BodyFault (method : MethodDefinition) : Problem → Prop
  | repeated (before : List Binding) (first : Binding) (between : List Binding) (second : Binding)
      (behind : List Binding)
      (split : method.bindings = before ++ first :: (between ++ second :: behind))
      (bodies : first.role = .body ∧ second.role = .body)
      (early : ∀ other ∈ before ++ between, other.role ≠ .body) :
      BodyFault method (.duplicateBody first.name second.name)

theorem isBody_iff {role : Role} : role.isBody = true ↔ role = .body := by
  cases role <;> simp [Role.isBody]

theorem checkBody_exact (method : MethodDefinition) :
    Exactly method.checkBody (fun _ => method.BodyFits) method.BodyFault := by
  refine .of_cases ?passes ?breaks ?either
  case passes =>
    intro _ fits
    rw [BodyFits, List.countP_eq_length_filter] at fits
    unfold checkBody
    match bodies : method.bindings.filter (·.role.isBody) with
    | [] => simp [bodies]
    | [_] => simp [bodies]
    | _ :: _ :: _ => simp [bodies] at fits
  case breaks =>
    rintro _ ⟨before, first, between, second, behind, split, ⟨one, two⟩, early⟩
    have none : ∀ other ∈ before ++ between, ¬other.role.isBody = true :=
      fun other member => isBody_iff.not.mpr (early other member)
    have bodies : method.bindings.filter (·.role.isBody) =
        first :: second :: behind.filter (·.role.isBody) := by
      simp only [List.mem_append, or_imp, forall_and] at none
      simp [split, isBody_iff.mpr one, isBody_iff.mpr two,
        List.filter_eq_nil_iff.mpr none.1, List.filter_eq_nil_iff.mpr none.2]
    simp only [checkBody, bodies, List.map_cons]
  case either =>
    match bodies : method.bindings.filter (·.role.isBody) with
    | [] | [_] =>
      refine .inl ⟨(), ?_⟩
      rw [BodyFits, List.countP_eq_length_filter, bodies]
      simp
    | first :: second :: rest =>
      obtain ⟨before, more, split, early, one, further⟩ := List.filter_eq_cons_iff.mp bodies
      obtain ⟨between, behind, rfl, late, two, _⟩ := List.filter_eq_cons_iff.mp further
      refine .inr ⟨_, .repeated before first between second behind split
        ⟨isBody_iff.mp one, isBody_iff.mp two⟩ fun other member => isBody_iff.not.mp ?_⟩
      rcases List.mem_append.mp member with front | middle
      · exact early other front
      · exact late other middle

/-- There is no cancellation, or one that stands last. -/
inductive CancellationFits (method : MethodDefinition) : Prop
  | none (absent : ∀ binding ∈ method.bindings, ¬binding.role.isCancellation)
  | last (before : List Binding) (binding : Binding) (split : method.bindings = before ++ [binding])
      (role : binding.role.isCancellation) (absent : ∀ other ∈ before, ¬other.role.isCancellation)

/-- The one cancellation does not stand last, or there are several. -/
inductive CancellationFault (method : MethodDefinition) : Problem → Prop
  | early (before : List Binding) (binding : Binding) (behind : List Binding)
      (split : method.bindings = before ++ binding :: behind)
      (role : binding.role.isCancellation)
      (absent : ∀ other ∈ before ++ behind, ¬other.role.isCancellation) (later : behind ≠ []) :
      CancellationFault method (.cancellationNotTrailing binding.name)
  | repeated (several : 2 ≤ method.bindings.countP (·.role.isCancellation)) :
      CancellationFault method .duplicateCancellation

theorem filter_eq_singleton_iff {p : α → Bool} {members : List α} {member : α} :
    members.filter p = [member] ↔ ∃ before behind, members = before ++ member :: behind ∧
      p member = true ∧ ∀ other ∈ before ++ behind, ¬p other = true := by
  rw [List.filter_eq_cons_iff]
  simp only [List.filter_eq_nil_iff, List.mem_append, or_imp, forall_and]
  tauto

/-- With one cancellation among the parameters, the check asks whether it is the last of them. -/
theorem checkCancellation_single {method : MethodDefinition} {before behind : List Binding}
    {binding : Binding} (split : method.bindings = before ++ binding :: behind)
    (role : binding.role.isCancellation)
    (absent : ∀ other ∈ before ++ behind, ¬other.role.isCancellation) :
    method.checkCancellation =
      if behind = [] then .ok () else .error (.cancellationNotTrailing binding.name) := by
  have alone := filter_eq_singleton_iff.mpr ⟨before, behind, split, role, absent⟩
  unfold checkCancellation
  rw [alone, split]
  rcases List.eq_nil_or_concat behind with rfl | ⟨front, last, rfl⟩
  · simp [role]
  · have passed : last.role.isCancellation = false := by simpa using absent last (by simp)
    rw [List.concat_eq_append, ← List.cons_append, ← List.append_assoc, List.getLast?_concat]
    simp [passed]

theorem checkCancellation_exact (method : MethodDefinition) :
    Exactly method.checkCancellation (fun _ => method.CancellationFits)
      method.CancellationFault := by
  refine .of_cases ?passes ?breaks ?either
  case passes =>
    rintro _ (absent | ⟨before, binding, split, role, absent⟩)
    · simp only [checkCancellation, List.filter_eq_nil_iff.mpr absent]
    · exact checkCancellation_single split role (by simpa using absent)
  case breaks =>
    rintro _ (⟨before, binding, behind, split, role, absent, later⟩ | several)
    · rw [checkCancellation_single split role absent, if_neg later]
    · rw [List.countP_eq_length_filter] at several
      unfold checkCancellation
      match tokens : method.bindings.filter (·.role.isCancellation) with
      | [] => simp [tokens] at several
      | [_] => simp [tokens] at several
      | _ :: _ :: _ => simp [tokens]
  case either =>
    match tokens : method.bindings.filter (·.role.isCancellation) with
    | [] => exact .inl ⟨(), .none (List.filter_eq_nil_iff.mp tokens)⟩
    | [binding] =>
      obtain ⟨before, behind, split, role, absent⟩ := filter_eq_singleton_iff.mp tokens
      by_cases later : behind = []
      · subst later
        exact .inl ⟨(), .last before binding split role (by simpa using absent)⟩
      · exact .inr ⟨_, .early before binding behind split role absent later⟩
    | _ :: _ :: _ =>
      refine .inr ⟨_, .repeated ?_⟩
      rw [List.countP_eq_length_filter, tokens]
      simp

/-! ### Keys and errors -/

/-- The keys that a method sends, as text. -/
def keyTexts (method : MethodDefinition) : List String := method.queryKeys.map QueryKey.key

/-- The first key that is sent again. -/
inductive KeyFault (method : MethodDefinition) : Problem → Prop
  | repeated (before : List String) (key : String) (behind : List String)
      (split : method.keyTexts = before ++ key :: behind) (early : before.Nodup)
      (again : key ∈ before) : KeyFault method (.duplicateQueryKey key)

/-- The search for a repeated member passes over members that are all different. -/
theorem firstRepeated?_passes [BEq α] [LawfulBEq α] (done before : List α)
    (distinct : (done ++ before).Nodup) (rest : List α) :
    firstRepeated? done.reverse (before ++ rest) = firstRepeated? (done ++ before).reverse rest := by
  induction before generalizing done with
  | nil => simp
  | cons member before ih =>
    have fresh : member ∉ done := by
      intro again
      exact (List.nodup_append.mp distinct).2.2 member again member (by simp) rfl
    rw [List.append_cons] at distinct ⊢
    rw [← ih _ distinct, List.cons_append, firstRepeated?]
    simp [fresh]

theorem nodup_or_first [DecidableEq α] (members : List α) :
    members.Nodup ∨ ∃ before member behind, members = before ++ member :: behind ∧
      before.Nodup ∧ member ∈ before := by
  have step (done : List α) (member : α) (distinct : done.Nodup) :
      (done ++ [member]).Nodup ∨ member ∈ done := by
    by_cases again : member ∈ done
    · exact .inr again
    · exact .inl (by simpa using List.Nodup.concat again distinct)
  exact sound_or_first step members .nil

theorem checkKeys_exact (method : MethodDefinition) :
    Exactly method.checkKeys (fun _ => method.keyTexts.Nodup) method.KeyFault := by
  refine .of_cases ?passes ?breaks ?either
  case passes =>
    intro _ distinct
    have passed := firstRepeated?_passes [] method.keyTexts distinct []
    rw [List.append_nil, List.nil_append, List.reverse_nil] at passed
    rw [checkKeys, ← keyTexts, passed, firstRepeated?]
  case breaks =>
    rintro _ ⟨before, key, behind, split, early, again⟩
    have passed := firstRepeated?_passes [] before early (key :: behind)
    rw [List.nil_append, List.reverse_nil] at passed
    rw [checkKeys, ← keyTexts, split, passed, firstRepeated?]
    simp [again]
  case either =>
    rcases nodup_or_first method.keyTexts with distinct | ⟨before, key, behind, split, early, again⟩
    · exact .inl ⟨(), distinct⟩
    · exact .inr ⟨_, .repeated before key behind split early again⟩

/-- A value comes with a channel for errors. -/
def ErrorsFit (method : MethodDefinition) : Prop :=
  method.returns.value.isSome → method.returns.error ≠ .none

theorem checkErrors_exact (method : MethodDefinition) :
    Exactly method.checkErrors (fun _ => method.ErrorsFit)
      (fun problem => ¬method.ErrorsFit ∧ problem = .missingErrorChannel) := by
  unfold checkErrors ErrorsFit
  cases method.returns.error <;> cases method.returns.value <;>
    constructor <;> simp [ErrorChannel.isNone, eq_comm]

/-! ### Validation -/

/-- The parts of a method fit together. -/
structure Fits (method : MethodDefinition) : Prop where
  route : method.RouteFits
  body : method.BodyFits
  cancellation : method.CancellationFits
  keys : method.keyTexts.Nodup
  errors : method.ErrorsFit

/-- The first condition that a method breaks, with what its diagnostic names. -/
inductive FirstFault (method : MethodDefinition) : Problem → Prop
  | route {problem : Problem} (fault : method.RouteFault problem) : FirstFault method problem
  | body {problem : Problem} (route : method.RouteFits) (fault : method.BodyFault problem) :
      FirstFault method problem
  | cancellation {problem : Problem} (route : method.RouteFits) (body : method.BodyFits)
      (fault : method.CancellationFault problem) : FirstFault method problem
  | keys {problem : Problem} (route : method.RouteFits) (body : method.BodyFits)
      (cancellation : method.CancellationFits) (fault : method.KeyFault problem) :
      FirstFault method problem
  | errors (route : method.RouteFits) (body : method.BodyFits)
      (cancellation : method.CancellationFits) (keys : method.keyTexts.Nodup)
      (fault : ¬method.ErrorsFit) : FirstFault method .missingErrorChannel

theorem validate_exact (method : MethodDefinition) :
    Exactly method.validate (fun _ => method.Fits) method.FirstFault := by
  refine Exactly.congr (method.checkRoute_exact.bind fun _ _ => method.checkBody_exact.bind
    fun _ _ => method.checkCancellation_exact.bind fun _ _ => method.checkKeys_exact.bind
    fun _ _ => method.checkErrors_exact) (fun _ => ⟨?_, ?_⟩) (fun problem => ⟨?_, ?_⟩)
  · rintro ⟨_, route, _, body, _, cancellation, _, keys, errors⟩
    exact ⟨route, body, cancellation, keys, errors⟩
  · rintro ⟨route, body, cancellation, keys, errors⟩
    exact ⟨(), route, (), body, (), cancellation, (), keys, errors⟩
  · rintro (fault | ⟨_, route, fault | ⟨_, body, fault | ⟨_, cancellation, fault |
      ⟨_, keys, fault, rfl⟩⟩⟩⟩)
    · exact .route fault
    · exact .body route fault
    · exact .cancellation route body fault
    · exact .keys route body cancellation fault
    · exact .errors route body cancellation keys fault
  · rintro (fault | ⟨route, fault⟩ | ⟨route, body, fault⟩ | ⟨route, body, cancellation, fault⟩ |
      ⟨route, body, cancellation, keys, fault⟩)
    · exact .inl fault
    · exact .inr ⟨(), route, .inl fault⟩
    · exact .inr ⟨(), route, .inr ⟨(), body, .inl fault⟩⟩
    · exact .inr ⟨(), route, .inr ⟨(), body, .inr ⟨(), cancellation, .inl fault⟩⟩⟩
    · exact .inr ⟨(), route, .inr ⟨(), body, .inr ⟨(), cancellation, .inr ⟨(), keys, fault, rfl⟩⟩⟩⟩

end MethodDefinition

/-! ### Clients -/

/-- Methods, those of them that are kept, and the diagnostics of the others, all in order. -/
inductive Sifted (identity : Identity) :
    List MethodDefinition → List MethodDefinition → List Diagnostic → Prop
  | nil : Sifted identity [] [] []
  | kept {method : MethodDefinition} {rest left : List MethodDefinition}
      {diagnostics : List Diagnostic} (fits : method.Fits)
      (behind : Sifted identity rest left diagnostics) :
      Sifted identity (method :: rest) (method :: left) diagnostics
  | removed {method : MethodDefinition} {problem : Problem} {rest left : List MethodDefinition}
      {diagnostics : List Diagnostic} (fault : method.FirstFault problem)
      (behind : Sifted identity rest left diagnostics) :
      Sifted identity (method :: rest) left
        (.ofMember identity method.name problem :: diagnostics)

theorem sifted (identity : Identity) (methods : List MethodDefinition) :
    Sifted identity methods (methods.filter MethodDefinition.isValid)
      (methods.filterMap (MethodDefinition.diagnostic? identity)) := by
  induction methods with
  | nil => exact .nil
  | cons method rest ih =>
    cases checked : method.validate with
    | ok _ =>
      have fits := (method.validate_exact.ok ()).mp checked
      simpa [MethodDefinition.isValid, MethodDefinition.diagnostic?, checked] using ih.kept fits
    | error problem =>
      have fault := (method.validate_exact.error problem).mp checked
      simpa [MethodDefinition.isValid, MethodDefinition.diagnostic?, checked] using ih.removed fault

/-- Methods that are kept are kept again, and give no diagnostics. -/
theorem ClientDefinition.validate_again (client : ClientDefinition) :
    client.validate.1.validate = (client.validate.1, []) := by
  have silent : (client.methods.filter MethodDefinition.isValid).filterMap
      (MethodDefinition.diagnostic? client.identity) = [] := by
    refine List.filterMap_eq_nil_iff.mpr fun method member => ?_
    have valid := (List.mem_filter.mp member).2
    cases checked : method.validate <;>
      simp_all [MethodDefinition.isValid, MethodDefinition.diagnostic?]
  simp [ClientDefinition.validate, silent]

/-- Validation accepts exactly the methods whose parts fit together, and refuses each other one for
the first condition that it breaks. Of a client it keeps exactly the former, as they are and in
order, and gives one diagnostic for each of the latter; what it has kept it keeps again. -/
theorem validate_sifts :
    (∀ method : MethodDefinition, (method.validate = .ok () ↔ method.Fits) ∧
      ∀ problem, method.validate = .error problem ↔ method.FirstFault problem) ∧
    ∀ client : ClientDefinition,
      client.validate.1 = { client with methods := client.validate.1.methods } ∧
      Sifted client.identity client.methods client.validate.1.methods client.validate.2 ∧
      client.validate.1.validate = (client.validate.1, []) := by
  refine ⟨fun method => ⟨method.validate_exact.ok (), method.validate_exact.error⟩,
    fun client => ⟨rfl, ?_, client.validate_again⟩⟩
  exact sifted client.identity client.methods

end Endpoint
