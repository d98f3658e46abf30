import Endpoint.Emission.Client
import Endpoint.Proofs.Emission.Plan
import Endpoint.Proofs.Lowering.Client
import Endpoint.Proofs.Source.TypeNames

/-!
What the names in an emitted implementation refer to. A body declares locals of its own, and an
implementation type parameters of its own; each stands in front of whatever has the same name in
the declaration.
-/

namespace Endpoint.Emission

open Source (Ident Token Tokens)

/-! ### Names in a body -/

/-- What a name in a body refers to: a parameter of the method, or a local of the body. -/
inductive Reference
  | argument (parameter : Ident)
  | emitted (name : String)
deriving DecidableEq, Repr

/-- What a mention of a parameter refers to where the locals are in scope. -/
def refer (locals : List String) (parameter : Ident) : Reference :=
  if parameter.text ∈ locals then .emitted parameter.text else .argument parameter

/-- The local that a statement declares for those behind it. -/
def Statement.declared? : Statement → Option String
  | .letPath .. => some "path"
  | .letQuery => some "query"
  | _ => none

/-- The parameter that a statement mentions. Where a field is pushed from behind an option, the
parameter stands in front of the block in which the value is bound. -/
def Statement.mentioned? : Statement → Option Ident
  | .pushValue parameter => some parameter
  | .pushQuery _ parameter _ _ => some parameter
  | _ => none

def Attachment.mentioned : Attachment → Ident
  | .body parameter => parameter
  | .cancellation parameter => parameter

/-- The locals that are in scope behind statements. -/
def localsBehind (locals : List String) (statements : List Statement) : List String :=
  statements.filterMap Statement.declared? ++ locals

/-- What the parameters that statements mention refer to. -/
def referencesFrom (locals : List String) : List Statement → List Reference
  | [] => []
  | statement :: rest =>
    (statement.mentioned?.map (refer locals)).toList ++
      referencesFrom (statement.declared?.toList ++ locals) rest

/-- What the parameters that a plan mentions refer to, in order. -/
def Plan.references (held : Plan) : List Reference :=
  referencesFrom [] held.statements ++
    held.attachments.map fun attachment =>
      refer (localsBehind [] held.statements) attachment.mentioned

/-- The parameters that a plan mentions, in order. -/
def Plan.mentioned (held : Plan) : List Ident :=
  held.statements.filterMap Statement.mentioned? ++ held.attachments.map Attachment.mentioned

/-- The local that tokens declare first. -/
def declaredLocal? : Tokens → Option Ident
  | .ident word :: .ident next :: rest =>
    if word = .plain "let" then
      if next = .plain "mut" then
        match rest with
        | .ident name :: _ => some name
        | _ => none
      else some next
    else none
  | _ => none

/-- The local of a statement is the one that its tokens declare. -/
theorem Statement.declared?_tokens (context : Context) (statement : Statement) :
    declaredLocal? (statement.tokens context) = statement.declared?.map .plain := by
  cases statement with
  | letPath isMutable initial => cases isMutable <;> rfl
  | pushQuery key parameter access policy => cases access <;> rfl
  | _ => rfl

/-! ### Names in an implementation -/

/-- The names behind commas up to the end of angle brackets. -/
def furtherParameters : Tokens → List Ident
  | .punct '>' _ :: _ => []
  | .punct ',' _ :: .ident name :: rest => name :: furtherParameters rest
  | _ :: rest => furtherParameters rest
  | [] => []

/-- The names that the first angle brackets in tokens declare. -/
def implementationParameters : Tokens → List Ident
  | .punct '<' _ :: .ident name :: rest => name :: furtherParameters rest
  | _ :: rest => implementationParameters rest
  | [] => []

theorem implementationParameters_traitTokens (context : Context) (client : ClientDefinition) :
    implementationParameters (traitTokens context client) = [.plain "T", .plain "C"] := by
  cases unsafeMark : client.isUnsafe <;> simp only [traitTokens, unsafeMark] <;> rfl

/-- A method of a client that no emitted name takes a name from: all mentions of parameters refer
to the parameters, and no type that the signature names has the name of a parameter of the
implementation. -/
structure Hygienic (context : Context) (client : ClientDefinition) (method : MethodDefinition) :
    Prop where
  arguments : (plan context.query method).references =
    (plan context.query method).mentioned.map Reference.argument
  types : ∀ name ∈ method.signature.typeNames,
    ∀ taken ∈ implementationParameters (traitTokens context client), name.text ≠ taken.text

/-! ### References of a plan -/

theorem refer_eq_argument_iff (locals : List String) (parameter : Ident) :
    refer locals parameter = .argument parameter ↔ parameter.text ∉ locals := by
  unfold refer
  split <;> simp_all

/-- The parameter whose value a piece is. -/
def Piece.value? : Piece → Option Ident
  | .text _ => none
  | .value parameter => some parameter

theorem referencesFrom_pieces (locals : List String) (pieces : List Piece)
    (rest : List Statement) :
    referencesFrom locals (pieces.map Piece.statement ++ rest) =
      (pieces.filterMap Piece.value?).map (refer locals) ++ referencesFrom locals rest := by
  induction pieces with
  | nil => rfl
  | cons piece pieces ih =>
    cases piece <;>
      simp [Piece.statement, Piece.value?, referencesFrom, Statement.mentioned?,
        Statement.declared?, List.filterMap_cons, ih]

theorem referencesFrom_pushes (locals : List String) (pushes : List QueryPush)
    (rest : List Statement) :
    referencesFrom locals (pushes.map QueryPush.statement ++ rest) =
      (pushes.map QueryPush.parameter).map (refer locals) ++ referencesFrom locals rest := by
  induction pushes with
  | nil => rfl
  | cons push pushes ih =>
    simp [QueryPush.statement, referencesFrom, Statement.mentioned?, Statement.declared?, ih]

/-- The locals in scope behind the query: the query itself is one if there is any. -/
def Parts.locals (parts : Parts) : List String :=
  if parts.pushes.isEmpty then ["path"] else ["path", "query"]

theorem queryBlock_references (pushes : List QueryPush) :
    referencesFrom ["path"] (queryBlock pushes) =
      (pushes.map QueryPush.parameter).map (refer ["query", "path"]) := by
  cases pushes with
  | nil => rfl
  | cons push rest =>
    have all := referencesFrom_pushes ["query", "path"] (push :: rest) [.pushFinished]
    simpa [queryBlock, referencesFrom, Statement.mentioned?, Statement.declared?] using all

theorem declared_pieces (pieces : List Piece) :
    (pieces.map Piece.statement).filterMap Statement.declared? = [] := by
  rw [List.filterMap_eq_nil_iff]
  intro statement member
  obtain ⟨piece, _, rfl⟩ := List.mem_map.mp member
  cases piece <;> rfl

theorem declared_pushes (pushes : List QueryPush) :
    (pushes.map QueryPush.statement).filterMap Statement.declared? = [] := by
  rw [List.filterMap_eq_nil_iff]
  intro statement member
  obtain ⟨push, _, rfl⟩ := List.mem_map.mp member
  rfl

theorem Parts.localsBehind_plan (parts : Parts) :
    localsBehind [] parts.plan.statements = parts.locals := by
  have block : (queryBlock parts.pushes).filterMap Statement.declared? =
      if parts.pushes.isEmpty then [] else ["query"] := by
    cases shape : parts.pushes with
    | nil => rfl
    | cons push rest =>
      have pushes := declared_pushes (push :: rest)
      simp only [queryBlock, List.filterMap_cons, Statement.declared?, List.filterMap_append, pushes]
      rfl
  simp only [localsBehind, Parts.plan, List.filterMap_cons, Statement.declared?,
    List.filterMap_append, declared_pieces, block, Parts.locals]
  split <;> rfl

/-- What a plan refers to, part by part. -/
theorem Parts.references_plan (parts : Parts) :
    parts.plan.references =
      (parts.pieces.filterMap Piece.value?).map (refer ["path"]) ++
        (parts.pushes.map QueryPush.parameter).map (refer ["query", "path"]) ++
          (parts.attachments.map Attachment.mentioned).map (refer parts.locals) := by
  have statements : referencesFrom [] parts.plan.statements =
      (parts.pieces.filterMap Piece.value?).map (refer ["path"]) ++
        (parts.pushes.map QueryPush.parameter).map (refer ["query", "path"]) := by
    rw [← queryBlock_references, ← referencesFrom_pieces]
    rfl
  have attached : parts.plan.attachments.map
      (fun attachment => refer parts.locals attachment.mentioned) =
        (parts.attachments.map Attachment.mentioned).map (refer parts.locals) := by
    rw [List.map_map]
    rfl
  rw [Plan.references, statements, parts.localsBehind_plan, attached]

theorem mentioned_pieces (pieces : List Piece) :
    (pieces.map Piece.statement).filterMap Statement.mentioned? =
      pieces.filterMap Piece.value? := by
  rw [List.filterMap_map]
  congr
  funext piece
  cases piece <;> rfl

theorem mentioned_queryBlock (pushes : List QueryPush) :
    (queryBlock pushes).filterMap Statement.mentioned? = pushes.map QueryPush.parameter := by
  cases pushes with
  | nil => rfl
  | cons push rest =>
    have all : ((push :: rest).map QueryPush.statement).filterMap Statement.mentioned? =
        (push :: rest).map QueryPush.parameter := by
      rw [List.filterMap_map, ← List.filterMap_eq_map]
      rfl
    simp only [queryBlock, List.filterMap_cons, Statement.mentioned?, List.filterMap_append, all]
    simp

/-- What a plan mentions, part by part. -/
theorem Parts.mentioned_plan (parts : Parts) :
    parts.plan.mentioned =
      parts.pieces.filterMap Piece.value? ++ parts.pushes.map QueryPush.parameter ++
        parts.attachments.map Attachment.mentioned := by
  simp only [Plan.mentioned, Parts.plan, List.filterMap_cons, Statement.mentioned?,
    List.filterMap_append, mentioned_pieces, mentioned_queryBlock]

theorem Parts.not_mem_locals (parts : Parts) (name : String) :
    name ∉ parts.locals ↔ name ≠ "path" ∧ (parts.pushes ≠ [] → name ≠ "query") := by
  unfold Parts.locals
  cases parts.pushes with
  | nil => simp
  | cons push rest => simp

/-- All mentions in a plan refer to parameters when no part mentions a local in scope. -/
theorem Parts.references_eq_iff (parts : Parts) :
    parts.plan.references = parts.plan.mentioned.map Reference.argument ↔
      (∀ parameter ∈ parts.pieces.filterMap Piece.value?, parameter.text ≠ "path") ∧
      (∀ parameter ∈ parts.pushes.map QueryPush.parameter,
        parameter.text ≠ "path" ∧ parameter.text ≠ "query") ∧
      ∀ parameter ∈ parts.attachments.map Attachment.mentioned,
        parameter.text ≠ "path" ∧ (parts.pushes ≠ [] → parameter.text ≠ "query") := by
  have each (locals : List String) (mentioned : List Ident) :
      mentioned.map (refer locals) = mentioned.map Reference.argument ↔
        ∀ parameter ∈ mentioned, parameter.text ∉ locals := by
    simp only [List.map_inj_left, refer_eq_argument_iff]
  have inPath (name : String) : name ≠ "path" ↔ name ∉ ["path"] := by simp
  have inQuery (name : String) : name ≠ "path" ∧ name ≠ "query" ↔ name ∉ ["query", "path"] := by
    simp [and_comm]
  simp only [inQuery, ← parts.not_mem_locals]
  simp only [inPath]
  rw [parts.references_plan, parts.mentioned_plan, List.map_append, List.map_append,
    ← each, ← each, ← each]
  constructor
  · intro same
    obtain ⟨front, attached⟩ := List.append_inj same (by simp)
    obtain ⟨pieces, pushes⟩ := List.append_inj front (by simp)
    exact ⟨pieces, pushes, attached⟩
  · rintro ⟨pieces, pushes, attached⟩
    rw [pieces, pushes, attached]

/-! ### References of a method -/

/-- Whether the emitted body mentions the parameter: all but one of a type without fields are. -/
def isMentioned (binding : Binding) : Bool :=
  match binding.role with
  | .query [] _ => false
  | _ => true

theorem placeholder_mem_splitInitial (segments : List Route.Segment) (name : String) :
    .placeholder name ∈ (splitInitial segments).2 ↔ .placeholder name ∈ segments := by
  match segments with
  | [] => rfl
  | .literal text :: rest => simp [splitInitial]
  | .placeholder other :: rest => rfl

/-- A placeholder of a validated method stands for the parameter that is bound to it. -/
theorem routeParameter_eq {method : MethodDefinition} (checked : method.Checked)
    {binding : Binding} (member : binding ∈ method.bindings) {name : String}
    (role : binding.role = .route name) :
    routeParameter method.bindings name = binding.parameter := by
  obtain ⟨only, all⟩ := checked.binding (checked.used member role)
  have same : binding = only := by
    have held : binding ∈ method.bindings.filter fun binding => binding.role == .route name :=
      List.mem_filter.mpr ⟨member, by simp [role]⟩
    rw [all] at held
    exact List.mem_singleton.mp held
  have found : method.bindings.find? (fun binding => binding.role == .route name) =
      some binding := by
    rw [← List.head?_filter, all, same]
    rfl
  simp [routeParameter, found]

/-- The values in the path of a validated method are its route parameters. -/
theorem partsOf_values (query : QueryPolicy) {method : MethodDefinition}
    (checked : method.Checked) (parameter : Ident) :
    parameter ∈ (partsOf query method).pieces.filterMap Piece.value? ↔
      ∃ binding ∈ method.bindings, binding.role.placeholder?.isSome = true ∧
        binding.parameter = parameter := by
  simp only [partsOf, List.filterMap_map, List.mem_filterMap, Function.comp]
  constructor
  · rintro ⟨segment, member, value⟩
    cases segment with
    | literal text => cases value
    | placeholder name =>
      have used := (placeholder_mem_splitInitial _ name).mp member
      obtain ⟨binding, all⟩ := checked.binding used
      have held : binding ∈ method.bindings.filter fun binding => binding.role == .route name :=
        all ▸ List.mem_singleton_self binding
      obtain ⟨bound, role⟩ := List.mem_filter.mp held
      have role : binding.role = .route name := by simpa using role
      refine ⟨binding, bound, by simp [role, Role.placeholder?], ?_⟩
      rw [← routeParameter_eq checked bound role]
      simpa [segmentPiece, Piece.value?] using value
  · rintro ⟨binding, member, routed, rfl⟩
    cases role : binding.role with
    | route name =>
      refine ⟨.placeholder name,
        (placeholder_mem_splitInitial _ name).mpr (checked.used member role), ?_⟩
      simp [segmentPiece, Piece.value?, routeParameter_eq checked member role]
    | _ => simp [role, Role.placeholder?] at routed

theorem queryPushes_parameter (query : QueryPolicy) (binding : Binding) :
    (queryPushes query binding).map QueryPush.parameter =
      binding.role.keys.map fun _ => binding.parameter := by
  simp only [queryPushes, Role.keys]
  cases binding.role with
  | query keys composite =>
    cases composite <;>
    · simp only [List.map_map]
      rfl
  | _ => rfl

theorem partsOf_pushed (query : QueryPolicy) (method : MethodDefinition) (parameter : Ident) :
    parameter ∈ (partsOf query method).pushes.map QueryPush.parameter ↔
      ∃ binding ∈ method.bindings, binding.role.keys ≠ [] ∧ binding.parameter = parameter := by
  simp only [partsOf, List.map_flatMap, queryPushes_parameter, List.mem_flatMap, List.mem_map]
  constructor
  · rintro ⟨binding, member, key, held, same⟩
    exact ⟨binding, member, List.ne_nil_of_mem held, same⟩
  · rintro ⟨binding, member, some, same⟩
    obtain ⟨key, held⟩ := List.exists_mem_of_ne_nil _ some
    exact ⟨binding, member, key, held, same⟩

theorem partsOf_attached (query : QueryPolicy) (method : MethodDefinition) (parameter : Ident) :
    parameter ∈ (partsOf query method).attachments.map Attachment.mentioned ↔
      ∃ binding ∈ method.bindings, (binding.role.isBody || binding.role.isCancellation) = true ∧
        binding.parameter = parameter := by
  have attached (binding : Binding) : (attachment? binding).map Attachment.mentioned =
      if (binding.role.isBody || binding.role.isCancellation) = true then some binding.parameter
      else none := by
    cases role : binding.role <;>
      simp [attachment?, role, Role.isBody, Role.isCancellation, Attachment.mentioned]
  simp only [partsOf, List.map_filterMap, attached, List.mem_filterMap]
  constructor
  · rintro ⟨binding, member, same⟩
    split at same
    · rename_i own
      exact ⟨binding, member, own, Option.some.inj same⟩
    · cases same
  · rintro ⟨binding, member, own, same⟩
    exact ⟨binding, member, by simp [own, same]⟩

theorem partsOf_pushes_eq_nil_iff (query : QueryPolicy) (method : MethodDefinition) :
    (partsOf query method).pushes = [] ↔ method.queryKeys = [] := by
  have count (binding : Binding) : queryPushes query binding = [] ↔ binding.role.keys = [] := by
    have same := congrArg List.length (queryPushes_parameter query binding)
    simp only [List.length_map] at same
    rw [← List.length_eq_zero_iff, same, List.length_eq_zero_iff]
  simp only [partsOf, MethodDefinition.queryKeys, List.flatMap_eq_nil_iff, count]

/-- A method no name of which is the name of something emitted in front of it. -/
structure Apart (method : MethodDefinition) : Prop where
  path : ∀ binding ∈ method.bindings, isMentioned binding = true → binding.name ≠ "path"
  query : method.queryKeys ≠ [] → ∀ binding ∈ method.bindings, isMentioned binding = true →
    binding.role.placeholder? = none → binding.name ≠ "query"
  types : ∀ name ∈ method.signature.typeNames, name.text ≠ "T" ∧ name.text ≠ "C"

/-- A parameter is mentioned in the path, in the query, or behind both. -/
theorem isMentioned_iff (binding : Binding) :
    isMentioned binding = true ↔
      binding.role.placeholder?.isSome = true ∨ binding.role.keys ≠ [] ∨
        (binding.role.isBody || binding.role.isCancellation) = true := by
  unfold isMentioned
  cases binding.role with
  | query keys composite => cases keys <;> simp [Role.placeholder?, Role.keys, Role.isBody,
      Role.isCancellation]
  | _ => simp [Role.placeholder?, Role.keys, Role.isBody, Role.isCancellation]

/-- A parameter that is mentioned in the query or behind it is none of the route. -/
theorem placeholder?_eq_none {role : Role}
    (behind : role.keys ≠ [] ∨ (role.isBody || role.isCancellation) = true) :
    role.placeholder? = none := by
  cases role with
  | route name => simp [Role.keys, Role.isBody, Role.isCancellation] at behind
  | _ => rfl

/-- All mentions in the body of a validated method refer to parameters exactly when none is
named like the path, and none behind the query like the query. -/
theorem references_eq_iff (query : QueryPolicy) {method : MethodDefinition}
    (checked : method.Checked) :
    (plan query method).references = (plan query method).mentioned.map Reference.argument ↔
      (∀ binding ∈ method.bindings, isMentioned binding = true → binding.name ≠ "path") ∧
      (method.queryKeys ≠ [] → ∀ binding ∈ method.bindings, isMentioned binding = true →
        binding.role.placeholder? = none → binding.name ≠ "query") := by
  have keys : (partsOf query method).pushes ≠ [] ↔ method.queryKeys ≠ [] :=
    not_congr (partsOf_pushes_eq_nil_iff query method)
  rw [plan_eq, Parts.references_eq_iff]
  simp only [partsOf_values query checked, partsOf_pushed, partsOf_attached, keys]
  constructor
  · rintro ⟨routed, pushed, attached⟩
    constructor
    · intro binding member mentioned
      rcases (isMentioned_iff binding).mp mentioned with own | own | own
      · exact routed _ ⟨binding, member, own, rfl⟩
      · exact (pushed _ ⟨binding, member, own, rfl⟩).1
      · exact (attached _ ⟨binding, member, own, rfl⟩).1
    · intro keyed binding member mentioned other
      rcases (isMentioned_iff binding).mp mentioned with own | own | own
      · simp [other] at own
      · exact (pushed _ ⟨binding, member, own, rfl⟩).2
      · exact (attached _ ⟨binding, member, own, rfl⟩).2 keyed
  · rintro ⟨path, behind⟩
    refine ⟨?_, ?_, ?_⟩
    · rintro _ ⟨binding, member, own, rfl⟩
      exact path binding member ((isMentioned_iff binding).mpr (.inl own))
    · rintro _ ⟨binding, member, own, rfl⟩
      have mentioned := (isMentioned_iff binding).mpr (.inr (.inl own))
      have keyed : method.queryKeys ≠ [] := by
        obtain ⟨key, held⟩ := List.exists_mem_of_ne_nil _ own
        exact List.ne_nil_of_mem (List.mem_flatMap.mpr ⟨binding, member, held⟩)
      exact ⟨path binding member mentioned,
        behind keyed binding member mentioned (placeholder?_eq_none (.inl own))⟩
    · rintro _ ⟨binding, member, own, rfl⟩
      have mentioned := (isMentioned_iff binding).mpr (.inr (.inr own))
      exact ⟨path binding member mentioned, fun keyed =>
        behind keyed binding member mentioned (placeholder?_eq_none (.inr own))⟩

/-! ### Methods that are understood -/

/-- The emitted names take no name from a method exactly when they are apart from its names. -/
theorem hygienic_iff {imports : Imports} {symbols : Symbols} {declared : Source.Method}
    {method : MethodDefinition} (done : Lowering.endpoint imports symbols declared = .ok method)
    (context : Context) (client : ClientDefinition) :
    Hygienic context client method ↔ Apart method := by
  have checked := (method.validate_ok_iff).mp ((Lowering.endpoint_ok_iff ..).mp done).2
  have arguments := references_eq_iff context.query checked
  have parameters := implementationParameters_traitTokens context client
  constructor
  · rintro ⟨same, types⟩
    obtain ⟨path, behind⟩ := arguments.mp same
    refine ⟨path, behind, ?_⟩
    intro name member
    have taken := types name member
    rw [parameters] at taken
    exact ⟨taken (.plain "T") (by simp), taken (.plain "C") (by simp)⟩
  · rintro ⟨path, behind, types⟩
    refine ⟨arguments.mpr ⟨path, behind⟩, ?_⟩
    intro name member taken held
    rw [parameters] at held
    rcases List.mem_cons.mp held with rfl | second
    · exact (types name member).1
    · rw [List.mem_singleton.mp second]
      exact (types name member).2

/-- The method `#[restgen::get("/files/{name}")] fn file(&self, name: &str);` for a name. -/
def fileMethod (name : String) : Source.Method where
  attributes := [⟨false, ⟨false, [⟨.plain "restgen", .none⟩, ⟨.plain "get", .none⟩]⟩,
    .list .paren [.literal ("\"/files/\x7b" ++ name ++ "\x7d\"")]⟩]
  visibility := .inherited
  isDefault := false
  signature :=
    { isConst := false
      isAsync := false
      safety := none
      linkage := none
      name := .plain "file"
      generics := ⟨[], false, none⟩
      inputs := [.receiver ⟨[], some none, false, none⟩,
        .typed [] (.ident false false (.plain name) none)
          (.reference none false (.path (.ofIdent (.plain "str"))))]
      comma := false
      variadic := none
      output := none }
  body := none

/-- The definition that the method is understood as. -/
def fileDefinition (name : String) : MethodDefinition where
  name := "file"
  verb := .get
  route := ⟨"/files/\x7b" ++ name ++ "\x7d", [.literal "/files/", .placeholder name]⟩
  bindings := [⟨.plain name, .route name⟩]
  returns := ⟨none, false, .blocking, .none⟩
  signature := (fileMethod name).signature

theorem hygienic_iff_file :
    Lowering.endpoint ⟨[], [], []⟩ [] (fileMethod "name") = .ok (fileDefinition "name") ∧
      Hygienic ⟨.plain "restgen", {}⟩
        ⟨⟨[], "Files"⟩, .plain "Files", .plain "FilesClient", .inherited, false,
          [fileDefinition "name"]⟩ (fileDefinition "name") := by
  have done : Lowering.endpoint ⟨[], [], []⟩ [] (fileMethod "name") =
      .ok (fileDefinition "name") := rfl
  refine ⟨done, (hygienic_iff done _ _).mpr ⟨?_, ?_, ?_⟩⟩
  · decide
  · decide
  · decide

/-- A parameter named like the path is not what the emitted body adds to the path. -/
theorem file_captured :
    Lowering.endpoint ⟨[], [], []⟩ [] (fileMethod "path") = .ok (fileDefinition "path") ∧
      (plan {} (fileDefinition "path")).mentioned = [.plain "path"] ∧
      (plan {} (fileDefinition "path")).references = [.emitted "path"] ∧
      ∀ client, ¬ Hygienic ⟨.plain "restgen", {}⟩ client (fileDefinition "path") := by
  refine ⟨rfl, rfl, rfl, ?_⟩
  rintro client ⟨same, _⟩
  cases same

end Endpoint.Emission
