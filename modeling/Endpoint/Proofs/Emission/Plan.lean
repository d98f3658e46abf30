import Endpoint.Proofs.Emission.Reading
import Endpoint.Proofs.Route
import Endpoint.Proofs.Validation

/-!
The emitted body of a method says all that its definition says about the request, and can be read
back to it.
-/

namespace Endpoint.Emission

open Source (Ident Token Tokens)

/-! ### Parts of a plan -/

/-- A part of a path: text as it is, or the escaped value of a parameter. -/
inductive Piece
  | text (text : String)
  | value (parameter : Ident)
deriving DecidableEq, Repr

def Piece.statement : Piece → Statement
  | .text shown => .pushText shown
  | .value parameter => .pushValue parameter

/-- A key of the query with the parameter and the access that its value comes from. -/
structure QueryPush where
  key : String
  parameter : Ident
  access : Access
  policy : Policy
deriving DecidableEq, Repr

def QueryPush.statement (push : QueryPush) : Statement :=
  .pushQuery push.key push.parameter push.access push.policy

/-- The statements that add a query to the path, or none if nothing is pushed to it. -/
def queryBlock : List QueryPush → List Statement
  | [] => []
  | pushes => .letQuery :: (pushes.map QueryPush.statement ++ [.pushFinished])

/-- The parts that a plan is put together from. -/
structure Parts where
  isMutable : Bool
  initial : String
  pieces : List Piece
  pushes : List QueryPush
  verb : Verb
  attachments : List Attachment

def Parts.plan (parts : Parts) : Plan :=
  ⟨.letPath parts.isMutable parts.initial ::
      (parts.pieces.map Piece.statement ++ queryBlock parts.pushes),
    parts.verb, parts.attachments⟩

/-- The pieces at the beginning of a row of statements, and the statements behind them. -/
def leadingPieces : List Statement → List Piece × List Statement
  | .pushText text :: rest =>
    let (pieces, behind) := leadingPieces rest
    (.text text :: pieces, behind)
  | .pushValue parameter :: rest =>
    let (pieces, behind) := leadingPieces rest
    (.value parameter :: pieces, behind)
  | rest => ([], rest)

/-- The values pushed to a query that is finished by the last statement. -/
def finishedPushes? : List Statement → Option (List QueryPush)
  | [.pushFinished] => some []
  | .pushQuery key parameter access policy :: rest =>
    (finishedPushes? rest).map (⟨key, parameter, access, policy⟩ :: ·)
  | _ => none

/-- The values that a query block pushes. -/
def blockPushes? : List Statement → Option (List QueryPush)
  | [] => some []
  | .letQuery :: rest => finishedPushes? rest
  | _ => none

/-- The parts of a plan, if it is put together from parts. -/
def Plan.parts? (held : Plan) : Option Parts :=
  match held.statements with
  | .letPath isMutable initial :: rest =>
    let (pieces, behind) := leadingPieces rest
    (blockPushes? behind).map fun pushes =>
      ⟨isMutable, initial, pieces, pushes, held.verb, held.attachments⟩
  | _ => none

/-- The parts of the request that tokens make first, and what follows it. -/
def readParts? (runtime : Ident) (tokens : Tokens) : Option (Parts × Tokens) := do
  let (held, rest) ← Plan.read? runtime tokens
  return (← held.parts?, rest)

/-- The path without its query. An empty initial literal stands for none. -/
def Parts.path (parts : Parts) : List Piece :=
  (if parts.initial = "" then [] else [.text parts.initial]) ++ parts.pieces

/-- Whether a statement adds to the path. -/
def Statement.extendsPath : Statement → Bool
  | .pushText _ | .pushValue _ | .pushFinished => true
  | _ => false

def Attachment.body? : Attachment → Option Ident
  | .body parameter => some parameter
  | .cancellation _ => none

def Attachment.cancellation? : Attachment → Option Ident
  | .body _ => none
  | .cancellation parameter => some parameter

theorem leadingPieces_append (pieces : List Piece) {behind : List Statement}
    (other : leadingPieces behind = ([], behind)) :
    leadingPieces (pieces.map Piece.statement ++ behind) = (pieces, behind) := by
  induction pieces with
  | nil => exact other
  | cons piece rest ih => cases piece <;> simp [Piece.statement, leadingPieces, ih]

theorem finishedPushes?_pushes (pushes : List QueryPush) :
    finishedPushes? (pushes.map QueryPush.statement ++ [.pushFinished]) = some pushes := by
  induction pushes with
  | nil => rfl
  | cons push rest ih => simp [QueryPush.statement, finishedPushes?, ih]

/-- A plan put together from parts comes apart into them. -/
theorem Parts.plan_parts? (parts : Parts) : parts.plan.parts? = some parts := by
  have block : leadingPieces (queryBlock parts.pushes) = ([], queryBlock parts.pushes) := by
    cases parts.pushes <;> rfl
  have pushes : blockPushes? (queryBlock parts.pushes) = some parts.pushes := by
    cases shape : parts.pushes with
    | nil => rfl
    | cons push rest => exact finishedPushes?_pushes (push :: rest)
  simp [Plan.parts?, Parts.plan, leadingPieces_append _ block, pushes]

/-! ### What a plan keeps -/

/-- Whether a piece of a path stands for a segment: a literal for itself, an escaped value for a
placeholder that is bound to its parameter and to no other. -/
def StandsFor (bindings : List Binding) : Route.Segment → Piece → Prop
  | .literal text, .text shown => shown = text
  | .placeholder name, .value parameter =>
    ∃ binding, bindings.filter (fun binding => binding.role == .route name) = [binding] ∧
      parameter = binding.parameter
  | _, _ => False

/-- What a parameter adds to the query: its keys in order, with the policy of its kind. -/
def queryPushes (query : QueryPolicy) (binding : Binding) : List QueryPush :=
  match binding.role with
  | .query keys false =>
    keys.map fun key => ⟨key.key, binding.parameter, key.access, query.scalars⟩
  | .query keys true =>
    keys.map fun key => ⟨key.key, binding.parameter, key.access, query.compositeFields⟩
  | _ => []

/-- The parts that say what a definition says about its request. -/
structure Keeps (query : QueryPolicy) (method : MethodDefinition) (parts : Parts) : Prop where
  verb : parts.verb = method.verb
  path : List.Forall₂ (StandsFor method.bindings) method.route.segments parts.path
  literals : ∀ text, .text text ∈ parts.path →
    ∀ c ∈ text.toList, c ≠ Route.openBrace ∧ c ≠ Route.closeBrace
  query : parts.pushes = method.bindings.flatMap (queryPushes query)
  bodies : parts.attachments.filterMap Attachment.body? =
    (method.bindings.filter (·.role.isBody)).map Binding.parameter
  cancellations : parts.attachments.filterMap Attachment.cancellation? =
    (method.bindings.filter (·.role.isCancellation)).map Binding.parameter
  isMutable : parts.isMutable = true ↔
    ∃ statement ∈ parts.plan.statements.tail, statement.extendsPath = true

/-! ### Plans of definitions -/

/-- The piece of the path that a segment becomes. -/
def segmentPiece (bindings : List Binding) : Route.Segment → Piece
  | .literal text => .text text
  | .placeholder name => .value (routeParameter bindings name)

/-- The parts of the plan of a method. -/
def partsOf (query : QueryPolicy) (method : MethodDefinition) : Parts where
  isMutable := !(splitInitial method.route.segments).2.isEmpty ||
    !(method.bindings.flatMap (queryPushes query)).isEmpty
  initial := (splitInitial method.route.segments).1
  pieces := (splitInitial method.route.segments).2.map (segmentPiece method.bindings)
  pushes := method.bindings.flatMap (queryPushes query)
  verb := method.verb
  attachments := method.bindings.filterMap attachment?

theorem keyStatements_eq (query : QueryPolicy) (binding : Binding) :
    keyStatements query binding = (queryPushes query binding).map QueryPush.statement := by
  simp only [keyStatements, queryPushes]
  cases binding.role with
  | query keys composite => cases composite <;> simp [QueryPush.statement]
  | _ => rfl

theorem queryStatements_eq (query : QueryPolicy) (bindings : List Binding) :
    queryStatements query bindings = queryBlock (bindings.flatMap (queryPushes query)) := by
  have pushes : bindings.flatMap (keyStatements query) =
      (bindings.flatMap (queryPushes query)).map QueryPush.statement := by
    rw [List.map_flatMap]
    exact List.flatMap_congr fun binding _ => keyStatements_eq query binding
  rw [queryStatements, pushes]
  cases bindings.flatMap (queryPushes query) <;> rfl

theorem plan_eq (query : QueryPolicy) (method : MethodDefinition) :
    plan query method = (partsOf query method).plan := by
  have segments : segmentStatement method.bindings =
      Piece.statement ∘ segmentPiece method.bindings := by
    funext segment
    cases segment <;> rfl
  have later (pieces : List Statement) (pushes : List QueryPush) :
      (!(pieces ++ queryBlock pushes).isEmpty) = (!pieces.isEmpty || !pushes.isEmpty) := by
    cases pieces <;> cases pushes <;> rfl
  simp only [plan, queryStatements_eq, segments, later, List.isEmpty_map, Parts.plan, partsOf,
    List.map_map]

theorem segmentPiece_standsFor {method : MethodDefinition} (checked : method.Checked)
    {segment : Route.Segment} (member : segment ∈ method.route.segments) :
    StandsFor method.bindings segment (segmentPiece method.bindings segment) := by
  cases segment with
  | literal text => rfl
  | placeholder name =>
    obtain ⟨binding, only⟩ := checked.binding member
    refine ⟨binding, only, ?_⟩
    have found : method.bindings.find? (fun binding => binding.role == .route name) =
        some binding := by
      rw [← List.head?_filter, only]
      rfl
    simp [routeParameter, found]

/-- Setting the initial literal apart loses nothing, since no literal is empty. -/
theorem splitInitial_pieces (bindings : List Binding) {segments : List Route.Segment}
    (valid : ∀ segment ∈ segments, segment.Valid) :
    (if (splitInitial segments).1 = "" then [] else [.text (splitInitial segments).1]) ++
        (splitInitial segments).2.map (segmentPiece bindings) =
      segments.map (segmentPiece bindings) := by
  match segments with
  | [] => rfl
  | .literal text :: rest =>
    have some : text ≠ "" := (valid (.literal text) List.mem_cons_self).1
    simp [splitInitial, some, segmentPiece]
  | .placeholder name :: rest => simp [splitInitial]

/-- The path of the parts has a piece for each segment, in order. -/
theorem partsOf_path (query : QueryPolicy) (method : MethodDefinition)
    (valid : ∀ segment ∈ method.route.segments, segment.Valid) :
    (partsOf query method).path =
      method.route.segments.map (segmentPiece method.bindings) :=
  splitInitial_pieces method.bindings valid

theorem attachments_bodies (bindings : List Binding) :
    (bindings.filterMap attachment?).filterMap Attachment.body? =
      (bindings.filter (·.role.isBody)).map Binding.parameter := by
  rw [List.filterMap_filterMap, ← List.filterMap_eq_map, ← List.filterMap_eq_filter,
    List.filterMap_filterMap]
  congr
  funext binding
  cases role : binding.role <;>
    simp [attachment?, role, Attachment.body?, Role.isBody, Option.guard]

theorem attachments_cancellations (bindings : List Binding) :
    (bindings.filterMap attachment?).filterMap Attachment.cancellation? =
      (bindings.filter (·.role.isCancellation)).map Binding.parameter := by
  rw [List.filterMap_filterMap, ← List.filterMap_eq_map, ← List.filterMap_eq_filter,
    List.filterMap_filterMap]
  congr
  funext binding
  cases role : binding.role <;>
    simp [attachment?, role, Attachment.cancellation?, Role.isCancellation, Option.guard]

/-- The path grows behind its first statement if there are pieces or query values left. -/
theorem Parts.extendsPath_iff (parts : Parts) :
    (∃ statement ∈ parts.plan.statements.tail, statement.extendsPath = true) ↔
      parts.pieces ≠ [] ∨ parts.pushes ≠ [] := by
  have pieces : (∃ statement ∈ parts.pieces.map Piece.statement, statement.extendsPath = true) ↔
      parts.pieces ≠ [] := by
    cases parts.pieces with
    | nil => simp
    | cons piece rest => cases piece <;> simp [Piece.statement, Statement.extendsPath]
  have pushes : (∃ statement ∈ queryBlock parts.pushes, statement.extendsPath = true) ↔
      parts.pushes ≠ [] := by
    cases parts.pushes with
    | nil => simp [queryBlock]
    | cons push rest => simp [queryBlock, Statement.extendsPath]
  simp only [Parts.plan, List.tail_cons, List.mem_append, or_and_right, exists_or, pieces, pushes]

/-- The parts of a validated method keep what its definition says. -/
theorem partsOf_keeps (query : QueryPolicy) {method : MethodDefinition} (checked : method.Checked)
    (valid : ∀ segment ∈ method.route.segments, segment.Valid) :
    Keeps query method (partsOf query method) := by
  have path := partsOf_path query method valid
  refine ⟨rfl, ?_, ?_, rfl, ?_, ?_, ?_⟩
  · rw [path, List.forall₂_map_right_iff, List.forall₂_same]
    exact fun segment member => segmentPiece_standsFor checked member
  · intro text member c held
    rw [path] at member
    obtain ⟨segment, used, shown⟩ := List.mem_map.mp member
    cases segment with
    | placeholder name => cases shown
    | literal other =>
      cases shown
      have plain := List.all_eq_true.mp (valid _ used).2 c held
      simp only [Route.isLiteral, Bool.and_eq_true, bne_iff_ne] at plain
      exact plain.1.1
  · exact attachments_bodies method.bindings
  · exact attachments_cancellations method.bindings
  · rw [Parts.extendsPath_iff]
    simp [partsOf]

/-- The emitted body of a validated method is read back to parts that keep what its definition
says about the request. -/
theorem bodyTokens_keeps {method : MethodDefinition} (valid : method.validate = .ok ())
    {raw : String} (template : Route.read raw = .ok method.route) (context : Context) :
    ∃ parts rest, readParts? context.runtime (bodyTokens context method) = some (parts, rest) ∧
      Keeps context.query method parts := by
  have checked := (method.validate_ok_iff).mp valid
  obtain ⟨rest, split⟩ : ∃ rest,
      bodyTokens context method = (plan context.query method).tokens context ++ rest := ⟨_, rfl⟩
  refine ⟨partsOf context.query method, rest, ?_,
    partsOf_keeps context.query checked (Route.read_valid template)⟩
  rw [readParts?, split, Plan.read?_tokens, plan_eq]
  simp [Parts.plan_parts?]

/-- A method `GET /shelves/{shelf}/{shelf}` with a page in the query and a token. -/
def shelfMethod : MethodDefinition where
  name := "shelf"
  verb := .get
  route := ⟨"/shelves/\x7bshelf\x7d/\x7bshelf\x7d",
    [.literal "/shelves/", .placeholder "shelf", .literal "/", .placeholder "shelf"]⟩
  bindings := [⟨.plain "shelf", .route "shelf"⟩, ⟨.plain "page", .query [⟨"page", .direct⟩] false⟩,
    ⟨.plain "token", .cancellation false⟩]
  returns := ⟨none, false, .blocking, .none⟩
  signature := ⟨false, false, none, none, .plain "shelf", ⟨[], false, none⟩, [], false, none, none⟩

theorem bodyTokens_keeps_shelf :
    shelfMethod.validate = .ok () ∧
      Route.read "/shelves/\x7bshelf\x7d/\x7bshelf\x7d" = .ok shelfMethod.route ∧
      ∃ parts rest, readParts? (.plain "restgen")
        (bodyTokens ⟨.plain "restgen", {}⟩ shelfMethod) = some (parts, rest) ∧
          Keeps {} shelfMethod parts := by
  have template : Route.read "/shelves/\x7bshelf\x7d/\x7bshelf\x7d" = .ok shelfMethod.route := rfl
  exact ⟨rfl, template, bodyTokens_keeps rfl template ⟨.plain "restgen", {}⟩⟩

end Endpoint.Emission
