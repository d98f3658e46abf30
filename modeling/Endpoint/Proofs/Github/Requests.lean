import Endpoint.Github.Api
import Endpoint.Proofs.Client.Race
import Endpoint.Proofs.Client.Target
import Endpoint.Proofs.Json.RoundTrip
import Endpoint.Proofs.Json.Sorted

/-!
Requests tell calls apart: what a transport sees of a request is enough to read the call from it,
but for the token, and for empty labels of a filter.
-/

namespace Endpoint.Github

open Client (Token Request Target)

/-! ### What a call sends -/

/-- The token of a call. -/
def Call.token? : Call → Option Token
  | .createIssue _ _ _ token => token
  | _ => none

def Call.verb : Call → Verb
  | .user _ | .repository .. | .issues .. => .get
  | .createIssue .. => .post
  | .updateIssue .. | .star .. | .markNotificationsRead => .put
  | .unsubscribe .. => .delete

/-- The text of a number that is left out if it is zero. -/
def numberPair (key : String) (number : Nat) : List (String × String) :=
  if number = 0 then [] else [(key, toString number)]

/-- What a listing is asked for: the filter, with empty texts for what it leaves open, and the
numbers. -/
def issuesPairs (filter : IssueFilter) (page perPage : Nat) : List (String × String) :=
  [("state", (filter.state.map IssueState.alias).getD ""),
    ("labels", filter.labels.getD ""),
    ("sort", (filter.sortBy.map IssueSort.alias).getD ""),
    ("direction", (filter.sortDirection.map SortDirection.alias).getD "")] ++
  numberPair "page" page ++ numberPair "per_page" perPage

/-- The segments of the route of a call, and the pairs of its query. -/
def Call.target : Call → Target
  | .user login => ⟨["", "users", login], []⟩
  | .repository owner repo => ⟨["", "repos", owner, repo], []⟩
  | .issues owner repo filter page perPage =>
    ⟨["", "repos", owner, repo, "issues"], issuesPairs filter page perPage⟩
  | .createIssue owner repo _ _ => ⟨["", "repos", owner, repo, "issues"], []⟩
  | .updateIssue owner repo number _ => ⟨["", "repos", owner, repo, "issues", toString number], []⟩
  | .star owner repo => ⟨["", "user", "starred", owner, repo], []⟩
  | .unsubscribe owner repo => ⟨["", "repos", owner, repo, "subscription"], []⟩
  | .markNotificationsRead => ⟨["", "notifications"], []⟩

/-- The body of a call. -/
def Call.json? : Call → Option Json
  | .createIssue _ _ issue _ => some issue.toJson
  | .updateIssue _ _ _ update => some update.toJson
  | _ => none

/-- A body as it is sent. -/
def payloadOf (json : Json) : Client.Payload := ⟨Text.textBytes json.write, Client.contentType⟩

/-- The request of a call, from its parts. -/
def Call.request (call : Call) : Request :=
  ⟨call.verb, call.target.path, call.json?.map payloadOf, call.token?⟩

/-! ### Queries -/

theorem push_optionalValue (pairs : Query.Pairs) (key : String) (value : Option String) :
    pairs.push key (optionalValue value) .always =
      pairs ++ [Query.escapedPair (key, value.getD "")] := by
  cases value <;> rfl

theorem push_whole (pairs : Query.Pairs) (key : String) (number : Nat) :
    pairs.push key (.whole number) .omitNullOrDefault =
      pairs ++ (numberPair key number).map Query.escapedPair := by
  rcases Nat.eq_zero_or_pos number with rfl | positive
  · exact (List.append_nil pairs).symm
  · obtain ⟨number, rfl⟩ := Nat.exists_eq_add_one_of_ne_zero (Nat.ne_of_gt positive)
    rfl

theorem issuesQuery_eq (filter : IssueFilter) (page perPage : Nat) :
    issuesQuery filter page perPage =
      Query.Pairs.finish ((issuesPairs filter page perPage).map Query.escapedPair) := by
  simp only [issuesQuery, push_optionalValue, push_whole, issuesPairs, List.map_append,
    List.map_cons, List.nil_append, List.cons_append]

/-! ### Routes -/

/-- The path of a call is written from its target: fixed words stand for themselves, texts are
escaped. -/
theorem Call.draft_path (call : Call) : call.draft.path = call.target.path := by
  apply String.toList_inj.mp
  cases call with
  | issues owner repo filter page perPage =>
    simp (disch := decide) [Call.draft, Client.Draft.new, repositoryPath, issuesQuery_eq,
      Call.target, Target.path, Text.percentEncode_kept]
  | createIssue owner repo issue token =>
    simp (disch := decide) [Call.draft, Client.Draft.new, Client.Draft.withBody,
      Client.Draft.withEncoded, Client.Draft.withToken, repositoryPath, Call.target, Target.path,
      Query.Pairs.finish, Text.percentEncode_kept]
  | updateIssue owner repo number update =>
    simp (disch := decide) [Call.draft, Client.Draft.new, Client.Draft.withBody,
      Client.Draft.withEncoded, repositoryPath, Call.target, Target.path, Query.Pairs.finish,
      Text.percentEncode_kept]
  | _ =>
    simp (disch := decide) [Call.draft, Client.Draft.new, repositoryPath, Call.target,
      Target.path, Query.Pairs.finish, Text.percentEncode_kept]

/-- The draft of a call is that of its request. -/
theorem Call.draft_eq (call : Call) : call.draft = call.request.draft := by
  calc
    call.draft =
        ⟨call.verb, call.draft.path, .ok (call.json?.map payloadOf), call.token?⟩ := by
      cases call <;> rfl
    _ = call.request.draft := by rw [call.draft_path]; rfl

/-- A call whose token has not fired sends its request, and nothing else. -/
def Call.Sends (call : Call) (request : Request) : Prop :=
  ∀ (surroundings : Client.Surroundings) (transport : Client.Transport) (between : Nat → Bool)
    (count : Nat), surroundings.mayBlock = true → between 0 = false →
      (call.send surroundings transport between (count + 1)).seen = [request]

theorem Call.sends_request {call : Call} (live : call.token? ≠ some .fired) :
    call.Sends call.request := by
  intro surroundings transport between count free quiet
  have sent : call.send surroundings transport between (count + 1) =
      call.request.draft.dispatch transport between (count + 1) := by
    rw [Call.send, Client.Draft.block, if_pos free, ite_self, call.draft_eq]
  rw [sent]
  have stands := Client.Standing.run call.request transport between (count + 1)
  refine stands.asked_iff.mpr ⟨Nat.succ_pos count, ?_⟩
  rintro ⟨-, fired⟩
  rcases Client.Flight.firedAt_zero.mp fired with before | now
  · exact live before
  · rw [quiet] at now
    cases now

/-! ### Reading a call from its request -/

/-- What is seen of a request: its verb, its path, and its body as a JSON value, in which the
entries of records have no order. -/
structure View where
  verb : Verb
  path : String
  body : Option (Option Json)

def viewOf (request : Request) : View :=
  ⟨request.verb, request.path, request.body.map fun payload =>
    ((Text.strictText? payload.bytes).bind Json.read?).map Json.sorted⟩

/-- The text that the query holds under a key, or an empty one. -/
def textUnder (pairs : List (String × String)) (key : String) : String :=
  (pairs.lookup key).getD ""

/-- The variant with the alias that the query holds under a key; an empty text names none. -/
def variantUnder? {α : Type} (table : AliasTable α) (pairs : List (String × String))
    (key : String) : Option (Option α) :=
  let text := textUnder pairs key
  if text = "" then some none else (table.ofAlias? text).map some

/-- The number that the query holds under a key, or zero. -/
def numberUnder (pairs : List (String × String)) (key : String) : Nat :=
  Number.digitsValue (textUnder pairs key).toList

/-- The filter that a query tells. -/
def IssueFilter.ofPairs? (pairs : List (String × String)) : Option IssueFilter := do
  let labels := textUnder pairs "labels"
  return ⟨← variantUnder? IssueState.table pairs "state", if labels = "" then none else some labels,
    ← variantUnder? IssueSort.table pairs "sort",
    ← variantUnder? SortDirection.table pairs "direction"⟩

/-- The call that a request tells. -/
def Call.read? (view : View) : Option Call := do
  let target ← Target.read? view.path
  match view.verb, target.segments, view.body with
  | .get, ["", "users", login], none => return .user login
  | .get, ["", "repos", owner, repo], none => return .repository owner repo
  | .get, ["", "repos", owner, repo, "issues"], none =>
    return .issues owner repo (← IssueFilter.ofPairs? target.pairs)
      (numberUnder target.pairs "page") (numberUnder target.pairs "per_page")
  | .post, ["", "repos", owner, repo, "issues"], some (some body) =>
    return .createIssue owner repo (NewIssue.ofJson body) none
  | .put, ["", "repos", owner, repo, "issues", number], some (some body) =>
    return .updateIssue owner repo (Number.digitsValue number.toList)
      (← IssueUpdate.ofJson? body)
  | .put, ["", "user", "starred", owner, repo], none => return .star owner repo
  | .delete, ["", "repos", owner, repo, "subscription"], none => return .unsubscribe owner repo
  | .put, ["", "notifications"], none => return .markNotificationsRead
  | _, _, _ => none

/-- A call as far as its request tells it: without its token, and without empty labels in its
filter. -/
def Call.told : Call → Call
  | .issues owner repo filter page perPage =>
    .issues owner repo { filter with labels := filter.labels.filter (· ≠ "") } page perPage
  | .createIssue owner repo issue _ => .createIssue owner repo issue none
  | call => call

/-! ### Reading what was sent -/

theorem digitsValue_toString (number : Nat) :
    Number.digitsValue (toString number).toList = number := by
  have digits : (toString number).toList = Nat.toDigits 10 number := by simp
  rw [digits]
  exact Nat.ofDigitChars_ten_toDigits

theorem textUnder_cons (first : String × String) (rest : List (String × String))
    (key : String) :
    textUnder (first :: rest) key = if key = first.1 then first.2 else textUnder rest key := by
  rw [textUnder, List.lookup_cons]
  by_cases same : key = first.1
  · simp [same]
  · have apart : (key == first.1) = false := beq_eq_false_iff_ne.mpr same
    rw [apart, if_neg same, textUnder]

theorem textUnder_numberPair {key other : String} (apart : key ≠ other) (number : Nat)
    (rest : List (String × String)) :
    textUnder (numberPair other number ++ rest) key = textUnder rest key := by
  rw [numberPair]
  split
  · rfl
  · rw [List.singleton_append, textUnder_cons, if_neg apart]

/-- A number is read from its pair, or from its absence if it is zero. -/
theorem numberUnder_numberPair {key : String} {rest : List (String × String)}
    (absent : textUnder rest key = "") (number : Nat) :
    numberUnder (numberPair key number ++ rest) key = number := by
  rw [numberUnder, numberPair]
  split
  case isTrue zero => rw [List.nil_append, absent, zero]; rfl
  case isFalse =>
    rw [List.singleton_append, textUnder_cons, if_pos rfl]
    exact digitsValue_toString number

theorem variantUnder?_eq {α : Type} {table : AliasTable α} {pairs : List (String × String)}
    {key : String} {variant : Option α} {name : α → String}
    (text : textUnder pairs key = (variant.map name).getD "")
    (named : ∀ one, name one ≠ "" ∧ table.ofAlias? (name one) = some one) :
    variantUnder? table pairs key = some variant := by
  rw [variantUnder?, text]
  cases variant with
  | none => rfl
  | some one => simp [named one]

theorem IssueState.named (state : IssueState) :
    state.alias ≠ "" ∧ table.ofAlias? state.alias = some state := by
  cases state <;> decide

theorem IssueSort.named (sort : IssueSort) :
    sort.alias ≠ "" ∧ table.ofAlias? sort.alias = some sort := by
  cases sort <;> decide

theorem SortDirection.named (direction : SortDirection) :
    direction.alias ≠ "" ∧ table.ofAlias? direction.alias = some direction := by
  cases direction <;> decide

/-- The filter of a listing is read from its query, but for empty labels. -/
theorem IssueFilter.ofPairs?_issuesPairs (filter : IssueFilter) (page perPage : Nat) :
    IssueFilter.ofPairs? (issuesPairs filter page perPage) =
      some { filter with labels := filter.labels.filter (· ≠ "") } := by
  have state : variantUnder? IssueState.table (issuesPairs filter page perPage) "state" =
      some filter.state := variantUnder?_eq rfl IssueState.named
  have sort : variantUnder? IssueSort.table (issuesPairs filter page perPage) "sort" =
      some filter.sortBy := variantUnder?_eq rfl IssueSort.named
  have direction : variantUnder? SortDirection.table (issuesPairs filter page perPage)
      "direction" = some filter.sortDirection := variantUnder?_eq rfl SortDirection.named
  have labels : textUnder (issuesPairs filter page perPage) "labels" = filter.labels.getD "" :=
    rfl
  rw [IssueFilter.ofPairs?]
  simp only [state, sort, direction, labels, Option.bind_eq_bind, Option.bind_some,
    Option.pure_def, Option.some.injEq, IssueFilter.mk.injEq, true_and, and_true]
  cases filter.labels with
  | none => rfl
  | some text => by_cases empty : text = "" <;> simp [empty, Option.filter]

/-- The numbers of a listing are read from its query. -/
theorem numberUnder_issuesPairs (filter : IssueFilter) (page perPage : Nat) :
    numberUnder (issuesPairs filter page perPage) "page" = page ∧
      numberUnder (issuesPairs filter page perPage) "per_page" = perPage := by
  have first : numberUnder (issuesPairs filter page perPage) "page" =
      numberUnder (numberPair "page" page ++ (numberPair "per_page" perPage ++ [])) "page" := by
    rw [List.append_nil]
    rfl
  have second : textUnder (issuesPairs filter page perPage) "per_page" =
      textUnder (numberPair "page" page ++ (numberPair "per_page" perPage ++ [])) "per_page" := by
    rw [List.append_nil]
    rfl
  refine ⟨?_, ?_⟩
  · rw [first]
    refine numberUnder_numberPair ?_ page
    rw [textUnder_numberPair (by decide)]
    rfl
  · rw [textUnder_numberPair (by decide)] at second
    rw [numberUnder, second]
    exact numberUnder_numberPair rfl perPage

/-! ### Bodies -/

theorem textItems_texts (held : List String) : (Json.texts held).textItems = held := by
  rw [Json.texts, Json.textItems, Json.items, List.filterMap_map]
  exact List.filterMap_some

/-- A new issue is read from its body. -/
theorem NewIssue.ofJson_toJson (issue : NewIssue) :
    NewIssue.ofJson issue.toJson.sorted = issue := by
  rw [NewIssue.ofJson, Json.textAt_sorted, Json.textAt?_sorted, Json.textsAt_sorted]
  obtain ⟨title, body, labels⟩ := issue
  cases body <;> cases labels <;>
    simp [NewIssue.toJson, optionalEntry, Json.textAt, Json.textOr, Json.textAt?, Json.textsAt,
      Json.entry, Json.get?, textItems_texts] <;> rfl

/-- The update of an issue is read from its body. -/
theorem IssueUpdate.ofJson?_toJson (update : IssueUpdate) :
    IssueUpdate.ofJson? update.toJson.sorted = some update := by
  rw [IssueUpdate.ofJson?, variantAt?, Json.textAt?_sorted, Json.textAt?_sorted]
  obtain ⟨title, state⟩ := update
  cases title <;> cases state <;>
    simp [IssueUpdate.toJson, optionalEntry, IssueState.toJson, Json.textAt?, Json.entry,
      Json.get?, IssueState.named]

theorem optionalEntry_plain {depth : Nat} {key : String} {value : Option Json}
    (plain : ∀ json, value = some json → Json.Plain depth json) :
    ∀ entry ∈ optionalEntry key value, Json.Plain depth entry.2 := by
  intro entry member
  cases value with
  | none => cases member
  | some json =>
    obtain rfl := List.mem_singleton.mp member
    exact plain json rfl

theorem texts_plain {depth : Nat} (held : List String) :
    Json.Plain (depth + 1) (Json.texts held) := by
  refine .list ?_
  intro item member
  obtain ⟨text, -, rfl⟩ := List.mem_map.mp member
  exact .text text

theorem NewIssue.toJson_plain (issue : NewIssue) : Json.Plain Json.deepest issue.toJson := by
  refine .record ?_
  intro entry member
  rcases List.mem_cons.mp member with rfl | member
  · exact .text issue.title
  rcases List.mem_append.mp member with body | labels
  · refine optionalEntry_plain ?_ entry body
    intro json given
    obtain ⟨text, -, rfl⟩ := Option.map_eq_some_iff.mp given
    exact .text text
  · split at labels
    · cases labels
    · obtain rfl := List.mem_singleton.mp labels
      exact texts_plain issue.labels

theorem IssueUpdate.toJson_plain (update : IssueUpdate) :
    Json.Plain Json.deepest update.toJson := by
  refine .record ?_
  intro entry member
  rcases List.mem_append.mp member with title | state
  · refine optionalEntry_plain ?_ entry title
    intro json given
    obtain ⟨text, -, rfl⟩ := Option.map_eq_some_iff.mp given
    exact .text text
  · refine optionalEntry_plain ?_ entry state
    intro json given
    obtain ⟨state, -, rfl⟩ := Option.map_eq_some_iff.mp given
    exact .text state.alias

/-! ### Views -/

/-- A body is seen as the value that was sent. -/
theorem viewOf_payload {json : Json} (plain : Json.Plain Json.deepest json) :
    ((Text.strictText? (payloadOf json).bytes).bind Json.read?).map Json.sorted =
      some json.sorted := by
  rw [payloadOf, Text.strictText?_textBytes, Option.bind_some, plain.read?_write,
    Option.map_some]

theorem Call.json?_plain {call : Call} {json : Json} (body : call.json? = some json) :
    Json.Plain Json.deepest json := by
  cases call with
  | createIssue owner repo issue token =>
    obtain rfl := Option.some.inj body
    exact issue.toJson_plain
  | updateIssue owner repo number update =>
    obtain rfl := Option.some.inj body
    exact update.toJson_plain
  | _ => cases body

/-- What is seen of the request of a call. -/
theorem viewOf_request (call : Call) : viewOf call.request =
    ⟨call.verb, call.target.path, call.json?.map fun json => some json.sorted⟩ := by
  cases body : call.json? with
  | none => rw [viewOf, Call.request, body]; rfl
  | some json =>
    rw [viewOf, Call.request, body]
    simp only [Option.map_some, viewOf_payload (Call.json?_plain body)]

theorem Call.segments_ne_nil (call : Call) : call.target.segments ≠ [] := by
  cases call <;> exact List.cons_ne_nil _ _

/-- A call is read from what is seen of its request, as far as it tells the call. -/
theorem Call.read?_viewOf (call : Call) : Call.read? (viewOf call.request) = some call.told := by
  rw [viewOf_request, Call.read?]
  simp only [Target.read?_path call.segments_ne_nil, Option.bind_eq_bind, Option.bind_some]
  cases call with
  | user login => rfl
  | repository owner repo => rfl
  | issues owner repo filter page perPage =>
    obtain ⟨first, second⟩ := numberUnder_issuesPairs filter page perPage
    simp only [Call.verb, Call.target, Call.json?, Option.map_none, first, second,
      IssueFilter.ofPairs?_issuesPairs]
    rfl
  | createIssue owner repo issue token =>
    simp only [Call.verb, Call.target, Call.json?, Option.map_some, NewIssue.ofJson_toJson]
    rfl
  | updateIssue owner repo number update =>
    simp only [Call.verb, Call.target, Call.json?, Option.map_some, IssueUpdate.ofJson?_toJson,
      digitsValue_toString]
    rfl
  | star owner repo => rfl
  | unsubscribe owner repo => rfl
  | markNotificationsRead => rfl

/-- Nothing is seen of what a request does not tell. -/
theorem viewOf_told (call : Call) : viewOf call.told.request = viewOf call.request := by
  rw [viewOf_request, viewOf_request]
  cases call with
  | issues owner repo filter page perPage =>
    have labels : (filter.labels.filter (· ≠ "")).getD "" = filter.labels.getD "" := by
      cases filter.labels with
      | none => rfl
      | some text => by_cases empty : text = "" <;> simp [empty, Option.filter]
    simp only [Call.told, Call.verb, Call.target, Call.json?, issuesPairs, labels]
  | _ => rfl

end Endpoint.Github
