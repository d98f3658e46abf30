import Endpoint.Client
import Endpoint.Github.Data
import Endpoint.Json.Entries
import Endpoint.Query

/-!
The calls of the GitHub API: the request that each of them makes, and what its response holds.
-/

namespace Endpoint.Github

open Client (Draft Token)

inductive Call
  | user (login : String)
  | repository (owner repo : String)
  | issues (owner repo : String) (filter : IssueFilter) (page perPage : Nat)
  | createIssue (owner repo : String) (issue : NewIssue) (token : Option Token)
  | updateIssue (owner repo : String) (number : Nat) (update : IssueUpdate)
  | star (owner repo : String)
  | unsubscribe (owner repo : String)
  | markNotificationsRead
deriving DecidableEq, Repr

/-- The variant that the alias at the key names; no alias names none. -/
def variantAt? {α : Type} [BEq α] (table : AliasTable α) (json : Json) (key : String) :
    Option (Option α) :=
  match json.textAt? key with
  | none => some none
  | some text => (table.ofAlias? text).map some

def IssueFilter.ofJson? (json : Json) : Option IssueFilter := do
  return ⟨← variantAt? IssueState.table json "state", json.textAt? "labels",
    ← variantAt? IssueSort.table json "sort_by",
    ← variantAt? SortDirection.table json "sort_direction"⟩

def NewIssue.ofJson (json : Json) : NewIssue :=
  ⟨json.textAt "title", json.textAt? "body", json.textsAt "labels"⟩

def IssueUpdate.ofJson? (json : Json) : Option IssueUpdate := do
  return ⟨json.textAt? "title", ← variantAt? IssueState.table json "state"⟩

/-- The call of the method with the name. Missing texts are empty, missing numbers zero. -/
def Call.ofJson? (method : String) (json : Json) (token : Option Token) : Option Call :=
  let owner := json.textAt "owner"
  let repo := json.textAt "repo"
  match method with
  | "user" => some (.user (json.textAt "login"))
  | "repository" => some (.repository owner repo)
  | "issues" =>
    (IssueFilter.ofJson? (json.entry "filter")).map fun filter =>
      .issues owner repo filter (json.natAt "page") (json.natAt "per_page")
  | "create_issue" => some (.createIssue owner repo (NewIssue.ofJson json) token)
  | "update_issue" =>
    (IssueUpdate.ofJson? json).map (.updateIssue owner repo (json.natAt "number"))
  | "star" => some (.star owner repo)
  | "unsubscribe" => some (.unsubscribe owner repo)
  | "mark_notifications_read" => some .markNotificationsRead
  | _ => none

/-- The path of a repository. -/
def repositoryPath (lead owner repo tail : String) : String :=
  lead ++ Text.percentEncode owner ++ "/" ++ Text.percentEncode repo ++ tail

/-- A value or null. -/
def optionalValue (value : Option String) : Query.Value :=
  match value with
  | some text => .present (.text text)
  | none => .absent

/-- The query string of a listing. The fields of the filter are always written, the numbers
unless they are zero. -/
def issuesQuery (filter : IssueFilter) (page perPage : Nat) : String :=
  let pairs : Query.Pairs := []
  let pairs := pairs.push "state" (optionalValue (filter.state.map IssueState.alias)) .always
  let pairs := pairs.push "labels" (optionalValue filter.labels) .always
  let pairs := pairs.push "sort" (optionalValue (filter.sortBy.map IssueSort.alias)) .always
  let pairs :=
    pairs.push "direction" (optionalValue (filter.sortDirection.map SortDirection.alias)) .always
  let pairs := pairs.push "page" (.whole page) .omitNullOrDefault
  let pairs := pairs.push "per_page" (.whole perPage) .omitNullOrDefault
  pairs.finish

/-- The request of a call. -/
def Call.draft : Call → Draft
  | .user login => .new .get ("/users/" ++ Text.percentEncode login)
  | .repository owner repo => .new .get (repositoryPath "/repos/" owner repo "")
  | .issues owner repo filter page perPage =>
    .new .get (repositoryPath "/repos/" owner repo "/issues" ++ issuesQuery filter page perPage)
  | .createIssue owner repo issue token =>
    ((Draft.new .post (repositoryPath "/repos/" owner repo "/issues")).withBody
      (.ok issue.toJson)).withToken token
  | .updateIssue owner repo number update =>
    (Draft.new .put (repositoryPath "/repos/" owner repo "/issues/" ++
      Text.percentEncode (toString number))).withBody (.ok update.toJson)
  | .star owner repo => .new .put (repositoryPath "/user/starred/" owner repo "")
  | .unsubscribe owner repo =>
    .new .delete (repositoryPath "/repos/" owner repo "/subscription")
  | .markNotificationsRead => .new .put "/notifications"

/-- Calls that are made blocking. -/
def Call.isBlocking : Call → Bool
  | .unsubscribe .. => true
  | _ => false

/-- Makes a call, polling its request that many times. -/
def Call.send (call : Call) (surroundings : Client.Surroundings) (transport : Client.Transport)
    (between : Nat → Bool) (count : Nat) : Draft.Sending :=
  if call.isBlocking then call.draft.block surroundings transport between count
  else call.draft.dispatch transport between count

/-- How a call ends: with a value in its JSON form, or with an error, which the update of an
issue wraps into one of its own. -/
inductive Outcome
  | value (json : Json)
  | failed (error : ClientError)
  | wrapped (error : ClientError)

/-- A value in its JSON form, or the error. -/
def outcomeOf {α : Type} (write : α → Json) : Except ClientError α → Outcome
  | .ok value => .value (write value)
  | .error error => .failed error

/-- How the call ends once its request has been sent. Marking notifications never fails. -/
def Call.outcome (call : Call) (sending : Draft.Sending) : Option Outcome :=
  match call with
  | .user _ => (sending.value User.form).map (outcomeOf User.toJson)
  | .repository .. => (sending.value Repository.form).map (outcomeOf Repository.toJson)
  | .issues .. =>
    (sending.value Issue.form.list).map
      (outcomeOf fun held => .list (held.map Issue.toJson))
  | .createIssue .. => (sending.value Issue.form).map (outcomeOf Issue.toJson)
  | .updateIssue .. =>
    (sending.value Issue.form).map fun result =>
      match result with
      | .ok issue => .value issue.toJson
      | .error error => .wrapped error
  | .star .. | .unsubscribe .. => sending.unit.map (outcomeOf fun _ => .null)
  | .markNotificationsRead => sending.unit.map fun _ => .value .null

end Endpoint.Github
