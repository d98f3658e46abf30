import Endpoint.Alias

/-!
Accounts, repositories and issues of GitHub, and their JSON forms.
-/

namespace Endpoint.Github

/-- The state of an issue, or that of all in a listing. -/
inductive IssueState
  | «open»
  | closed
  | all
deriving DecidableEq, Repr

/-- What a listing of issues is sorted by. -/
inductive IssueSort
  | created
  | updated
  | comments
deriving DecidableEq, Repr

inductive SortDirection
  | ascending
  | descending
deriving DecidableEq, Repr

def IssueState.table : AliasTable IssueState :=
  [(.open, "open"), (.closed, "closed"), (.all, "all")]

def IssueSort.table : AliasTable IssueSort :=
  [(.created, "created"), (.updated, "updated"), (.comments, "comments")]

def SortDirection.table : AliasTable SortDirection :=
  [(.ascending, "asc"), (.descending, "desc")]

def IssueState.alias (state : IssueState) : String := (table.alias? state).getD ""

def IssueSort.alias (sort : IssueSort) : String := (table.alias? sort).getD ""

def SortDirection.alias (direction : SortDirection) : String := (table.alias? direction).getD ""

def IssueState.ofJson? (json : Json) : Option IssueState := (table.decode json).toOption

/-! ### Answers -/

structure User where
  login : String
  id : Nat
  name : Option String
deriving DecidableEq, Repr

structure Repository where
  id : Nat
  fullName : String
  description : Option String
  stars : Nat
deriving DecidableEq, Repr

structure Issue where
  number : Nat
  title : String
  state : IssueState
deriving DecidableEq, Repr

/-- A whole number of 64 bits. -/
def count? : Json → Option Nat := Json.natBelow? (Nat.pow 2 64)

/-- A text that may be null or missing. -/
def optionalText? : Option Json → Option (Option String)
  | none => some none
  | some value => Json.optional? Json.text? value

/-- The form of a record with fields of these names, read from the values found for them. -/
def recordForm {α : Type} (names : List String) (read : List (Option Json) → Option α) :
    Json.Form α :=
  ⟨.entries names, fun json => (json.fields? names).bind read⟩

def User.form : Json.Form User :=
  recordForm ["login", "id", "name"] fun
    | [login, id, name] => do
      return ⟨← (← login).text?, ← count? (← id), ← optionalText? name⟩
    | _ => none

def Repository.form : Json.Form Repository :=
  recordForm ["id", "full_name", "description", "stargazers_count"] fun
    | [id, fullName, description, stars] => do
      return ⟨← count? (← id), ← (← fullName).text?, ← optionalText? description,
        ← count? (← stars)⟩
    | _ => none

def Issue.form : Json.Form Issue :=
  recordForm ["number", "title", "state"] fun
    | [number, title, state] => do
      return ⟨← count? (← number), ← (← title).text?, ← IssueState.ofJson? (← state)⟩
    | _ => none

def User.toJson (user : User) : Json :=
  .record [("login", .text user.login), ("id", .nat user.id),
    ("name", .ofOption .text user.name)]

def Repository.toJson (repository : Repository) : Json :=
  .record [("id", .nat repository.id), ("full_name", .text repository.fullName),
    ("description", .ofOption .text repository.description),
    ("stargazers_count", .nat repository.stars)]

def IssueState.toJson (state : IssueState) : Json := .text state.alias

def Issue.toJson (issue : Issue) : Json :=
  .record [("number", .nat issue.number), ("title", .text issue.title),
    ("state", issue.state.toJson)]

/-! ### Bodies -/

structure NewIssue where
  title : String
  body : Option String
  labels : List String
deriving DecidableEq, Repr

structure IssueUpdate where
  title : Option String
  state : Option IssueState
deriving DecidableEq, Repr

/-- An entry that is left out if there is no value. -/
def optionalEntry (key : String) (value : Option Json) : List (String × Json) :=
  (value.map fun value => [(key, value)]).getD []

def NewIssue.toJson (issue : NewIssue) : Json :=
  .record (("title", .text issue.title) :: (optionalEntry "body" (issue.body.map .text) ++
    if issue.labels.isEmpty then [] else [("labels", .texts issue.labels)]))

def IssueUpdate.toJson (update : IssueUpdate) : Json :=
  .record (optionalEntry "title" (update.title.map .text) ++
    optionalEntry "state" (update.state.map IssueState.toJson))

/-- What a listing of issues is narrowed and ordered by. -/
structure IssueFilter where
  state : Option IssueState
  labels : Option String
  sortBy : Option IssueSort
  sortDirection : Option SortDirection
deriving DecidableEq, Repr

end Endpoint.Github
