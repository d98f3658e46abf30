import Endpoint.Definition
import Endpoint.Lowering.Helper

/-!
How the declared return type of a method is understood: the type of its value, how it is handed
out, and where failures are reported.
-/

namespace Endpoint.Lowering

open Source (Signature Ty Bound Argument)

/-- Why a return type has no meaning for a client. -/
inductive ReturnFault
  | asyncTask
  | taskArguments (count : Nat)
  | hiddenError
  | resultArguments
  | unnamedOutput
  | otherTrait
deriving DecidableEq, Repr

def ReturnFault.message : ReturnFault → String
  | .asyncTask => "an async fn cannot return a Task"
  | .taskArguments count => s!"Task takes at most one type argument, found {count}"
  | .hiddenError =>
    "a single-argument `Result` alias hides the error type; spell out `Result<T, E>`"
  | .resultArguments => "`Result` needs exactly a value and an error type"
  | .unnamedOutput => "`impl Future` must name its `Output` type"
  | .otherTrait => "only `impl Future<Output = ..>` is supported as an `impl Trait` return"

/-- Whether the names are those of a result type. -/
def namesResult (names : Names) : Bool :=
  match names.reverse with
  | [last] => last == "Result"
  | last :: module :: _ => last == "Result" && ["result", "io", "fmt"].contains module
  | [] => false

/-- The type arguments of a result type. -/
def resultArguments? : Ty → Option (List Ty)
  | .path path => if namesResult path.names then some (typeArguments path) else none
  | _ => none

/-- The type arguments of the vocabulary's task type. -/
def taskArguments? (imports : Imports) : Ty → Option (List Ty)
  | .path path =>
    if imports.knownType? path == some .task then some (typeArguments path) else none
  | _ => none

/-- The type, unless it is `()`. -/
def valueType (ty : Ty) : Option Ty := if isUnit ty then none else some ty

/-- The type of the value and the error channel that a type declares. -/
def peelResult (ty : Ty) : Except ReturnFault (Option Ty × ErrorChannel) :=
  let ty := bare ty
  match resultArguments? ty with
  | none => .ok (valueType ty, .none)
  | some [value, error] => .ok (valueType (bare value), .result error)
  | some [_] => .error .hiddenError
  | some _ => .error .resultArguments

/-- The shape of a result that is handed out as it is. -/
def plainReturns (ty : Option Ty) (isAsync : Bool) (wrapper : Wrapper) :
    Except ReturnFault Returns :=
  match ty with
  | none => .ok ⟨none, isAsync, wrapper, .none⟩
  | some ty => do
    let (value, error) ← peelResult ty
    return ⟨value, isAsync, wrapper, error⟩

/-- The shape of a task with these type arguments. -/
def taskReturns : List Ty → Except ReturnFault Returns
  | [] => .ok ⟨none, true, .task, .builtin⟩
  | [ty] => .ok ⟨valueType ty, true, .task, .builtin⟩
  | many => .error (.taskArguments many.length)

/-- The type named `Output` among generic arguments. -/
def outputArgument? (held : List Argument) : Option Ty :=
  held.findSome? fun
    | .associatedType name _ ty => if name.written == "Output" then some (bare ty) else none
    | _ => none

/-- The output of the first bound that is a future. -/
def futureBound : List Bound → Except ReturnFault Ty
  | [] => .error .otherTrait
  | .trait _ _ _ path :: rest =>
    match path.segments.getLast? with
    | some segment =>
      if segment.name.written == "Future" then
        match segment.arguments with
        | .angle _ held _ =>
          match outputArgument? held with
          | some ty => .ok ty
          | none => .error .unnamedOutput
        | _ => .error .unnamedOutput
      else futureBound rest
    | none => futureBound rest
  | _ :: rest => futureBound rest

/-- The output of a future that a type declares, if it is a type known by its traits alone. -/
def futureOutput : Ty → Except ReturnFault (Option Ty)
  | .implTrait bounds _ => (futureBound bounds).map some
  | _ => .ok none

/-- The shape of the result that a signature declares. -/
def classify (imports : Imports) (signature : Signature) : Except ReturnFault Returns :=
  let declared := signature.output.map bare
  if signature.isAsync then
    if (declared.bind (taskArguments? imports)).isSome then .error .asyncTask
    else plainReturns declared true .asyncFn
  else
    match declared with
    | none => .ok ⟨none, false, .blocking, .none⟩
    | some ty => do
      match ← futureOutput ty with
      | some output => plainReturns (some output) true .implFuture
      | none =>
        match taskArguments? imports ty with
        | some held => taskReturns held
        | none => plainReturns (some ty) false .blocking

end Endpoint.Lowering
