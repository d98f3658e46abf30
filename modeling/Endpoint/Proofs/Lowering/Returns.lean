import Endpoint.Proofs.Lowering.Naming
import Endpoint.Proofs.Outcome
import Mathlib.Logic.Relation

/-!
The results that signatures declare. Main statements: a signature that is classified declares what
the shape of its result hands out, and parentheses around what it declares change nothing but those
in the type of the value.
-/

namespace Endpoint.Lowering

open Source (Argument Bound Path Signature Ty)

/-! ### Declared types -/

/-- The first type is the second, with any parentheses around it. -/
inductive Encloses : Ty → Ty → Prop
  | same (ty : Ty) : Encloses ty ty
  | paren {ty inner : Ty} (behind : Encloses ty inner) : Encloses (.paren ty) inner

/-- The type is `()`, with any parentheses around it. -/
def IsNothing (ty : Ty) : Prop := ∃ comma, Encloses ty (.tuple [] comma)

/-- The type is that of the value, or `()` if there is none. -/
def IsValue : Option Ty → Ty → Prop
  | none, ty => IsNothing ty
  | some value, ty => Encloses ty value

/-- The names are those of a result: `Result` alone, or in a module that has one. -/
def NamesResult (names : Names) : Prop :=
  names = ["Result"] ∨
    ∃ before module, module ∈ ["result", "io", "fmt"] ∧ names = before ++ [module, "Result"]

/-- The path of the bound ends in `Future`. -/
def IsFuture (bound : Bound) : Prop :=
  ∃ paren relaxed binder path segment, bound = .trait paren relaxed binder path ∧
    path.segments.getLast? = some segment ∧ segment.name.written = "Future"

/-- The generic argument names the type as `Output`. -/
def IsOutput (argument : Argument) (ty : Ty) : Prop :=
  ∃ name held, argument = .associatedType name held ty ∧ name.written = "Output"

/-- The type is the first that is named as `Output` among generic arguments. -/
def HasOutput (held : List Argument) (ty : Ty) : Prop :=
  ∃ front argument back, held = front ++ argument :: back ∧ IsOutput argument ty ∧
    ∀ other ∈ front, ∀ ty, ¬IsOutput other ty

/-- The type is the output of the first future among bounds. -/
def FirstOutput (bounds : List Bound) (ty : Ty) : Prop :=
  ∃ (before : List Bound) (paren relaxed : Bool) (binder : Option Source.Binder)
    (applied : Applied) (held : List Argument) (behind : List Bound),
    bounds = before ++ .trait paren relaxed binder (applied.path held) :: behind ∧
      (∀ other ∈ before, ¬IsFuture other) ∧ applied.name.written = "Future" ∧ HasOutput held ty

/-- What a body hands out: nothing, a result of a value and an error (of the client, if none is
given), or a future of it that is boxed or not. -/
inductive Handed
  | nothing
  | result (value error : Option Ty)
  | future (output : Handed)
  | boxed (output : Handed)

/-- The outcome of a request, as it is handed out with the error channel. -/
def outcomeOf (value : Option Ty) : ErrorChannel → Handed
  | .none => .nothing
  | .result error => .result value (some error)
  | .builtin => .result value none

/-- What a method with the shape of a result hands out. -/
def handedOf (returns : Returns) : Handed :=
  let outcome := outcomeOf returns.value returns.error
  match returns.wrapper with
  | .blocking | .asyncFn => outcome
  | .implFuture => .future outcome
  | .task => .boxed outcome

/-- The type is that of what is handed out, up to parentheses. -/
inductive IsOf (imports : Imports) : Ty → Handed → Prop
  | nothing {ty : Ty} (unit : IsNothing ty) : IsOf imports ty .nothing
  | result {ty : Ty} (path : Path) {value : Option Ty} {held error : Ty}
      (own : Encloses ty (.path path)) (named : NamesResult path.names)
      (arguments : typeArguments path = [held, error]) (same : IsValue value held) :
      IsOf imports ty (.result value (some error))
  | future {ty : Ty} (bounds : List Bound) (plus : Bool) {output : Ty} {handed : Handed}
      (own : Encloses ty (.implTrait bounds plus)) (first : FirstOutput bounds output)
      (held : IsOf imports output handed) : IsOf imports ty (.future handed)
  | task {ty : Ty} (path : Path) (own : Encloses ty (.path path))
      (stands : imports.StandsForType .task path) (arguments : typeArguments path = []) :
      IsOf imports ty (.boxed (.result none none))
  | taskOf {ty : Ty} (path : Path) {value : Option Ty} {held : Ty}
      (own : Encloses ty (.path path)) (stands : imports.StandsForType .task path)
      (arguments : typeArguments path = [held]) (same : IsValue value held) :
      IsOf imports ty (.boxed (.result value none))

/-- A signature declares what is handed out: no type if it is nothing, or its type. -/
def Declares (imports : Imports) (output : Option Ty) (handed : Handed) : Prop :=
  (output = none ∧ handed = .nothing) ∨ ∃ ty, output = some ty ∧ IsOf imports ty handed

theorem encloses_bare (ty : Ty) : Encloses ty (bare ty) := by
  fun_induction bare ty with
  | case1 inner ih => exact .paren ih
  | case2 ty => exact .same ty

theorem Encloses.trans {ty inner core : Ty} (outer : Encloses ty inner)
    (behind : Encloses inner core) : Encloses ty core := by
  induction outer with
  | same => exact behind
  | paren _ ih => exact .paren (ih behind)

theorem Encloses.bare_eq {ty inner : Ty} (outer : Encloses ty inner) : bare ty = bare inner := by
  induction outer with
  | same => rfl
  | paren _ ih => exact ih

theorem isUnit_iff {ty : Ty} : isUnit ty = true ↔ IsNothing ty := by
  unfold isUnit
  constructor
  · intro unit
    split at unit
    · rename_i comma core
      exact ⟨comma, core ▸ encloses_bare ty⟩
    · cases unit
  · rintro ⟨comma, own⟩
    rw [own.bare_eq]
    rfl

theorem isValue_valueType (ty : Ty) : IsValue (valueType ty) ty := by
  unfold valueType
  split
  · rename_i unit
    exact isUnit_iff.mp unit
  · exact .same ty

/-- The type of a value is never `()`. -/
theorem valueType_something {ty value : Ty} (found : valueType ty = some value) :
    ¬IsNothing value := by
  unfold valueType at found
  split at found
  · cases found
  · rename_i something
    cases found
    exact fun unit => something (isUnit_iff.mpr unit)

theorem IsNothing.around {ty inner : Ty} (outer : Encloses ty inner) (unit : IsNothing inner) :
    IsNothing ty := by
  obtain ⟨comma, own⟩ := unit
  exact ⟨comma, outer.trans own⟩

theorem IsValue.around {value : Option Ty} {ty inner : Ty} (outer : Encloses ty inner)
    (same : IsValue value inner) : IsValue value ty := by
  cases value with
  | none => exact IsNothing.around outer same
  | some value => exact outer.trans same

theorem IsOf.around {imports : Imports} {ty inner : Ty} {handed : Handed}
    (outer : Encloses ty inner) (held : IsOf imports inner handed) : IsOf imports ty handed := by
  cases held with
  | nothing unit => exact .nothing (unit.around outer)
  | result path own named arguments same =>
    exact .result path (outer.trans own) named arguments same
  | future bounds plus own first held => exact .future bounds plus (outer.trans own) first held
  | task path own stands arguments => exact .task path (outer.trans own) stands arguments
  | taskOf path own stands arguments same =>
    exact .taskOf path (outer.trans own) stands arguments same

/-! ### What is classified -/

theorem namesResult_iff {names : Names} : namesResult names = true ↔ NamesResult names := by
  unfold namesResult NamesResult
  split
  · rename_i last only
    obtain rfl : names = [last] := by simpa using List.reverse_eq_iff.mp only
    constructor
    · intro same
      exact .inl (congrArg (fun name => [name]) (beq_iff_eq.mp same))
    · rintro (same | ⟨before, module, _, split⟩)
      · simpa using same
      · have short := congrArg List.length split
        simp at short
  · rename_i last module before ends
    obtain rfl : names = before.reverse ++ [module, last] := by
      simpa using List.reverse_eq_iff.mp ends
    simp only [Bool.and_eq_true, beq_iff_eq, List.contains_iff_mem]
    constructor
    · rintro ⟨rfl, inside⟩
      exact .inr ⟨before.reverse, module, inside, rfl⟩
    · rintro (same | ⟨before', module', inside, split⟩)
      · have long := congrArg List.length same
        simp at long
      · obtain ⟨-, same⟩ := List.append_inj' split rfl
        cases same
        exact ⟨rfl, inside⟩
  · rename_i none
    obtain rfl := List.reverse_eq_nil_iff.mp none
    simp

theorem resultArguments?_eq_some_iff {ty : Ty} {held : List Ty} :
    resultArguments? ty = some held ↔
      ∃ path, ty = .path path ∧ NamesResult path.names ∧ typeArguments path = held := by
  unfold resultArguments?
  split
  · rename_i path
    simp [namesResult_iff]
  · rename_i other
    refine iff_of_false (by simp) ?_
    rintro ⟨path, rfl, _⟩
    exact other path rfl

theorem taskArguments?_eq_some_iff {imports : Imports} {ty : Ty} {held : List Ty} :
    taskArguments? imports ty = some held ↔
      ∃ path, ty = .path path ∧ imports.StandsForType .task path ∧ typeArguments path = held := by
  unfold taskArguments?
  split
  · rename_i path
    simp [Imports.knownType?_eq_some_iff]
  · rename_i other
    refine iff_of_false (by simp) ?_
    rintro ⟨path, rfl, _⟩
    exact other path rfl

theorem peelResult_declares {imports : Imports} {ty : Ty} {value : Option Ty} {error : ErrorChannel}
    (peeled : peelResult ty = .ok (value, error)) (kept : error = .none → value = none) :
    IsOf imports ty (outcomeOf value error) := by
  refine IsOf.around (encloses_bare ty) ?_
  unfold peelResult at peeled
  dsimp only at peeled
  split at peeled
  · cases peeled
    have unit := isValue_valueType (bare ty)
    rw [kept rfl] at unit
    exact .nothing unit
  · rename_i held error found
    cases peeled
    obtain ⟨path, own, named, arguments⟩ := resultArguments?_eq_some_iff.mp found
    exact .result path (own ▸ .same _) named arguments
      ((isValue_valueType (bare held)).around (encloses_bare held))
  · cases peeled
  · cases peeled

/-- The type that an argument names as `Output`. -/
def output? : Argument → Option Ty
  | .associatedType name _ ty => if name.written = "Output" then some ty else none
  | _ => none

theorem output?_eq_some_iff {argument : Argument} {ty : Ty} :
    output? argument = some ty ↔ IsOutput argument ty := by
  unfold output? IsOutput
  split
  · rename_i name held found
    simp only [Option.ite_none_right_eq_some, Option.some.injEq, Argument.associatedType.injEq]
    constructor
    · rintro ⟨called, rfl⟩
      exact ⟨name, held, ⟨rfl, rfl, rfl⟩, called⟩
    · rintro ⟨_, _, ⟨rfl, rfl, rfl⟩, called⟩
      exact ⟨called, rfl⟩
  · rename_i other
    refine iff_of_false (by simp) ?_
    rintro ⟨name, held, rfl, _⟩
    exact other name held ty rfl

theorem outputArgument?_eq (held : List Argument) :
    outputArgument? held = (held.findSome? output?).map bare := by
  rw [outputArgument?, List.map_findSome?]
  congr 1
  funext argument
  cases argument with
  | associatedType name _ ty => by_cases called : name.written = "Output" <;> simp [output?, called]
  | _ => rfl

theorem findSome?_output? {held : List Argument} {ty : Ty} :
    held.findSome? output? = some ty ↔ HasOutput held ty := by
  simp only [List.findSome?_eq_some_iff, output?_eq_some_iff, Option.eq_none_iff_forall_ne_some,
    ne_eq, HasOutput]

theorem futureBound_other {bound : Bound} (other : ¬IsFuture bound) (rest : List Bound) :
    futureBound (bound :: rest) = futureBound rest := by
  cases bound with
  | trait paren relaxed binder path =>
    rw [futureBound]
    split
    · rename_i segment last
      have named : (segment.name.written == "Future") = false :=
        beq_eq_false_iff_ne.mpr fun named =>
          other ⟨paren, relaxed, binder, path, segment, rfl, last, named⟩
      simp [named]
    · rfl
  | _ => rfl

theorem futureBound_future {applied : Applied} (named : applied.name.written = "Future")
    (paren relaxed : Bool) (binder : Option Source.Binder) (held : List Argument)
    (rest : List Bound) :
    futureBound (.trait paren relaxed binder (applied.path held) :: rest) =
      match held.findSome? output? with
      | some ty => .ok (bare ty)
      | none => .error .unnamedOutput := by
  rw [futureBound]
  simp only [applied.getLast?_path, named, beq_self_eq_true, if_true, outputArgument?_eq]
  cases held.findSome? output? <;> rfl

/-- The output that is found is that of the first future. -/
theorem futureBound_eq_ok_iff {bounds : List Bound} {ty : Ty} :
    futureBound bounds = .ok ty ↔ ∃ output, FirstOutput bounds output ∧ ty = bare output := by
  constructor
  · intro found
    induction bounds with
    | nil => cases found
    | cons bound rest ih =>
      by_cases future : IsFuture bound
      · obtain ⟨paren, relaxed, binder, path, ⟨name, arguments⟩, rfl, last, named⟩ := future
        have applies : ∃ turbofish held comma, arguments = .angle turbofish held comma := by
          rw [futureBound, last] at found
          simp only [named, beq_self_eq_true, if_true] at found
          split at found
          · exact ⟨_, _, _, rfl⟩
          · cases found
        obtain ⟨turbofish, held, comma, rfl⟩ := applies
        obtain ⟨applied, rfl⟩ := exists_applied (by rw [last]; rfl)
        rw [applied.getLast?_path] at last
        cases last
        rw [futureBound_future named] at found
        split at found
        · rename_i output has
          cases found
          exact ⟨output, ⟨[], paren, relaxed, binder, applied, held, rest, rfl, by simp, named,
            findSome?_output?.mp has⟩, rfl⟩
        · cases found
      · rw [futureBound_other future] at found
        obtain ⟨output, ⟨before, paren, relaxed, binder, applied, held, behind, rfl, others, rest⟩,
          same⟩ := ih found
        refine ⟨output, ⟨bound :: before, paren, relaxed, binder, applied, held, behind, rfl, ?_,
          rest⟩, same⟩
        simpa [future] using others
  · rintro ⟨output, ⟨before, paren, relaxed, binder, applied, held, behind, rfl, others, named,
      has⟩, rfl⟩
    induction before with
    | nil => rw [List.nil_append, futureBound_future named, findSome?_output?.mpr has]
    | cons bound before ih =>
      rw [List.cons_append, futureBound_other (others bound (by simp))]
      exact ih fun other inside => others other (List.mem_cons_of_mem _ inside)

theorem taskReturns_declares {imports : Imports} {path : Path} {returns : Returns}
    (stands : imports.StandsForType .task path)
    (made : taskReturns (typeArguments path) = .ok returns) :
    IsOf imports (.path path) (handedOf returns) := by
  unfold taskReturns at made
  split at made
  · rename_i none
    cases made
    exact .task path (.same _) stands none
  · rename_i held one
    cases made
    exact .taskOf path (.same _) stands one (isValue_valueType held)
  · cases made

/-- The declared type stands for no task. -/
def IsPlain (imports : Imports) (output : Option Ty) : Prop :=
  ∀ ty path, output = some ty → bare ty = .path path → ¬imports.StandsForType .task path

/-- The ways in which a signature is classified. -/
inductive Classified (imports : Imports) (signature : Signature) (returns : Returns) : Prop
  | asyncFn (async : signature.isAsync = true) (other : IsPlain imports signature.output)
      (plain : plainReturns (signature.output.map bare) true .asyncFn = .ok returns)
  | blocking (sync : signature.isAsync = false) (other : IsPlain imports signature.output)
      (known : ∀ ty bounds plus, signature.output = some ty → bare ty ≠ .implTrait bounds plus)
      (plain : plainReturns (signature.output.map bare) false .blocking = .ok returns)
  | future (sync : signature.isAsync = false) {ty output : Ty} {bounds : List Bound} {plus : Bool}
      (declared : signature.output = some ty) (core : bare ty = .implTrait bounds plus)
      (first : FirstOutput bounds output)
      (plain : plainReturns (some (bare output)) true .implFuture = .ok returns)
  | task (sync : signature.isAsync = false) {ty : Ty} {path : Path}
      (declared : signature.output = some ty) (core : bare ty = .path path)
      (stands : imports.StandsForType .task path)
      (made : taskReturns (typeArguments path) = .ok returns)

theorem isPlain_iff {imports : Imports} {output : Option Ty} :
    IsPlain imports output ↔ (output.map bare).bind (taskArguments? imports) = none := by
  cases output with
  | none => simp [IsPlain]
  | some ty =>
    rw [Option.map_some, Option.bind_some, Option.eq_none_iff_forall_ne_some]
    simp only [ne_eq, taskArguments?_eq_some_iff]
    constructor
    · rintro other _ ⟨path, core, stands, _⟩
      exact other ty path rfl core stands
    · rintro other ty path same core stands
      cases same
      exact other _ ⟨path, core, stands, rfl⟩

theorem futureOutput_eq_none {ty : Ty} (known : ∀ bounds plus, ty ≠ .implTrait bounds plus) :
    futureOutput ty = .ok none := by
  unfold futureOutput
  split
  · rename_i bounds plus
    exact absurd rfl (known bounds plus)
  · rfl

theorem classified_of_classify {imports : Imports} {signature : Signature} {returns : Returns}
    (classified : classify imports signature = .ok returns) :
    Classified imports signature returns := by
  unfold classify at classified
  dsimp only at classified
  split at classified
  · rename_i async
    split at classified
    · cases classified
    · rename_i other
      rw [Option.not_isSome_iff_eq_none, ← isPlain_iff] at other
      exact .asyncFn async other classified
  · rename_i sync
    rw [Bool.not_eq_true] at sync
    split at classified
    · rename_i none
      have undeclared := Option.map_eq_none_iff.mp none
      refine .blocking sync ?_ ?_ (by rw [none]; exact classified)
      · simp [IsPlain, undeclared]
      · simp [undeclared]
    · rename_i core declared
      obtain ⟨ty, output, rfl⟩ := Option.map_eq_some_iff.mp declared
      obtain ⟨future, found, classified⟩ := bind_eq_ok.mp classified
      unfold futureOutput at found
      split at found
      · rename_i bounds plus core
        obtain ⟨_, bound, rfl⟩ := map_eq_ok.mp found
        obtain ⟨held, first, rfl⟩ := futureBound_eq_ok_iff.mp bound
        exact .future sync output core first classified
      · rename_i known
        cases found
        dsimp only at classified
        split at classified
        · rename_i arguments task
          obtain ⟨path, core, stands, rfl⟩ := taskArguments?_eq_some_iff.mp task
          exact .task sync output core stands classified
        · rename_i other
          refine .blocking sync ?_ ?_ (by rw [declared]; exact classified)
          · rw [isPlain_iff, declared]
            exact other
          · intro other bounds plus same
            cases output.symm.trans same
            exact known bounds plus

/-- Each of the ways leads there. -/
theorem Classified.classify {imports : Imports} {signature : Signature} {returns : Returns}
    (classified : Classified imports signature returns) :
    classify imports signature = .ok returns := by
  unfold Lowering.classify
  dsimp only
  cases classified with
  | asyncFn async other plain => simp [async, isPlain_iff.mp other, plain]
  | blocking sync other known plain =>
    cases declared : signature.output with
    | none =>
      rw [declared] at plain
      cases plain
      simp [sync]
    | some ty =>
      rw [declared] at plain
      have none := futureOutput_eq_none fun bounds plus => known ty bounds plus declared
      have own := isPlain_iff.mp other
      rw [declared, Option.map_some, Option.bind_some] at own
      simp only [sync, Bool.false_eq_true, if_false, Option.map_some, none, own]
      exact plain
  | future sync declared core first plain =>
    have bound := futureBound_eq_ok_iff.mpr ⟨_, first, rfl⟩
    simp only [sync, Bool.false_eq_true, if_false, declared, Option.map_some, core, futureOutput,
      bound]
    exact plain
  | task sync declared core stands made =>
    have task := taskArguments?_eq_some_iff.mpr ⟨_, rfl, stands, rfl⟩
    simp only [sync, Bool.false_eq_true, if_false, declared, Option.map_some, core, futureOutput,
      task]
    exact made

theorem plainReturns_eq_ok {ty : Option Ty} {isAsync : Bool} {wrapper : Wrapper}
    {returns : Returns} (plain : plainReturns ty isAsync wrapper = .ok returns) :
    ∃ value error, returns = ⟨value, isAsync, wrapper, error⟩ ∧
      (ty = none ∧ value = none ∧ error = .none ∨
        ∃ held, ty = some held ∧ peelResult held = .ok (value, error)) := by
  cases ty with
  | none =>
    cases plain
    exact ⟨_, _, rfl, .inl ⟨rfl, rfl, rfl⟩⟩
  | some held =>
    obtain ⟨⟨value, error⟩, peeled, made⟩ := bind_eq_ok.mp plain
    cases made
    exact ⟨value, error, rfl, .inr ⟨held, rfl, peeled⟩⟩

/-- What a signature hands out with the shape of its result is what it declares, if there is an
error channel for every value. -/
theorem classify_declares {imports : Imports} {signature : Signature} {returns : Returns}
    (classified : classify imports signature = .ok returns)
    (kept : returns.error = .none → returns.value = none) :
    Declares imports signature.output (handedOf returns) := by
  have plainly {ty : Option Ty} {isAsync : Bool} {wrapper : Wrapper}
      (plain : plainReturns (ty.map bare) isAsync wrapper = .ok returns) :
      Declares imports ty (outcomeOf returns.value returns.error) := by
    obtain ⟨value, error, rfl, ⟨none, rfl, rfl⟩ | ⟨held, some, peeled⟩⟩ := plainReturns_eq_ok plain
    · exact .inl ⟨Option.map_eq_none_iff.mp none, rfl⟩
    · obtain ⟨own, declared, rfl⟩ := Option.map_eq_some_iff.mp some
      exact .inr ⟨own, declared, (peelResult_declares peeled kept).around (encloses_bare own)⟩
  cases classified_of_classify classified with
  | asyncFn async other plain =>
    have declares := plainly plain
    obtain ⟨_, _, rfl, _⟩ := plainReturns_eq_ok plain
    exact declares
  | blocking sync other known plain =>
    have declares := plainly plain
    obtain ⟨_, _, rfl, _⟩ := plainReturns_eq_ok plain
    exact declares
  | @future sync ty output bounds plus declared core first plain =>
    obtain ⟨value, error, rfl, ⟨none, _⟩ | ⟨held, some, peeled⟩⟩ := plainReturns_eq_ok plain
    · cases none
    · cases some
      refine .inr ⟨ty, declared, IsOf.around (encloses_bare ty) ?_⟩
      rw [core]
      exact .future bounds plus (.same _) first
        ((peelResult_declares peeled kept).around (encloses_bare output))
  | @task sync ty path declared core stands made =>
    refine .inr ⟨ty, declared, IsOf.around (encloses_bare ty) ?_⟩
    rw [core]
    exact taskReturns_declares stands made

theorem peelResult_shape {ty : Ty} {value : Option Ty} {error : ErrorChannel}
    (peeled : peelResult ty = .ok (value, error)) :
    error ≠ .builtin ∧ ∀ held, value = some held → ¬IsNothing held := by
  unfold peelResult at peeled
  dsimp only at peeled
  split at peeled
  · cases peeled
    exact ⟨nofun, fun _ => valueType_something⟩
  · cases peeled
    exact ⟨nofun, fun _ => valueType_something⟩
  · cases peeled
  · cases peeled

/-- The parts of the shape of a result agree with one another. -/
structure IsShape (signature : Signature) (returns : Returns) : Prop where
  asyncFn : returns.wrapper = .asyncFn ↔ signature.isAsync = true
  awaited : returns.isAsync = true ↔ returns.wrapper ≠ .blocking
  builtin : returns.error = .builtin ↔ returns.wrapper = .task
  something : ∀ ty, returns.value = some ty → ¬IsNothing ty

/-- The error channel of a plain result is never that of the client, which is kept for tasks. -/
theorem plainReturns_isShape {signature : Signature} {ty : Option Ty} {isAsync : Bool}
    {wrapper : Wrapper} {returns : Returns}
    (plain : plainReturns ty isAsync wrapper = .ok returns)
    (awaited : isAsync = true ↔ wrapper ≠ .blocking)
    (declared : wrapper = .asyncFn ↔ signature.isAsync = true) (direct : wrapper ≠ .task) :
    IsShape signature returns := by
  obtain ⟨value, error, rfl, ⟨_, rfl, rfl⟩ | ⟨held, _, peeled⟩⟩ := plainReturns_eq_ok plain
  · exact ⟨declared, awaited, iff_of_false nofun direct, nofun⟩
  · obtain ⟨channel, something⟩ := peelResult_shape peeled
    exact ⟨declared, awaited, iff_of_false channel direct, something⟩

theorem classify_isShape {imports : Imports} {signature : Signature} {returns : Returns}
    (classified : classify imports signature = .ok returns) : IsShape signature returns := by
  cases classified_of_classify classified with
  | asyncFn async other plain =>
    exact plainReturns_isShape plain (by simp) (by simp [async]) nofun
  | blocking sync other known plain =>
    exact plainReturns_isShape plain (by simp) (by simp [sync]) nofun
  | future sync declared core first plain =>
    exact plainReturns_isShape plain (by simp) (by simp [sync]) nofun
  | task sync declared core stands made =>
    unfold taskReturns at made
    split at made
    · cases made
      exact ⟨by simp [sync], by simp, by simp, nofun⟩
    · cases made
      exact ⟨by simp [sync], by simp, by simp, fun _ => valueType_something⟩
    · cases made

/-! ### Parentheses -/

/-- The path holds the type of a value as its first type argument: it is a result or a task. -/
def HoldsValue (imports : Imports) (path : Path) : Prop :=
  NamesResult path.names ∨ imports.StandsForType .task path

/-- The second type has one more pair of parentheses than the first: around it, around the value of
a result or task, or around the output of its first future. -/
inductive Groups (imports : Imports) : Ty → Ty → Prop
  | around (ty : Ty) : Groups imports ty (.paren ty)
  | under {ty ty' : Ty} (groups : Groups imports ty ty') : Groups imports (.paren ty) (.paren ty')
  | value (applied : Applied) {front back : List Argument} {ty ty' : Ty}
      (holds : HoldsValue imports (applied.path (front ++ .type ty :: back)))
      (first : ∀ argument ∈ front, ∀ ty, argument ≠ .type ty) (groups : Groups imports ty ty') :
      Groups imports (.path (applied.path (front ++ .type ty :: back)))
        (.path (applied.path (front ++ .type ty' :: back)))
  | output (applied : Applied) {before behind : List Bound} {paren relaxed : Bool}
      {binder : Option Source.Binder} {front back : List Argument} {name : Source.Ident}
      {held : Source.Arguments} {plus : Bool} {ty ty' : Ty}
      (others : ∀ other ∈ before, ¬IsFuture other) (future : applied.name.written = "Future")
      (called : name.written = "Output") (first : ∀ other ∈ front, ∀ ty, ¬IsOutput other ty)
      (groups : Groups imports ty ty') :
      Groups imports
        (.implTrait (before ++ .trait paren relaxed binder
          (applied.path (front ++ .associatedType name held ty :: back)) :: behind) plus)
        (.implTrait (before ++ .trait paren relaxed binder
          (applied.path (front ++ .associatedType name held ty' :: back)) :: behind) plus)

/-- The second value has the type of the first, but for parentheses. -/
def SameValue (imports : Imports) : Option Ty → Option Ty → Prop :=
  Option.Rel (Relation.ReflTransGen (Groups imports))

/-- What one more pair of parentheses changes behind those around the type: nothing, the value of a
result or task, or the output of its first future. -/
inductive Regrouped (imports : Imports) : Ty → Ty → Prop
  | same (ty : Ty) : Regrouped imports ty ty
  | value {path path' : Path} {ty ty' : Ty} {rest : List Ty}
      (spelled : spelling path = spelling path') (holds : HoldsValue imports path)
      (held : typeArguments path = ty :: rest) (held' : typeArguments path' = ty' :: rest)
      (inner : Groups imports ty ty') (whole : Groups imports (.path path) (.path path')) :
      Regrouped imports (.path path) (.path path')
  | output {bounds bounds' : List Bound} {plus : Bool} {ty ty' : Ty}
      (first : FirstOutput bounds ty) (first' : FirstOutput bounds' ty')
      (inner : Groups imports ty ty')
      (whole : Groups imports (.implTrait bounds plus) (.implTrait bounds' plus)) :
      Regrouped imports (.implTrait bounds plus) (.implTrait bounds' plus)

variable {imports : Imports}

/-- The type that a generic argument is. -/
def type? : Argument → Option Ty
  | .type ty => some ty
  | _ => none

theorem typeArguments_path (applied : Applied) (held : List Argument) :
    typeArguments (applied.path held) = held.filterMap type? := by
  simp only [typeArguments, applied.getLast?_path, Option.map_some]
  rfl

theorem typeArguments_first (applied : Applied) {front : List Argument}
    (first : ∀ argument ∈ front, ∀ ty, argument ≠ .type ty) (ty : Ty) (back : List Argument) :
    typeArguments (applied.path (front ++ .type ty :: back)) = ty :: back.filterMap type? := by
  have none : front.filterMap type? = [] := by
    refine List.filterMap_eq_nil_iff.mpr fun argument inside => ?_
    cases argument with
    | type ty => exact absurd rfl (first _ inside ty)
    | _ => rfl
  rw [typeArguments_path, List.filterMap_append, none]
  rfl

theorem Groups.regrouped {ty ty' : Ty} (groups : Groups imports ty ty') :
    Regrouped imports (bare ty) (bare ty') := by
  induction groups with
  | around ty => exact .same _
  | under _ ih => exact ih
  | value applied holds first groups =>
    exact .value (applied.spelling_path ..) holds (typeArguments_first applied first ..)
      (typeArguments_first applied first ..) groups (.value applied holds first groups)
  | output applied others future called first groups =>
    exact .output
      ⟨_, _, _, _, _, _, _, rfl, others, future, _, _, _, rfl, ⟨_, _, rfl, called⟩, first⟩
      ⟨_, _, _, _, _, _, _, rfl, others, future, _, _, _, rfl, ⟨_, _, rfl, called⟩, first⟩
      groups (.output applied others future called first groups)

theorem Regrouped.groups {ty ty' : Ty} (regrouped : Regrouped imports ty ty') :
    Relation.ReflTransGen (Groups imports) ty ty' := by
  cases regrouped with
  | same => exact .refl
  | value _ _ _ _ _ whole => exact .single whole
  | output _ _ _ whole => exact .single whole

theorem Regrouped.isUnit_eq {ty ty' : Ty} (regrouped : Regrouped imports (bare ty) (bare ty')) :
    isUnit ty = isUnit ty' := by
  unfold isUnit
  generalize bare ty = core at regrouped
  generalize bare ty' = core' at regrouped
  cases regrouped <;> rfl

theorem bare_bare (ty : Ty) : bare (bare ty) = bare ty := (encloses_bare ty).bare_eq.symm

theorem sameValue_valueType {ty ty' : Ty} (regrouped : Regrouped imports (bare ty) (bare ty'))
    (related : Relation.ReflTransGen (Groups imports) ty ty') :
    SameValue imports (valueType ty) (valueType ty') := by
  unfold valueType
  rw [regrouped.isUnit_eq]
  split
  · exact .none
  · exact .some related

theorem SameValue.refl (value : Option Ty) : SameValue imports value value := by
  cases value with
  | none => exact .none
  | some ty => exact .some .refl

/-- A path that does not name a result is the type of a value. -/
theorem peelResult_path {path : Path} (apart : ¬NamesResult path.names) :
    peelResult (.path path) = .ok (valueType (.path path), .none) := by
  have none : resultArguments? (.path path) = none := by
    refine Option.eq_none_iff_forall_ne_some.mpr fun held found => ?_
    obtain ⟨_, same, named, _⟩ := resultArguments?_eq_some_iff.mp found
    cases same
    exact apart named
  unfold peelResult
  dsimp only [bare]
  rw [none]

theorem Regrouped.peelResult {core core' : Ty} {value : Option Ty} {error : ErrorChannel}
    (regrouped : Regrouped imports core core') (peeled : peelResult core = .ok (value, error)) :
    ∃ value', peelResult core' = .ok (value', error) ∧ SameValue imports value value' := by
  cases regrouped with
  | same => exact ⟨value, peeled, .refl value⟩
  | @value path path' ty ty' rest spelled holds held held' inner whole =>
    by_cases named : NamesResult path.names
    · have one := resultArguments?_eq_some_iff.mpr ⟨path, rfl, named, held⟩
      have two := resultArguments?_eq_some_iff.mpr
        ⟨path', rfl, (Prod.mk.inj spelled).2 ▸ named, held'⟩
      unfold Lowering.peelResult at peeled ⊢
      dsimp only [bare] at peeled ⊢
      rw [one] at peeled
      rw [two]
      match rest with
      | [] => cases peeled
      | [error] =>
        cases peeled
        refine ⟨_, rfl, sameValue_valueType ?_ inner.regrouped.groups⟩
        rw [bare_bare, bare_bare]
        exact inner.regrouped
      | _ :: _ :: _ => cases peeled
    · have apart : ¬NamesResult path'.names := (Prod.mk.inj spelled).2 ▸ named
      rw [peelResult_path named] at peeled
      cases peeled
      exact ⟨_, peelResult_path apart,
        sameValue_valueType (.value spelled holds held held' inner whole) (.single whole)⟩
  | output first first' inner whole =>
    cases peeled
    exact ⟨_, rfl, sameValue_valueType (.output first first' inner whole) (.single whole)⟩

theorem peelResult_bare (ty : Ty) : peelResult (bare ty) = peelResult ty := by
  unfold peelResult
  rw [bare_bare]

theorem Groups.peelResult {ty ty' : Ty} {value : Option Ty} {error : ErrorChannel}
    (groups : Groups imports ty ty') (peeled : Lowering.peelResult ty = .ok (value, error)) :
    ∃ value', Lowering.peelResult ty' = .ok (value', error) ∧ SameValue imports value value' := by
  rw [← peelResult_bare] at peeled ⊢
  exact groups.regrouped.peelResult peeled

/-- The second shape of a result is the first, but for parentheses in the type of its value. -/
def SameShape (imports : Imports) (returns returns' : Returns) : Prop :=
  ∃ value, returns' = { returns with value } ∧ SameValue imports returns.value value

/-- The signature with another declared type. -/
def withOutput (signature : Signature) (ty : Ty) : Signature := { signature with output := some ty }

theorem SameValue.trans {first second third : Option Ty} (one : SameValue imports first second)
    (two : SameValue imports second third) : SameValue imports first third := by
  cases one with
  | none => exact two
  | some one =>
    cases two with
    | some two => exact .some (one.trans two)

theorem SameShape.trans {first second third : Returns} (one : SameShape imports first second)
    (two : SameShape imports second third) : SameShape imports first third := by
  obtain ⟨value, rfl, one⟩ := one
  obtain ⟨value', rfl, two⟩ := two
  exact ⟨value', rfl, one.trans two⟩

theorem SameShape.refl (returns : Returns) : SameShape imports returns returns :=
  ⟨returns.value, rfl, .refl _⟩

theorem plainReturns_groups {ty ty' : Ty} {isAsync : Bool} {wrapper : Wrapper} {returns : Returns}
    (groups : Groups imports ty ty')
    (plain : plainReturns (some (bare ty)) isAsync wrapper = .ok returns) :
    ∃ returns', plainReturns (some (bare ty')) isAsync wrapper = .ok returns' ∧
      SameShape imports returns returns' := by
  obtain ⟨value, error, rfl, ⟨none, _⟩ | ⟨held, some, peeled⟩⟩ := plainReturns_eq_ok plain
  · cases none
  · cases some
    rw [peelResult_bare] at peeled
    obtain ⟨value', peeled', same⟩ := groups.peelResult peeled
    rw [← peelResult_bare] at peeled'
    exact ⟨⟨value', isAsync, wrapper, error⟩, bind_eq_ok.mpr ⟨_, peeled', rfl⟩, value', rfl, same⟩

theorem taskReturns_groups {ty ty' : Ty} {rest : List Ty} {returns : Returns}
    (groups : Groups imports ty ty') (made : taskReturns (ty :: rest) = .ok returns) :
    ∃ returns', taskReturns (ty' :: rest) = .ok returns' ∧ SameShape imports returns returns' := by
  cases rest with
  | nil =>
    cases made
    exact ⟨_, rfl, _, rfl, sameValue_valueType groups.regrouped (.single groups)⟩
  | cons => cases made

theorem IsPlain.groups {ty ty' : Ty} (other : IsPlain imports (some ty))
    (groups : Groups imports ty ty') : IsPlain imports (some ty') := by
  rintro _ path' same core' stands
  cases same
  have regrouped := groups.regrouped
  rw [core'] at regrouped
  generalize core : bare ty = held at regrouped
  cases regrouped with
  | same => exact other ty path' rfl core stands
  | value spelled => exact other ty _ rfl core (standsForType_congr spelled.symm stands)

theorem FirstOutput.bare_eq {bounds : List Bound} {first second : Ty}
    (one : FirstOutput bounds first) (two : FirstOutput bounds second) :
    bare first = bare second := by
  have found := futureBound_eq_ok_iff.mpr ⟨first, one, rfl⟩
  rw [futureBound_eq_ok_iff.mpr ⟨second, two, rfl⟩] at found
  exact (Except.ok.inj found).symm

/-- One more pair of parentheses changes nothing of the shape of a result but the type of its
value, by that pair. -/
theorem classify_groups {signature : Signature} {ty ty' : Ty} {returns : Returns}
    (declared : signature.output = some ty) (groups : Groups imports ty ty')
    (classified : classify imports signature = .ok returns) :
    ∃ returns', classify imports (withOutput signature ty') = .ok returns' ∧
      SameShape imports returns returns' := by
  have regrouped := groups.regrouped
  -- Each way of being classified fixes the first type without its parentheses, and that leaves only
  -- some of the ways in which the second can differ.
  generalize core' : bare ty' = held' at regrouped
  cases classified_of_classify classified with
  | asyncFn async other plain =>
    rw [declared] at other plain
    obtain ⟨returns', plain', same⟩ := plainReturns_groups groups plain
    exact ⟨returns', Classified.classify (.asyncFn async (other.groups groups) plain'), same⟩
  | blocking sync other known plain =>
    rw [declared] at other plain
    obtain ⟨returns', plain', same⟩ := plainReturns_groups groups plain
    refine ⟨returns', Classified.classify (.blocking sync (other.groups groups) ?_ plain'), same⟩
    rintro _ bounds plus same core
    cases same
    rw [← core', core] at regrouped
    generalize core : bare ty = held at regrouped
    cases regrouped with
    | same => exact known ty _ _ declared core
    | output => exact known ty _ _ declared core
  | future sync declared' core first plain =>
    cases declared.symm.trans declared'
    rw [core] at regrouped
    cases regrouped with
    | same =>
      exact ⟨returns, Classified.classify (.future sync rfl core' first plain), .refl _⟩
    | output one two inner =>
      rw [first.bare_eq one] at plain
      obtain ⟨returns', plain', same⟩ := plainReturns_groups inner plain
      exact ⟨returns', Classified.classify (.future sync rfl core' two plain'), same⟩
  | task sync declared' core stands made =>
    cases declared.symm.trans declared'
    rw [core] at regrouped
    cases regrouped with
    | same =>
      exact ⟨returns, Classified.classify (.task sync rfl core' stands made), .refl _⟩
    | value spelled holds held held' inner =>
      rw [held] at made
      obtain ⟨returns', made', same⟩ := taskReturns_groups inner made
      rw [← held'] at made'
      exact ⟨returns', Classified.classify
        (.task sync rfl core' (standsForType_congr spelled stands) made'), same⟩

/-- Any parentheses change nothing of the shape of a result but those in the type of its value. -/
theorem classify_regrouped {signature : Signature} {ty ty' : Ty} {returns : Returns}
    (declared : signature.output = some ty) (groups : Relation.ReflTransGen (Groups imports) ty ty')
    (classified : classify imports signature = .ok returns) :
    ∃ returns', classify imports (withOutput signature ty') = .ok returns' ∧
      SameShape imports returns returns' := by
  induction groups with
  | refl =>
    refine ⟨returns, ?_, .refl _⟩
    rw [withOutput, ← declared]
    exact classified
  | tail _ last ih =>
    obtain ⟨middle, classified', same⟩ := ih
    obtain ⟨returns', classified'', same'⟩ := classify_groups rfl last classified'
    exact ⟨returns', classified'', same.trans same'⟩

end Endpoint.Lowering
