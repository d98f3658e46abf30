import Endpoint.Proofs.Run.Completeness
import Endpoint.Proofs.Sorting

/-!
Methods of a trait stand by themselves: with other methods beside it, a method is emitted or
reported as before, and no other declaration changes.
-/

namespace Endpoint.Run

open Source (Method Tokens Trait)
open Lowering (endpoint endpointDiagnostic? requiredMethods)
open Scan (CandidateVaried traitCandidate)

/-! ### Methods -/

/-- What becomes of a method that a client has to implement: its tokens, or the diagnostic that
names it. -/
def fate (context : Emission.Context) (identity : Identity) (scope : Imports) (symbols : Symbols)
    (declared : Method) : Except Diagnostic Tokens :=
  match endpoint scope symbols declared with
  | .ok definition => .ok (Emission.methodTokens context definition)
  | .error problem => .error (.ofMember identity declared.signature.name.text problem)

/-- The tokens of the methods that have any, in order. -/
def emitted (fate : Method → Except Diagnostic Tokens) (methods : List Method) : Tokens :=
  methods.flatMap fun declared => (fate declared).toOption.getD []

/-- The diagnostics of the other methods, in order. -/
def reported (fate : Method → Except Diagnostic Tokens) (methods : List Method) :
    List Diagnostic :=
  methods.filterMap fun declared =>
    match fate declared with
    | .ok _ => none
    | .error diagnostic => some diagnostic

theorem emitted_fate (context : Emission.Context) (identity : Identity) (scope : Imports)
    (symbols : Symbols) (methods : List Method) :
    emitted (fate context identity scope symbols) methods =
      (methods.filterMap fun declared => (endpoint scope symbols declared).toOption).flatMap
        (Emission.methodTokens context) := by
  have tokens : ∀ declared, (fate context identity scope symbols declared).toOption =
      (endpoint scope symbols declared).toOption.map (Emission.methodTokens context) := by
    intro declared
    rw [fate]
    cases endpoint scope symbols declared <;> rfl
  induction methods with
  | nil => rfl
  | cons declared rest ih =>
    rw [emitted, List.flatMap_cons, ← emitted, ih, tokens, List.filterMap_cons]
    cases (endpoint scope symbols declared).toOption <;> rfl

theorem reported_fate (context : Emission.Context) (identity : Identity) (scope : Imports)
    (symbols : Symbols) (methods : List Method) :
    reported (fate context identity scope symbols) methods =
      methods.filterMap (endpointDiagnostic? identity scope symbols) := by
  unfold reported
  congr 1
  funext declared
  cases understood : endpoint scope symbols declared <;>
    simp [fate, endpointDiagnostic?, understood]

theorem reported_subject (context : Emission.Context) (identity : Identity) (scope : Imports)
    (symbols : Symbols) (methods : List Method) :
    ∀ diagnostic ∈ reported (fate context identity scope symbols) methods,
      diagnostic.subject = identity := by
  rw [reported_fate]
  intro diagnostic member
  obtain ⟨declared, _, named⟩ := List.mem_filterMap.mp member
  exact Lowering.endpointDiagnostic?_subject named

/-! ### Traits -/

/-- The code of a client in front of its methods. -/
def clientFront (context : Emission.Context) (identity : Identity) (item : Trait)
    (name : Source.Ident) : Tokens :=
  (Emission.clientTokens context
    ⟨identity, item.name, name, item.visibility, item.isUnsafe, []⟩).dropLast

theorem clientTokens_front (context : Emission.Context) (client : ClientDefinition) :
    Emission.clientTokens context client =
      (Emission.clientTokens context { client with methods := [] }).dropLast ++
        [.brace (client.methods.flatMap (Emission.methodTokens context))] := by
  simp only [Emission.clientTokens, Emission.traitTokens, ← List.append_assoc,
    List.dropLast_concat]
  rfl

/-- A processed trait was rejected for its shell, or has code for its shell and its methods. -/
theorem processClient_cases {config : Config} {context : Emission.Context} {symbols : Symbols}
    {hint : String} {candidate : Candidate} {item : Trait} {found : Processed}
    (done : processClient config context symbols hint candidate item = .ok found) :
    (∃ diagnostics,
      Lowering.shell candidate.identity candidate.imports config item = .ok (.inl diagnostics) ∧
      found = ⟨hint, none, none, diagnostics⟩) ∨
    ∃ name unit diagnostics,
      Lowering.shell candidate.identity candidate.imports config item = .ok (.inr name) ∧
      found = ⟨hint, some unit, some name.written, diagnostics⟩ ∧
      Emission.render (clientFront context candidate.identity item name ++
        [.brace (emitted (fate context candidate.identity candidate.imports symbols)
          (requiredMethods item))]) hint candidate.kind candidate.identity = .ok unit ∧
      diagnostics.Perm (reported (fate context candidate.identity candidate.imports symbols)
        (requiredMethods item)) := by
  simp only [processClient, bind_eq_ok] at done
  obtain ⟨lowered, lowering, done⟩ := done
  have shelled := lowering
  rw [Lowering.client_eq, map_eq_ok] at shelled
  obtain ⟨shell, understood, rfl⟩ := shelled
  cases shell with
  | inl diagnostics =>
    cases done
    exact .inl ⟨diagnostics, understood, rfl⟩
  | inr name =>
    simp only [Lowering.clientOfShell, bind_eq_ok, pure, Except.pure, Except.ok.injEq] at done
    obtain ⟨unit, rendered, rfl⟩ := done
    have accounts := Lowering.client_accounts lowering rfl
    refine .inr ⟨name, unit, _, understood, rfl, ?_, ?_⟩
    · rw [clientTokens_front, accounts.methods] at rendered
      rw [emitted_fate]
      exact rendered
    · rw [reported_fate]
      exact accounts.diagnostics

/-! ### Shares -/

/-- The share of a trait each of whose methods meets its fate: the code is the front and behind it
the implementation with the tokens of the methods, and beyond the diagnostics of the methods there
are only the given ones. -/
structure Share.Treats (share : Share) (fate : Method → Except Diagnostic Tokens) (item : Trait)
    (front : Tokens) (beyond : List Diagnostic) : Prop where
  code : ∀ unit ∈ share.unit,
    Emission.render (front ++ [.brace (emitted fate (requiredMethods item))]) share.job.1
      share.job.2.kind share.job.2.identity = .ok unit
  diagnostics : share.diagnostics.Perm (reported fate (requiredMethods item) ++ beyond)

/-- The shares of one declaration in two runs that know the same structs. They are the same unless
they are those of a trait that has the methods of `first` in one run and those of `second` in the
other. Then it is rejected in both, with the same diagnostics, or a method meets the same fate in
both, and all else that comes of the trait is the same: its hint, whether its code is part of the
report, what is in front of the methods, and any diagnostic that its name is taken. -/
inductive Share.Varied (config : Config) (symbols : Symbols) (first second : Trait) (home : Names) :
    Share → Share → Prop
  | same (share : Share) : Share.Varied config symbols first second home share share
  | rejected (hint : String) (scope : Imports) (diagnostics : List Diagnostic)
      (subjects : ∀ diagnostic ∈ diagnostics, diagnostic.subject = ⟨home, first.name.written⟩) :
      Share.Varied config symbols first second home
        ⟨(hint, traitCandidate home scope first.name.written first), none, diagnostics⟩
        ⟨(hint, traitCandidate home scope first.name.written second), none, diagnostics⟩
  | treated (context : Emission.Context) (given : Emission.Context.ofConfig config = .ok context)
      (hint : String) (scope : Imports) (front : Tokens) (beyond : List Diagnostic)
      (collisions : beyond = [] ∨ ∃ name owner, beyond =
        [.ofDeclaration ⟨home, first.name.written⟩ (.clientNameCollision name owner)])
      {share other : Share}
      (job : share.job = (hint, traitCandidate home scope first.name.written first))
      (otherJob : other.job = (hint, traitCandidate home scope first.name.written second))
      (present : share.unit.isSome = other.unit.isSome)
      (treats : share.Treats (fate context ⟨home, first.name.written⟩ scope symbols) first front
        beyond)
      (otherTreats : other.Treats (fate context ⟨home, first.name.written⟩ scope symbols) second
        front beyond) :
      Share.Varied config symbols first second home share other

/-! ### From results to shares -/

/-- A job with what came of it. -/
abbrev Worked := (String × Candidate) × Processed

/-- The shares of jobs that are collected one after the other. -/
def sharesOf : ClientNames → List Worked → List Share
  | _, [] => []
  | names, (job, found) :: rest =>
    ⟨job, (found.contribution names).1, (found.contribution names).2⟩ ::
      sharesOf (found.namesAfter names) rest

theorem sharesOf_jobs (names : ClientNames) (worked : List Worked) :
    (sharesOf names worked).map Share.job = worked.map Prod.fst := by
  induction worked generalizing names with
  | nil => rfl
  | cons one rest ih => simp [sharesOf, ih]

theorem sharesOf_contributions (names : ClientNames) (worked : List Worked) :
    (sharesOf names worked).map (fun share => (share.unit, share.diagnostics)) =
      contributions names (worked.map Prod.snd) := by
  induction worked generalizing names with
  | nil => rfl
  | cons one rest ih => simp [sharesOf, contributions, ih]

theorem sharesOf_accounted {config : Config} {symbols : Symbols} {worked : List Worked}
    (done : ∀ one ∈ worked, process config symbols one.1 = .ok one.2) (names : ClientNames) :
    ∀ share ∈ sharesOf names worked, share.Accounted config symbols := by
  induction worked generalizing names with
  | nil => simp [sharesOf]
  | cons one rest ih =>
    intro share member
    rcases List.mem_cons.mp member with rfl | later
    · exact Processed.contribution_accounts (process_accounts (done one (by simp))) names
    · exact ih (fun other held => done other (List.mem_cons_of_mem _ held)) _ share later

/-- Results of one declaration in two runs, as `Share.Varied` tells their shares apart. -/
inductive WorkedVaried (config : Config) (symbols : Symbols) (first second : Trait)
    (home : Names) : Worked → Worked → Prop
  | same (one : Worked) : WorkedVaried config symbols first second home one one
  | rejected (hint : String) (scope : Imports) (diagnostics : List Diagnostic)
      (subjects : ∀ diagnostic ∈ diagnostics, diagnostic.subject = ⟨home, first.name.written⟩) :
      WorkedVaried config symbols first second home
        ((hint, traitCandidate home scope first.name.written first), ⟨hint, none, none, diagnostics⟩)
        ((hint, traitCandidate home scope first.name.written second), ⟨hint, none, none, diagnostics⟩)
  | treated (context : Emission.Context) (given : Emission.Context.ofConfig config = .ok context)
      (hint : String) (scope : Imports) (front : Tokens) (name : String)
      {unit other : GeneratedUnit} {diagnostics others : List Diagnostic}
      (code : Emission.render (front ++ [.brace (emitted
        (fate context ⟨home, first.name.written⟩ scope symbols) (requiredMethods first))]) hint
          .client ⟨home, first.name.written⟩ = .ok unit)
      (otherCode : Emission.render (front ++ [.brace (emitted
        (fate context ⟨home, first.name.written⟩ scope symbols) (requiredMethods second))]) hint
          .client ⟨home, first.name.written⟩ = .ok other)
      (named : diagnostics.Perm
        (reported (fate context ⟨home, first.name.written⟩ scope symbols) (requiredMethods first)))
      (otherNamed : others.Perm
        (reported (fate context ⟨home, first.name.written⟩ scope symbols) (requiredMethods second))) :
      WorkedVaried config symbols first second home
        ((hint, traitCandidate home scope first.name.written first),
          ⟨hint, some unit, some name, diagnostics⟩)
        ((hint, traitCandidate home scope first.name.written second),
          ⟨hint, some other, some name, others⟩)

variable {config : Config} {symbols : Symbols} {first second : Trait} {home : Names}

theorem process_varied (traits : first.SameButMethods second) {job other : String × Candidate}
    (hints : job.1 = other.1) (varied : CandidateVaried first second home job.2 other.2)
    {found others : Processed} (one : process config symbols job = .ok found)
    (two : process config symbols other = .ok others) :
    WorkedVaried config symbols first second home (job, found) (other, others) := by
  obtain ⟨hint, candidate⟩ := job
  obtain ⟨otherHint, otherCandidate⟩ := other
  subst hints
  cases varied with
  | same =>
    obtain rfl : found = others := Except.ok.inj (one.symm.trans two)
    exact .same _
  | changed scope =>
    have subjects := (process_accounts one).subjects
    simp only [process, bind_eq_ok] at one two
    obtain ⟨context, given, one⟩ := one
    obtain ⟨otherContext, otherGiven, two⟩ := two
    obtain rfl : context = otherContext := Except.ok.inj (given.symm.trans otherGiven)
    have shells := Lowering.shell_congr traits ⟨home, first.name.written⟩ scope config
    rcases processClient_cases one with
        ⟨diagnostics, shell, rfl⟩ | ⟨name, unit, diagnostics, shell, rfl, code, named⟩ <;>
      rcases processClient_cases two with
        ⟨others, otherShell, rfl⟩ | ⟨otherName, otherUnit, others, otherShell, rfl, otherCode, otherNamed⟩ <;>
      simp only [shells, otherShell, Except.ok.injEq, Sum.inl.injEq, Sum.inr.injEq, reduceCtorEq]
        at shell
    · subst shell
      exact .rejected hint scope _ subjects
    · subst shell
      have front : clientFront context ⟨home, first.name.written⟩ second otherName =
          clientFront context ⟨home, first.name.written⟩ first otherName := by
        rw [traits.outside]
        rfl
      rw [front] at otherCode
      exact .treated context given hint scope _ _ code otherCode named otherNamed

theorem WorkedVaried.hint_eq {one other : Worked}
    (varied : WorkedVaried config symbols first second home one other) :
    one.2.hint = other.2.hint := by
  cases varied <;> rfl

theorem sharesOf_varied {worked others : List Worked}
    (varied : List.Forall₂ (WorkedVaried config symbols first second home) worked others)
    (names : ClientNames) :
    List.Forall₂ (Share.Varied config symbols first second home) (sharesOf names worked)
      (sharesOf names others) := by
  induction varied generalizing names with
  | nil => exact .nil
  | cons here _ ih =>
    cases here with
    | same one => exact .cons (.same _) (ih _)
    | rejected hint scope diagnostics subjects =>
      exact .cons (.rejected hint scope diagnostics subjects) (ih _)
    | @treated context given hint scope front name unit other diagnostics others code otherCode
        named otherNamed =>
      have source := (render_origin code).2.2
      have otherSource := (render_origin otherCode).2.2
      have module : unit.source.module = home := by rw [source]
      have otherModule : other.source.module = home := by rw [otherSource]
      cases taken : names.find? (·.1 == (home, name)) with
      | none =>
        obtain ⟨adds, after⟩ := Processed.contribution_of_free (module.symm ▸ taken) hint diagnostics
        obtain ⟨otherAdds, otherAfter⟩ :=
          Processed.contribution_of_free (otherModule.symm ▸ taken) hint others
        simp only [sharesOf, adds, after, otherAdds, otherAfter, source, otherSource]
        exact .cons (.treated context given hint scope front [] (.inl rfl) rfl rfl rfl
          ⟨by simpa [traitCandidate] using code, by simpa using named⟩
          ⟨by simpa [traitCandidate] using otherCode, by simpa using otherNamed⟩) (ih _)
      | some entry =>
        obtain ⟨adds, after⟩ :=
          Processed.contribution_of_taken (module.symm ▸ taken) hint diagnostics
        obtain ⟨otherAdds, otherAfter⟩ :=
          Processed.contribution_of_taken (otherModule.symm ▸ taken) hint others
        simp only [sharesOf, adds, after, otherAdds, otherAfter, source, otherSource]
        exact .cons (.treated context given hint scope front _ (.inr ⟨name, entry.2.text, rfl⟩) rfl
          rfl rfl ⟨by simp, named.append_right _⟩ ⟨by simp, otherNamed.append_right _⟩) (ih _)

/-! ### Runs -/

theorem reserveAll_varied {candidates others : List Candidate}
    (varied : List.Forall₂ (CandidateVaried first second home) candidates others) (hints : Hints) :
    List.Forall₂ (fun job other => job.1 = other.1 ∧ CandidateVaried first second home job.2 other.2)
        (reserveAll hints candidates).1 (reserveAll hints others).1 ∧
      (reserveAll hints candidates).2 = (reserveAll hints others).2 := by
  induction varied generalizing hints with
  | nil => exact ⟨.nil, rfl⟩
  | @cons candidate other _ _ here _ ih =>
    have owner : Candidate.owner candidate = Candidate.owner other := by
      rw [Candidate.owner, Candidate.owner, here.same_owner.1, here.same_owner.2]
    obtain ⟨jobs, after⟩ := ih (hints.reserve (Candidate.owner other)).2
    simp only [reserveAll, owner]
    exact ⟨.cons ⟨rfl, here⟩ jobs, after⟩

theorem worked_varied (traits : first.SameButMethods second) {jobs others : List (String × Candidate)}
    (varied : List.Forall₂
      (fun job other => job.1 = other.1 ∧ CandidateVaried first second home job.2 other.2) jobs others)
    {found otherFound : List Processed}
    (done : List.Forall₂ (fun job one => process config symbols job = .ok one) jobs found)
    (otherDone : List.Forall₂ (fun job one => process config symbols job = .ok one) others
      otherFound) :
    List.Forall₂ (WorkedVaried config symbols first second home) (jobs.zip found)
      (others.zip otherFound) := by
  induction varied generalizing found otherFound with
  | nil => simp
  | cons here _ ih =>
    cases done with
    | cons one rest =>
      cases otherDone with
      | cons two otherRest =>
        exact .cons (process_varied traits here.1 here.2 one two) (ih rest otherRest)

/-- The jobs of a run with their results, in the order in which they are collected. -/
def collectedOrder (jobs : List (String × Candidate)) (found : List Processed) : List Worked :=
  (jobs.zip found).mergeSort fun a b => a.2.hint ≤ b.2.hint

theorem collectedOrder_found {jobs : List (String × Candidate)} {found : List Processed}
    (length : jobs.length = found.length) :
    (collectedOrder jobs found).map Prod.snd = byHint found := by
  have sorted : ((jobs.zip found).mergeSort fun a b => a.2.hint ≤ b.2.hint).map Prod.snd =
      ((jobs.zip found).map Prod.snd).mergeSort fun a b => a.hint ≤ b.hint :=
    List.map_mergeSort fun _ _ _ _ => rfl
  rw [collectedOrder, sorted, List.map_snd_zip (by omega), byHint]

/-- A report of a run that has not been cancelled consists of the shares of its jobs. -/
theorem report_shares (diagnostics : List Diagnostic) {jobs : List (String × Candidate)}
    {found : List Processed} (length : jobs.length = found.length) :
    (collect diagnostics found).units =
        (sharesOf [] (collectedOrder jobs found)).filterMap Share.unit ∧
      (collect diagnostics found).diagnostics =
        diagnostics ++ (sharesOf [] (collectedOrder jobs found)).flatMap Share.diagnostics := by
  rw [collect_units, collect_diagnostics, ← collectedOrder_found length, ← sharesOf_contributions]
  rw [List.filterMap_map, List.flatMap_map]
  exact ⟨rfl, rfl⟩

/-- The unit is for the trait of the module. -/
def isUnitOf (home : Names) (name : String) (unit : GeneratedUnit) : Bool :=
  unit.kind == .client && unit.source == ⟨home, name⟩

/-- What two shares of a declaration add beside units and diagnostics of the trait is the same. -/
theorem Share.Varied.elsewhere {share other : Share}
    (varied : Share.Varied config symbols first second home share other) :
    share.unit.toList.filter (!isUnitOf home first.name.written ·) =
        other.unit.toList.filter (!isUnitOf home first.name.written ·) ∧
      share.diagnostics.filter (·.subject != ⟨home, first.name.written⟩) =
        other.diagnostics.filter (·.subject != ⟨home, first.name.written⟩) := by
  cases varied with
  | same => exact ⟨rfl, rfl⟩
  | rejected => exact ⟨rfl, rfl⟩
  | treated context given hint scope front beyond collisions job otherJob present treats
      otherTreats =>
    have units : ∀ {one : Share} {item : Trait},
        one.job = (hint, traitCandidate home scope first.name.written item) →
        one.Treats (fate context ⟨home, first.name.written⟩ scope symbols) item front beyond →
          one.unit.toList.filter (!isUnitOf home first.name.written ·) = [] := by
      intro one item own held
      rw [List.filter_eq_nil_iff]
      intro unit member
      have origin := render_origin (held.code unit (by simpa using member))
      simp [isUnitOf, origin.2.1, origin.2.2, own, traitCandidate]
    have diagnostics : ∀ {one : Share} {item : Trait},
        one.Treats (fate context ⟨home, first.name.written⟩ scope symbols) item front beyond →
          one.diagnostics.filter (·.subject != ⟨home, first.name.written⟩) = [] := by
      intro one item held
      rw [List.filter_eq_nil_iff]
      intro diagnostic member
      rcases List.mem_append.mp (held.diagnostics.mem_iff.mp member) with own | further
      · simp [reported_subject _ _ _ _ _ diagnostic own]
      · rcases collisions with rfl | ⟨name, owner, rfl⟩
        · cases further
        · simp [List.mem_singleton.mp further, Diagnostic.ofDeclaration]
    exact ⟨(units job treats).trans (units otherJob otherTreats).symm,
      (diagnostics treats).trans (diagnostics otherTreats).symm⟩

/-- Reports of two runs on units that differ only in the methods of one trait. -/
structure Isolated (config : Config) (cancelled : Bool) (hints : Hints) (first second : Trait)
    (home : Names) (units others : List SourceUnit) (report other : Report) : Prop where
  /-- All declarations have the same hints. -/
  hints : (generate config cancelled hints units).2 = (generate config cancelled hints others).2
  /-- Both reports consist of one share for each declaration, side by side. -/
  shares : ∃ scanned, ∃ shares otherShares : List Share,
    (cancelled = false →
      (shares.map fun share => share.job.2).Perm (Scan.ofUnits units).candidates) ∧
    (∀ share ∈ shares, share.Accounted config (Symbols.ofUnits units)) ∧
    (∀ share ∈ otherShares, share.Accounted config (Symbols.ofUnits units)) ∧
    report.units = shares.filterMap Share.unit ∧
    other.units = otherShares.filterMap Share.unit ∧
    report.diagnostics = scanned ++ shares.flatMap Share.diagnostics ∧
    other.diagnostics = scanned ++ otherShares.flatMap Share.diagnostics ∧
    List.Forall₂ (Share.Varied config (Symbols.ofUnits units) first second home) shares otherShares
  /-- All units but that of the trait are the same. -/
  units : report.units.filter (!isUnitOf home first.name.written ·) =
    other.units.filter (!isUnitOf home first.name.written ·)
  /-- All diagnostics but those of the trait are the same. -/
  diagnostics : report.diagnostics.filter (·.subject != ⟨home, first.name.written⟩) =
    other.diagnostics.filter (·.subject != ⟨home, first.name.written⟩)

theorem shares_elsewhere {shares others : List Share}
    (varied : List.Forall₂ (Share.Varied config symbols first second home) shares others) :
    (shares.filterMap Share.unit).filter (!isUnitOf home first.name.written ·) =
        (others.filterMap Share.unit).filter (!isUnitOf home first.name.written ·) ∧
      (shares.flatMap Share.diagnostics).filter (·.subject != ⟨home, first.name.written⟩) =
        (others.flatMap Share.diagnostics).filter (·.subject != ⟨home, first.name.written⟩) := by
  simp only [List.filterMap_eq_flatMap_toList, List.filter_flatMap]
  induction varied with
  | nil => exact ⟨rfl, rfl⟩
  | cons here _ ih =>
    obtain ⟨units, diagnostics⟩ := here.elsewhere
    simp only [List.flatMap_cons, units, diagnostics, ih.1, ih.2, and_self]

theorem settle_length {jobs : List (String × Candidate)} {found : List Processed}
    (done : settle (jobs.map (process config symbols)) = .ok found) :
    jobs.length = found.length :=
  (settle_processed done).length_eq

/-- Every job is worked on with its own result. -/
theorem collectedOrder_done {jobs : List (String × Candidate)} {found : List Processed}
    (done : settle (jobs.map (process config symbols)) = .ok found) :
    ∀ one ∈ collectedOrder jobs found, process config symbols one.1 = .ok one.2 := by
  rintro ⟨job, result⟩ member
  obtain ⟨_, aligned⟩ := List.forall₂_iff_zip.mp (settle_processed done)
  exact aligned (List.mem_mergeSort.mp member)

theorem collectedOrder_jobs {jobs : List (String × Candidate)} {found : List Processed}
    (length : jobs.length = found.length) :
    ((collectedOrder jobs found).map Prod.fst).Perm jobs := by
  have permuted := (List.mergeSort_perm (jobs.zip found) fun a b => a.2.hint ≤ b.2.hint).map Prod.fst
  rwa [List.map_fst_zip (by omega)] at permuted

/-- The trait `#[restgen::api_client] trait Api<T>` with members. -/
def parametricTrait (members : List Source.Associated) : Trait where
  attributes :=
    [⟨false, ⟨false, [⟨.plain "restgen", .none⟩, ⟨.plain "api_client", .none⟩]⟩, .none⟩]
  visibility := .inherited
  isUnsafe := false
  isAuto := false
  name := .plain "Api"
  generics := ⟨[.type [] (.plain "T") [] false none], false, none⟩
  bounds := []
  plus := false
  items := members

/-- A file with the trait. -/
def fileOf (item : Trait) : SourceUnit := ⟨"a.rs", ["a"], ⟨[], [.trait item]⟩⟩

/-- The method `fn list();`, which has no verb. -/
def verbless : Method where
  attributes := []
  visibility := .inherited
  isDefault := false
  signature := ⟨false, false, none, none, .plain "list", ⟨[], false, none⟩, [], false, none, none⟩
  body := none

/-- A trait with parameters is rejected whatever its members are. -/
theorem generate_parametric (members : List Source.Associated) :
    (generate {} false .empty [fileOf (parametricTrait members)]).1 =
      .ok ⟨[], [.ofDeclaration ⟨["a"], "Api"⟩ .genericDeclaration], false⟩ := by
  have runtime : Source.Ident.ofWritten? "restgen" = some (.plain "restgen") := by decide +kernel
  have scanned : (Scan.ofUnits [fileOf (parametricTrait members)]).candidates.mergeSort sortsBefore =
      (Scan.ofUnits [fileOf (parametricTrait members)]).candidates := List.mergeSort_singleton _
  have settled : settle
      ((reserveAll .empty (Scan.ofUnits [fileOf (parametricTrait members)]).candidates).1.map
        (process {} (Symbols.ofUnits [fileOf (parametricTrait members)]))) =
          .ok [⟨"a.Api.client", none, none,
            [.ofDeclaration ⟨["a"], "Api"⟩ .genericDeclaration]⟩] := by
    unfold process Emission.Context.ofConfig
    rw [runtime]
    rfl
  simp only [generate, scanned, settled, collect, bind, Except.bind, List.mergeSort_singleton]
  rfl

end Endpoint.Run
