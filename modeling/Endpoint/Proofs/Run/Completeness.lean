import Endpoint.Proofs.Hints
import Endpoint.Proofs.Run.Processing
import Endpoint.Proofs.Scan
import Endpoint.Proofs.Sorting
import Mathlib.Data.List.Perm.Basic

/-!
A run loses no declaration: each has a share in the report, a unit or diagnostics that name it,
and the units are in the order of their hints.
-/

namespace Endpoint.Run

/-! ### Hints of a run -/

theorem reserveAll_candidates (hints : Hints) (candidates : List Candidate) :
    (reserveAll hints candidates).1.map Prod.snd = candidates := by
  induction candidates generalizing hints with
  | nil => rfl
  | cons candidate rest ih => simp [reserveAll, ih]

theorem reserveAll_consistent {hints : Hints} (valid : hints.Consistent)
    (candidates : List Candidate) : (reserveAll hints candidates).2.Consistent := by
  induction candidates generalizing hints with
  | nil => exact valid
  | cons candidate rest ih => exact ih (valid.reserve _)

theorem reserveAll_get?_of_get? {hints : Hints} {owner : HintOwner}
    (found : hints.get? owner = some hint) (candidates : List Candidate) :
    (reserveAll hints candidates).2.get? owner = some hint := by
  induction candidates generalizing hints with
  | nil => exact found
  | cons candidate rest ih => exact ih (Hints.get?_reserve_of_get? found _)

/-- The hint of a job is the one that its declaration has reserved in the end. -/
theorem reserveAll_get? (hints : Hints) (candidates : List Candidate) :
    ∀ job ∈ (reserveAll hints candidates).1,
      (reserveAll hints candidates).2.get? (Candidate.owner job.2) = some job.1 := by
  induction candidates generalizing hints with
  | nil => simp [reserveAll]
  | cons candidate rest ih =>
    intro job member
    rcases List.mem_cons.mp member with rfl | later
    · exact reserveAll_get?_of_get? (Hints.get?_reserve hints _) rest
    · exact ih _ job later

/-- Declarations that differ in kind or identity get different hints. -/
theorem reserveAll_distinct {hints : Hints} (valid : hints.Consistent)
    {candidates : List Candidate} (keys : (candidates.map Scan.key).Nodup) :
    ((reserveAll hints candidates).1.map Prod.fst).Nodup := by
  have apart : (reserveAll hints candidates).1.Pairwise fun first second =>
      Scan.key first.2 ≠ Scan.key second.2 := by
    have mapped := keys
    rw [← reserveAll_candidates hints candidates, List.map_map, List.Nodup,
      List.pairwise_map] at mapped
    exact mapped
  refine List.pairwise_map.mpr (apart.imp_of_mem ?_)
  intro first second firstJob secondJob different same
  have owners := (reserveAll_consistent valid candidates).owner_unique
    (reserveAll_get? _ _ first firstJob) (reserveAll_get? _ _ second secondJob)
    (congrArg Text.lowerCase same)
  simp only [Candidate.owner, HintOwner.mk.injEq] at owners
  exact different (Prod.ext owners.1 owners.2)

/-! ### Settling -/

theorem mapM_id_ok {results : List (Except ε α)} {values : List α}
    (done : results.mapM id = .ok values) : results = values.map .ok := by
  induction results generalizing values with
  | nil =>
    cases done
    rfl
  | cons first rest ih =>
    simp only [List.mapM_cons, id, bind_eq_ok, pure, Except.pure, Except.ok.injEq] at done
    obtain ⟨value, rfl, remaining, tail, rfl⟩ := done
    simp [ih tail]

theorem settle_ok {results : List (Except Failure Processed)} {found : List Processed}
    (done : settle results = .ok found) : results = found.map .ok := by
  simp only [settle] at done
  split at done
  · cases done
  · exact mapM_id_ok done

/-- A settled run has processed every job, in order. -/
theorem settle_processed {jobs : List (String × Candidate)} {found : List Processed}
    (done : settle (jobs.map (process config symbols)) = .ok found) :
    List.Forall₂ (fun job one => process config symbols job = .ok one) jobs found := by
  have results := settle_ok done
  rw [← List.forall₂_eq_eq_eq, List.forall₂_map_left_iff, List.forall₂_map_right_iff] at results
  exact results

/-! ### Shares -/

/-- What a declaration contributes to a report. -/
structure Share where
  job : String × Candidate
  unit : Option GeneratedUnit
  diagnostics : List Diagnostic

def Share.Accounted (config : Config) (symbols : Symbols) (share : Share) : Prop :=
  Accounts config symbols share.job share.unit share.diagnostics

/-- A declaration whose unit is left out of the collection is named by a diagnostic instead. -/
theorem Collected.add_share {config : Config} {symbols : Symbols} {job : String × Candidate}
    {found : Processed} (accounts : Accounts config symbols job found.unit found.diagnostics)
    (held : Collected) :
    ∃ unit diagnostics, (held.add found).units = held.units ++ unit.toList ∧
      (held.add found).diagnostics = held.diagnostics ++ diagnostics ∧
      Accounts config symbols job unit diagnostics :=
  ⟨(found.contribution held.names).1, (found.contribution held.names).2,
    by rw [held.add_eq], by rw [held.add_eq], found.contribution_accounts accounts held.names⟩

/-- Collecting gives every job its share. -/
theorem collected_shares {config : Config} {symbols : Symbols}
    {jobs : List (String × Candidate)} {found : List Processed}
    (processed : List.Forall₂ (fun job one => process config symbols job = .ok one) jobs found)
    (held : Collected) :
    ∃ shares : List Share, shares.map Share.job = jobs ∧
      (found.foldl Collected.add held).units = held.units ++ shares.filterMap Share.unit ∧
      (found.foldl Collected.add held).diagnostics =
        held.diagnostics ++ shares.flatMap Share.diagnostics ∧
      ∀ share ∈ shares, share.Accounted config symbols := by
  induction processed generalizing held with
  | nil => exact ⟨[], rfl, by simp, by simp, by simp⟩
  | @cons job one jobs found done _ ih =>
    obtain ⟨unit, diagnostics, units, messages, accounts⟩ :=
      held.add_share (process_accounts done)
    obtain ⟨shares, own, restUnits, restMessages, accounted⟩ := ih (held.add one)
    refine ⟨⟨job, unit, diagnostics⟩ :: shares, by simp [own], ?_, ?_, ?_⟩
    · cases unit <;> simp [restUnits, units]
    · simp [restMessages, messages]
    · intro share member
      rcases List.mem_cons.mp member with rfl | later
      · exact accounts
      · exact accounted share later

/-! ### Order -/

/-- Sorted results belong to jobs in some order, with increasing hints. -/
theorem sorted_jobs {config : Config} {symbols : Symbols} {jobs : List (String × Candidate)}
    {found : List Processed} (distinct : (jobs.map Prod.fst).Nodup)
    (processed : List.Forall₂ (fun job one => process config symbols job = .ok one) jobs found) :
    ∃ ordered, ordered.Perm jobs ∧ (ordered.map Prod.fst).Pairwise (· < ·) ∧
      List.Forall₂ (fun job one => process config symbols job = .ok one) ordered
        (found.mergeSort fun a b => a.hint ≤ b.hint) := by
  have permuted := List.mergeSort_perm found fun a b => a.hint ≤ b.hint
  obtain ⟨ordered, aligned, same⟩ := List.perm_comp_forall₂ permuted processed.flip
  have hints : (found.mergeSort fun a b => a.hint ≤ b.hint).map Processed.hint =
      ordered.map Prod.fst := by
    rw [← List.forall₂_eq_eq_eq, List.forall₂_map_left_iff, List.forall₂_map_right_iff]
    exact aligned.imp fun _ _ done => process_hint done
  have rising : (ordered.map Prod.fst).Pairwise (· ≤ ·) := by
    rw [← hints, List.pairwise_map]
    exact Sorting.pairwise_mergeSort_text Processed.hint found
  have apart : (ordered.map Prod.fst).Nodup := (same.map Prod.fst).nodup_iff.mpr distinct
  exact ⟨ordered, same, (rising.and apart).imp fun held => Std.lt_of_le_of_ne held.1 held.2,
    aligned.flip⟩

/-- Units are in the order of their jobs. -/
theorem units_sorted {config : Config} {symbols : Symbols} {shares : List Share}
    (rising : (shares.map fun share => share.job.1).Pairwise (· < ·))
    (accounted : ∀ share ∈ shares, share.Accounted config symbols) :
    (shares.filterMap Share.unit).Pairwise fun first second => first.hint < second.hint := by
  rw [List.pairwise_filterMap]
  refine (List.pairwise_map.mp rising).imp_of_mem ?_
  intro first second firstShare secondShare before one own two other
  rw [((accounted first firstShare).origin one own).1,
    ((accounted second secondShare).origin two other).1]
  exact before

/-! ### Reports -/

/-- Whether a unit is generated for the candidate. -/
def isFor (candidate : Candidate) (unit : GeneratedUnit) : Bool :=
  unit.kind == candidate.kind && unit.source == candidate.identity

theorem isFor_iff {config : Config} {symbols : Symbols} {share : Share} {unit : GeneratedUnit}
    (accounted : share.Accounted config symbols) (held : share.unit = some unit)
    (candidate : Candidate) :
    isFor candidate unit = true ↔ Scan.key share.job.2 = Scan.key candidate := by
  obtain ⟨_, kind, source⟩ := accounted.origin unit held
  simp [isFor, Scan.key, kind, source]

/-- The units of shares for other declarations are not for this one. -/
theorem units_count_other {config : Config} {symbols : Symbols} {shares : List Share}
    {candidate : Candidate} (accounted : ∀ share ∈ shares, share.Accounted config symbols)
    (others : ∀ share ∈ shares, Scan.key share.job.2 ≠ Scan.key candidate) :
    (shares.filterMap Share.unit).countP (isFor candidate) = 0 := by
  rw [List.countP_eq_zero]
  intro unit member
  obtain ⟨share, held, own⟩ := List.mem_filterMap.mp member
  exact fun same => others share held ((isFor_iff (accounted share held) own candidate).mp same)

/-- Of all units, those for a declaration are the one in its share. -/
theorem units_count {config : Config} {symbols : Symbols} {shares : List Share} {share : Share}
    (accounted : ∀ share ∈ shares, share.Accounted config symbols)
    (keys : (shares.map fun share => Scan.key share.job.2).Nodup) (member : share ∈ shares) :
    (shares.filterMap Share.unit).countP (isFor share.job.2) = share.unit.toList.length := by
  obtain ⟨before, after, rfl⟩ := List.append_of_mem member
  simp only [List.map_append, List.map_cons, List.nodup_middle, List.nodup_cons,
    List.mem_append, List.mem_map, not_or, not_exists, not_and] at keys
  have early : (before.filterMap Share.unit).countP (isFor share.job.2) = 0 :=
    units_count_other (fun other held => accounted other (List.mem_append_left _ held)) keys.1.1
  have late : (after.filterMap Share.unit).countP (isFor share.job.2) = 0 :=
    units_count_other (fun other held =>
      accounted other (List.mem_append_right _ (List.mem_cons_of_mem _ held))) keys.1.2
  rw [List.filterMap_append, List.countP_append, early]
  cases own : share.unit with
  | none => simp [own, late]
  | some unit =>
    have same := (isFor_iff (accounted share member) own share.job.2).mpr rfl
    simp [own, late, same]

/-- A report that accounts for all declarations of the units. -/
structure Complete (config : Config) (units : List SourceUnit) (report : Report) : Prop where
  sorted : report.units.Pairwise fun first second => first.hint < second.hint
  shares : ∃ shares : List Share,
    (shares.map fun share => share.job.2).Perm (Scan.ofUnits units).candidates ∧
    report.units = shares.filterMap Share.unit ∧
    report.diagnostics =
      (Scan.ofUnits units).diagnostics ++ shares.flatMap Share.diagnostics ∧
    ∀ share ∈ shares, share.Accounted config (Symbols.ofUnits units)
  each : ∀ candidate ∈ (Scan.ofUnits units).candidates,
    report.units.countP (isFor candidate) = 1 ∨
    report.units.countP (isFor candidate) = 0 ∧
      ∃ diagnostic ∈ report.diagnostics, diagnostic.subject = candidate.identity

/-- Shares in the order of their hints make a complete report. -/
theorem complete_of_shares {config : Config} {units : List SourceUnit} {report : Report}
    (shares : List Share)
    (rising : (shares.map fun share => share.job.1).Pairwise (· < ·))
    (all : (shares.map fun share => share.job.2).Perm (Scan.ofUnits units).candidates)
    (own : report.units = shares.filterMap Share.unit)
    (messages : report.diagnostics =
      (Scan.ofUnits units).diagnostics ++ shares.flatMap Share.diagnostics)
    (accounted : ∀ share ∈ shares, share.Accounted config (Symbols.ofUnits units)) :
    Complete config units report := by
  refine ⟨own ▸ units_sorted rising accounted, ⟨shares, all, own, messages, accounted⟩, ?_⟩
  intro candidate scanned
  obtain ⟨share, member, rfl⟩ := List.mem_map.mp (all.mem_iff.mpr scanned)
  have keys : (shares.map fun share => Scan.key share.job.2).Nodup := by
    have scannedKeys := (all.map Scan.key).nodup_iff.mpr (Scan.ofUnits_distinct units).keys
    rw [List.map_map] at scannedKeys
    exact scannedKeys
  have count := units_count accounted keys member
  rw [own, count]
  cases held : share.unit with
  | some unit => exact .inl rfl
  | none =>
    have some := (accounted share member).missing held
    obtain ⟨diagnostic, first⟩ := List.exists_mem_of_ne_nil _ some
    refine .inr ⟨rfl, diagnostic, ?_, (accounted share member).subjects diagnostic first⟩
    rw [messages]
    exact List.mem_append_right _ (List.mem_flatMap.mpr ⟨share, member, first⟩)

/-- A file with the trait `#[restgen::api_client] trait Api<T> {}`. -/
def parametricUnit : SourceUnit where
  path := "a.rs"
  module := ["a"]
  file := ⟨[], [.trait {
    attributes :=
      [⟨false, ⟨false, [⟨.plain "restgen", .none⟩, ⟨.plain "api_client", .none⟩]⟩, .none⟩]
    visibility := .inherited
    isUnsafe := false
    isAuto := false
    name := .plain "Api"
    generics := ⟨[.type [] (.plain "T") [] false none], false, none⟩
    bounds := []
    plus := false
    items := [] }]⟩

end Endpoint.Run
