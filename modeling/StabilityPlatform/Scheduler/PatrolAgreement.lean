import StabilityPlatform.Lib.Fold
import StabilityPlatform.Scheduler.PatrolStall

/-!
# The two collectors of stalled patrols

The loop and the statement select the same jobs with the same ages in the same order exactly when
every integer fits, every job of the batch has an anchor without its retry, and jobs of the batch
that tie are read in the order of their ids. The loop skips a job whose init is not complete; the
statement takes its retry as an anchor.

## Main results

* `collectors_agree_iff`: when the collectors agree.
-/

namespace StabilityPlatform.PatrolStall

open Lib

variable (collector : Collector) (now : Time) (traces : List PatrolTrace)

/-! ### The batch -/

/-- How far a job is over its threshold, when it is stalled. -/
def overdueOf (job : PatrolJob) : Option Time :=
  (stalled collector now traces job).map StallCandidate.overdue

/-- Whether another job comes before a job: it is more overdue, or as overdue with a smaller id. -/
def ahead (job other : PatrolJob) : Bool :=
  match overdueOf collector now traces other, overdueOf collector now traces job with
  | some theirs, some own => own < theirs || (own == theirs && other.id < job.id)
  | some _, none => false
  | none, _ => false

/-- A stalled job that comes early enough. -/
structure InBatch (jobs : List PatrolJob) (job : PatrolJob) : Prop where
  stalled : (stalled collector now traces job).isSome = true
  early : jobs.countP (ahead collector now traces job) < collector.batchLimit

/-- What it takes for the collectors to agree. -/
structure Agreeing (jobs : List PatrolJob) : Prop where
  fits : ∀ job ∈ jobs, IntegersFit collector traces job
  anchored : ∀ job ∈ jobs, InBatch collector now traces jobs job →
    (baseAnchor traces job).isSome = true
  inOrder : ∀ job ∈ jobs, InBatch collector now traces jobs job → ∀ other,
    [other, job].Sublist jobs → (baseAnchor traces other).isSome = true →
    overdueOf collector now traces other = overdueOf collector now traces job → other.id < job.id

/-- The candidate a stalled job is. -/
def candidateOf (job : PatrolJob) : StallCandidate :=
  (stalled collector now traces job).getD ⟨0, job.id, 0, 0⟩

/-- The stalled jobs. -/
def stalledJobs (jobs : List PatrolJob) : List PatrolJob :=
  jobs.filter fun job => (stalled collector now traces job).isSome

variable {collector now traces} {jobs : List PatrolJob} {job other : PatrolJob}

/-! ### Candidates -/

/-- An overdue job is a candidate under its own id. -/
theorem job_of_overdueCandidate {jobId : ℕ} {interval threshold : ℤ} {anchor : Time}
    {c : StallCandidate} (h : overdueCandidate now jobId interval threshold anchor = some c) :
    c.job = jobId := by
  rw [overdueCandidate] at h
  split_ifs at h
  cases h
  rfl

/-- A stalled job is a candidate under its own id. -/
theorem job_of_stalled {c : StallCandidate} (h : stalled collector now traces job = some c) :
    c.job = job.id := by
  rw [stalled] at h
  split_ifs at h
  obtain ⟨interval, -, h⟩ := Option.bind_eq_some_iff.mp h
  obtain ⟨anchor, -, h⟩ := Option.bind_eq_some_iff.mp h
  exact job_of_overdueCandidate h

/-- The candidate has the id of the job. -/
@[simp] theorem job_candidateOf : (candidateOf collector now traces job).job = job.id := by
  rw [candidateOf]
  cases h : stalled collector now traces job with
  | none => rfl
  | some c => exact job_of_stalled h

/-- What a stalled job is. -/
theorem stalled_eq_candidateOf (h : (stalled collector now traces job).isSome = true) :
    stalled collector now traces job = some (candidateOf collector now traces job) := by
  obtain ⟨c, hc⟩ := Option.isSome_iff_exists.mp h
  rw [candidateOf, hc]
  rfl

/-- Only running jobs are stalled. -/
theorem running_of_stalled (h : (stalled collector now traces job).isSome = true) :
    job.status = .running := by
  obtain ⟨c, hc⟩ := Option.isSome_iff_exists.mp h
  rw [stalled] at hc
  split_ifs at hc with hcond
  rw [Bool.and_eq_true, decide_eq_true_eq] at hcond
  exact hcond.1

/-- The candidates of a list, read off the jobs that pass. -/
theorem filterMap_eq_map_filter {f : PatrolJob → Option StallCandidate} {p : PatrolJob → Bool}
    (hsome : ∀ job, p job = true → f job = some (candidateOf collector now traces job))
    (hnone : ∀ job, ¬ p job = true → f job = none) (jobs : List PatrolJob) :
    jobs.filterMap f = (jobs.filter p).map (candidateOf collector now traces) := by
  induction jobs with
  | nil => rfl
  | cons job rest ih =>
      by_cases hp : p job = true
      · rw [List.filterMap_cons_some (hsome job hp), List.filter_cons_of_pos hp, List.map_cons, ih]
      · rw [List.filterMap_cons_none (hnone job hp), List.filter_cons_of_neg hp, ih]

/-! ### What the collectors return -/

/-- What is returned of jobs. -/
def rowsOf (collector : Collector) (now : Time) (traces : List PatrolTrace)
    (selected : List PatrolJob) : List (ℕ × ℤ × Time) :=
  selected.map fun job => (candidateOf collector now traces job).row

/-- How the jobs are sorted. -/
def jobMostOverdue (collector : Collector) (now : Time) (traces : List PatrolTrace)
    (job : PatrolJob) : Time :=
  mostOverdue (candidateOf collector now traces job)

/-- What the loop returns. -/
theorem collectPy_eq
    (hvalid : ∀ job ∈ jobs, job.status = .running → validatePipelineDef job.pipelineDef = true) :
    collectPatrolStallCandidatesPy collector now jobs traces =
      .ok (rowsOf collector now traces
        ((sortBy (jobMostOverdue collector now traces)
          ((stalledJobs collector now traces jobs).filter fun job =>
            (baseAnchor traces job).isSome)).take collector.batchLimit)) := by
  have hrows : (jobs.filter fun job => job.status = .running).mapM
      (pyStallRow collector now traces) =
      .ok ((jobs.filter fun job => job.status = .running).map fun job =>
        (stalled collector now traces job).filter fun _ => (baseAnchor traces job).isSome) := by
    refine mapM_eq_ok_map fun job hmem => ?_
    obtain ⟨hjob, hrunning⟩ := List.mem_filter.mp hmem
    have hrunning := of_decide_eq_true hrunning
    exact pyStallRow_eq hrunning (hvalid job hjob hrunning)
  have hfilter : ((jobs.filter fun job => job.status = .running).map fun job =>
      (stalled collector now traces job).filter fun _ => (baseAnchor traces job).isSome).reduceOption =
      ((stalledJobs collector now traces jobs).filter fun job =>
        (baseAnchor traces job).isSome).map (candidateOf collector now traces) := by
    rw [List.reduceOption, List.filterMap_map, stalledJobs, List.filter_filter,
      List.filterMap_filter]
    refine filterMap_eq_map_filter (fun job hp => ?_) (fun job hp => ?_) jobs
    · rw [Bool.and_eq_true] at hp
      rw [if_pos (by simpa using running_of_stalled hp.2), Function.comp_apply,
        stalled_eq_candidateOf hp.2, hp.1]
      rfl
    · rw [Bool.and_eq_true, not_and] at hp
      split_ifs
      · rw [Function.comp_apply, id_eq]
        cases hs : stalled collector now traces job with
        | none => rfl
        | some c =>
            have hbase : (baseAnchor traces job).isSome = false := by
              rw [Bool.eq_false_iff]
              exact fun hb => hp hb (by rw [hs]; rfl)
            rw [hbase]
            rfl
      · rfl
  rw [collectPatrolStallCandidatesPy, hrows]
  show Except.ok _ = _
  rw [hfilter, ← map_sortBy (fun _ => rfl), ← List.map_take, List.map_map]
  rfl

/-- What the statement returns when the integers fit. -/
theorem collectSql_eq
    (hvalid : ∀ job ∈ jobs, job.status = .running → validatePipelineDef job.pipelineDef = true)
    (hfits : ∀ job ∈ jobs, IntegersFit collector traces job) :
    patrolStallCandidatesStmt collector now jobs traces =
      .ok (rowsOf collector now traces
        ((sortBy (byBoth (jobMostOverdue collector now traces) PatrolJob.id)
          (stalledJobs collector now traces jobs)).take collector.batchLimit)) := by
  have hrows : jobs.mapM (sqlStallRow collector now traces) =
      .ok (jobs.map (stalled collector now traces)) :=
    mapM_eq_ok_map fun job hmem => sqlStallRow_of_fits (hvalid job hmem) (hfits job hmem)
  have hfilter : (jobs.map (stalled collector now traces)).reduceOption =
      (stalledJobs collector now traces jobs).map (candidateOf collector now traces) := by
    rw [List.reduceOption, List.filterMap_map]
    refine filterMap_eq_map_filter (fun job hp => ?_) (fun job hp => ?_) jobs
    · exact stalled_eq_candidateOf hp
    · simpa using hp
  have hkey : ∀ job, byBoth mostOverdue StallCandidate.job (candidateOf collector now traces job) =
      byBoth (jobMostOverdue collector now traces) PatrolJob.id job := by
    intro job
    rw [byBoth, byBoth, job_candidateOf]
    rfl
  rw [patrolStallCandidatesStmt, hrows]
  show Except.ok _ = _
  rw [hfilter, ← map_sortBy hkey, ← List.map_take, List.map_map]
  rfl

/-- A job whose integers do not fit fails the statement. -/
theorem collectSql_of_not_fits
    (hvalid : ∀ job ∈ jobs, job.status = .running → validatePipelineDef job.pipelineDef = true)
    (hfits : ¬ ∀ job ∈ jobs, IntegersFit collector traces job)
    (rows : List (ℕ × ℤ × Time)) :
    patrolStallCandidatesStmt collector now jobs traces ≠ .ok rows := by
  intro h
  rw [patrolStallCandidatesStmt] at h
  obtain ⟨results, hresults, -⟩ := Except.bind_eq_ok_iff.mp h
  refine hfits fun job hmem => ?_
  by_contra hbad
  obtain ⟨result, -, hresult⟩ := exists_right_of_forall₂ (mapM_eq_ok_iff.mp hresults) hmem
  rw [sqlStallRow_of_not_fits (hvalid job hmem) hbad] at hresult
  cases hresult

/-! ### When they agree -/

/-- The order of two stalled jobs. -/
theorem ahead_eq (hjob : (stalled collector now traces job).isSome = true) :
    ahead collector now traces job other =
      (decide (byBoth (jobMostOverdue collector now traces) PatrolJob.id other <
          byBoth (jobMostOverdue collector now traces) PatrolJob.id job) &&
        (stalled collector now traces other).isSome) := by
  rw [ahead, overdueOf, overdueOf, stalled_eq_candidateOf hjob]
  by_cases hother : (stalled collector now traces other).isSome = true
  · rw [hother, stalled_eq_candidateOf hother, Bool.and_true, Option.map_some, Option.map_some,
      Bool.eq_iff_iff, decide_eq_true_eq, byBoth, byBoth, Prod.Lex.toLex_lt_toLex]
    simp only [Bool.or_eq_true, Bool.and_eq_true, decide_eq_true_eq, beq_iff_eq, jobMostOverdue,
      mostOverdue, neg_lt_neg_iff, neg_inj]
    refine or_congr Iff.rfl (and_congr ⟨Eq.symm, Eq.symm⟩ Iff.rfl)
  · rw [Bool.not_eq_true] at hother
    have hnone : stalled collector now traces other = none := by simpa using hother
    rw [hother, hnone, Bool.and_false]
    rfl

/-- The jobs that come before a stalled job are those ranked before it. -/
theorem countP_ahead (hjob : (stalled collector now traces job).isSome = true) :
    jobs.countP (ahead collector now traces job) =
      rank (byBoth (jobMostOverdue collector now traces) PatrolJob.id)
        (stalledJobs collector now traces jobs) job := by
  rw [rank, stalledJobs, List.countP_filter]
  exact List.countP_congr fun other _ => by rw [ahead_eq hjob]

/-- A job of the batch is a stalled job that is ranked early enough. -/
theorem inBatch_iff : InBatch collector now traces jobs job ↔
    (stalled collector now traces job).isSome = true ∧
      rank (byBoth (jobMostOverdue collector now traces) PatrolJob.id)
        (stalledJobs collector now traces jobs) job < collector.batchLimit := by
  constructor
  · rintro ⟨hjob, hearly⟩
    rw [countP_ahead hjob] at hearly
    exact ⟨hjob, hearly⟩
  · rintro ⟨hjob, hearly⟩
    rw [← countP_ahead hjob] at hearly
    exact ⟨hjob, hearly⟩

/-- Jobs are equally overdue when they share the first key. -/
theorem overdueOf_eq_iff (hjob : (stalled collector now traces job).isSome = true)
    (hother : (stalled collector now traces other).isSome = true) :
    overdueOf collector now traces other = overdueOf collector now traces job ↔
      jobMostOverdue collector now traces other = jobMostOverdue collector now traces job := by
  rw [overdueOf, overdueOf, stalled_eq_candidateOf hjob, stalled_eq_candidateOf hother,
    jobMostOverdue, jobMostOverdue, mostOverdue, mostOverdue, neg_inj, Option.map_some,
    Option.map_some, Option.some.injEq]

/-- Rows tell jobs with distinct ids apart. -/
theorem rowsOf_inj (hids : (jobs.map PatrolJob.id).Nodup) {l l' : List PatrolJob}
    (hl : ∀ job ∈ l, job ∈ jobs) (hl' : ∀ job ∈ l', job ∈ jobs)
    (h : rowsOf collector now traces l = rowsOf collector now traces l') : l = l' := by
  have heq : l.map id = l'.map id := map_eq_map_of_imp h fun a ha b hb hab => by
    have hid : a.id = b.id := by
      have h := congrArg Prod.fst hab
      rwa [StallCandidate.row, StallCandidate.row, job_candidateOf, job_candidateOf] at h
    exact List.inj_on_of_nodup_map hids (hl a ha) (hl' b hb) hid
  rwa [List.map_id, List.map_id] at heq

/-- **When the two collectors agree**: every integer fits, every job of the batch has an anchor
without its retry, and jobs of the batch that tie are read in the order of their ids. -/
theorem collectors_agree_iff (hids : (jobs.map PatrolJob.id).Nodup)
    (hvalid : ∀ job ∈ jobs, job.status = .running → validatePipelineDef job.pipelineDef = true) :
    patrolStallCandidatesStmt collector now jobs traces =
        collectPatrolStallCandidatesPy collector now jobs traces ↔
      Agreeing collector now traces jobs := by
  have hstalledIds : ((stalledJobs collector now traces jobs).map PatrolJob.id).Nodup :=
    hids.sublist (List.filter_sublist.map _)
  by_cases hfits : ∀ job ∈ jobs, IntegersFit collector traces job
  · rw [collectPy_eq hvalid, collectSql_eq hvalid hfits, Except.ok.injEq]
    constructor
    · intro hrows
      have hjobs := rowsOf_inj hids (fun job hmem => ?_) (fun job hmem => ?_) hrows
      · have hiff := (take_sortBy_filter_iff hstalledIds).mp hjobs.symm
        refine ⟨hfits, fun job hmem hbatch => ?_, fun job hmem hbatch other hsub hbase htie => ?_⟩
        · obtain ⟨hjob, hrank⟩ := inBatch_iff.mp hbatch
          exact (hiff job (List.mem_filter.mpr ⟨hmem, hjob⟩) hrank).1
        · obtain ⟨hjob, hrank⟩ := inBatch_iff.mp hbatch
          have hother : (stalled collector now traces other).isSome = true := by
            rw [overdueOf, overdueOf, stalled_eq_candidateOf hjob] at htie
            obtain ⟨c, hc, -⟩ := Option.map_eq_some_iff.mp htie
            rw [hc]
            rfl
          exact (hiff job (List.mem_filter.mpr ⟨hmem, hjob⟩) hrank).2 other
            (pair_sublist_filter hother hjob hsub) hbase ((overdueOf_eq_iff hjob hother).mp htie)
      · exact (List.mem_filter.mp (mem_sortBy.mp (List.mem_of_mem_take hmem))).1
      · have h := List.mem_of_mem_take hmem
        exact (List.mem_filter.mp (List.mem_filter.mp (mem_sortBy.mp h)).1).1
    · rintro ⟨-, hanchored, hinOrder⟩
      rw [(take_sortBy_filter_iff hstalledIds).mpr fun job hmem hrank => ?_]
      obtain ⟨hmem, hjob⟩ := List.mem_filter.mp hmem
      have hbatch := inBatch_iff.mpr ⟨hjob, hrank⟩
      refine ⟨hanchored job hmem hbatch, fun other hsub hbase htie => ?_⟩
      have hother := (List.mem_filter.mp (hsub.subset List.mem_cons_self)).2
      exact hinOrder job hmem hbatch other (hsub.trans List.filter_sublist) hbase
        ((overdueOf_eq_iff hjob hother).mpr htie)
  · constructor
    · intro h
      rw [collectPy_eq hvalid] at h
      exact absurd h (collectSql_of_not_fits hvalid hfits _)
    · exact fun h => absurd h.fits hfits

/-! ### A retry before the end of init -/

namespace RetryExample

/-- The production defaults. -/
def defaults : Collector where
  multiplier := 3
  batchLimit := 100
  loads := fun _ => none
  castText := fun _ => none

/-- One init step, and a patrol every minute. -/
def pipeline : PyVal :=
  .dict [("lifecycle", .dict [("init", .list [.dict [("step_id", .str "flash")]]),
    ("patrol", .dict [("interval_seconds", .int 60)]), ("teardown", .list [])])]

/-- A job that is still in its init step, ten minutes after its patrol was retried by hand. -/
def retried : PatrolJob where
  id := 1
  status := .running
  executionState := none
  pipelineDef := pipeline
  lastPatrolHeartbeatAt := none
  nextRetryAt := some 0
  startedAt := some 0

/-- A job whose last heartbeat is ten minutes old. -/
def silent : PatrolJob where
  id := 2
  status := .running
  executionState := some "PATROL_SLEEP"
  pipelineDef := pipeline
  lastPatrolHeartbeatAt := some 0
  nextRetryAt := none
  startedAt := some 0

/-- **The statement selects the retried job, the loop does not.** -/
theorem retried_only_in_statement :
    (patrolStallCandidatesStmt defaults 600000000 [retried] [] = .ok [(1, 60, 600000000)] ∧
      collectPatrolStallCandidatesPy defaults 600000000 [retried] [] = .ok []) ∧
    validatePipelineDef retried.pipelineDef = true ∧ ([retried].map PatrolJob.id).Nodup := by
  refine ⟨⟨rfl, rfl⟩, rfl, by decide⟩

/-- The collectors agree on the silent job, so its table meets the condition. -/
theorem silent_agreeing : Agreeing defaults 600000000 [] [silent] :=
  (collectors_agree_iff (by decide) (fun job hmem _ => by
    rw [List.mem_singleton.mp hmem]
    rfl)).mp rfl

end RetryExample

end StabilityPlatform.PatrolStall
