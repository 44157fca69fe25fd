import StabilityPlatform.Lib.Fold
import StabilityPlatform.Lib.Run
import StabilityPlatform.Lib.StableSort
import StabilityPlatform.PlanRun.Abort

/-!
# Rounds of aggregation

A job that ends commits its status together with a mark, and leaves its run alone. The aggregator
locks the row of the run, reads a batch of marks, then the jobs, recounts the run, deletes the
marks it has read and ends the run if all jobs have ended. A sweep recounts runs without marks. An
abort counts the pending jobs it ends itself. All three hold the lock of the row, and jobs end
between their statements; wake-ups are lost, transactions roll back.

## Main results

* `exact_of_no_marks`: **no end of a job is lost**.
* `ended_stays`: **a run ends once**, when its jobs have, and is not touched again.
* `sweep_leaves`: **a sweep** finds nothing to do unless a job has just ended.
* `drain_settles`: **a drain** brings the run up to its jobs, from any state that is reached.
-/

namespace StabilityPlatform.AggregationRounds

open Lib

/-! ### Recounting -/

/-- The counters of a run. -/
def counters (run : PlanRunRow) : List ℕ :=
  [run.totalJobCount, run.terminalJobCount, run.completedJobCount, run.failedJobCount,
    run.abortedJobCount]

/-- `recount_plan_run_counters`: the row, and whether its counters drifted. -/
def recountPlanRunCounters (run : PlanRunRow) (jobs : List JobStatus) : PlanRunRow × Bool :=
  let completed := countStatus jobs .completed
  let failed := countStatus jobs .failed
  let aborted := countStatus jobs .aborted
  let recounted := { run with
    totalJobCount := jobs.length
    terminalJobCount := completed + failed + aborted
    completedJobCount := completed
    failedJobCount := failed
    abortedJobCount := aborted }
  (recounted, counters run != counters recounted)

/-! ### States -/

/-- A row of `plan_run_pending_aggregation`. -/
structure PendingMark where
  jobId : ℕ
  createdAt : Time

/-- What the transaction that has locked the run has read: the marks it will delete, and the
jobs. A round goes on only with marks, the sweep only without. -/
structure Recount where
  markIds : List ℕ
  jobs : Option (List AbortJob)

/-- A run with its jobs, its marks, and the transaction that holds the lock of its row. -/
structure AggregationState where
  jobs : List AbortJob
  marks : List PendingMark
  run : PlanRunRow
  holder : Option Recount

/-- What happens: a live job gets a status, the end of a job is reported again, a transaction
locks the run and goes on, or one of the two transactions of an abort. -/
inductive AggregationOp
  | setStatus (jobId : ℕ) (status : JobStatus) (createdAt : Time)
  | onJobTerminal (jobId : ℕ) (createdAt : Time)
  | lockRound
  | lockSweep
  | readJobs
  | commit (now : Time)
  | rollback
  | abortFirst (call : AbortCall) (now : Time)
  | abortSecond (call : AbortCall) (now : Time) (pendingIds requested : List ℕ)

/-- The jobs with a new status of one of them. -/
def setStatus (jobId : ℕ) (status : JobStatus) (jobs : List AbortJob) : List AbortJob :=
  jobs.map fun job => if job.id = jobId then { job with status := status } else job

namespace AggregationState

/-- The jobs that have a mark. -/
def marked (s : AggregationState) : List ℕ := s.marks.map PendingMark.jobId

/-- `on_job_terminal`: a job that has ended gets a mark, unless it has one. -/
def onJobTerminal (s : AggregationState) (jobId : ℕ) (createdAt : Time) : AggregationState :=
  if (s.jobs.any fun job => job.id = jobId && job.status.isTerminal) &&
      !s.marked.contains jobId then
    { s with marks := s.marks ++ [⟨jobId, createdAt⟩] }
  else s

/-- The marks in the order they are read in. -/
def oldestFirst (s : AggregationState) : List PendingMark :=
  sortBy (fun mark => toLex (mark.createdAt, mark.jobId)) s.marks

/-- The marks a round reads. -/
def batch (limit : ℕ) (s : AggregationState) : List ℕ :=
  (s.oldestFirst.take limit).map PendingMark.jobId

/-- The end of `_aggregation_round_sync`. -/
def commitRound (now : Time) (markIds : List ℕ) (jobs : List AbortJob) (s : AggregationState) :
    Option AggregationState :=
  (applyPlanRunAggregationFromCounters now
    (recountPlanRunCounters s.run (jobs.map AbortJob.status)).1).map fun out =>
      { s with
        marks := s.marks.filter fun mark => !markIds.contains mark.jobId
        run := out.2
        holder := none }

/-- The end of `_reconcile_plan_run_counters_body`, for a run without marks. -/
def commitSweep (now : Time) (jobs : List AbortJob) (s : AggregationState) :
    Option AggregationState :=
  let (recounted, drifted) := recountPlanRunCounters s.run (jobs.map AbortJob.status)
  if drifted && decide (0 < recounted.totalJobCount) then
    (applyPlanRunAggregationFromCounters now recounted).map fun out =>
      { s with run := effectsDone out, holder := none }
  else some { s with run := recounted, holder := none }

/-- The state after a step; `none` when it cannot be taken. -/
def step (limit : ℕ) (s : AggregationState) : AggregationOp → Option AggregationState
  | .setStatus jobId status createdAt =>
    if s.jobs.any fun job => job.id = jobId && !job.status.isTerminal then
      some (onJobTerminal { s with jobs := setStatus jobId status s.jobs } jobId createdAt)
    else none
  | .onJobTerminal jobId createdAt => some (s.onJobTerminal jobId createdAt)
  | .lockRound =>
    if s.holder.isNone && !(s.batch limit).isEmpty then
      some { s with holder := some ⟨s.batch limit, none⟩ }
    else none
  | .lockSweep =>
    if s.holder.isNone && s.marks.isEmpty then some { s with holder := some ⟨[], none⟩ }
    else none
  | .readJobs => s.holder.bind fun h =>
    if h.jobs.isNone then some { s with holder := some { h with jobs := some s.jobs } } else none
  | .commit now => s.holder.bind fun h => h.jobs.bind fun jobs =>
    if h.markIds.isEmpty then s.commitSweep now jobs else s.commitRound now h.markIds jobs
  | .rollback => some { s with holder := none }
  | .abortFirst call now =>
    if s.holder.isNone then
      match StabilityPlatform.abortFirst call now s.jobs s.run with
      | some (.ended run) | some (.pending run _ _) => some { s with run := run }
      | some .noop | none => none
    else none
  | .abortSecond call now pendingIds requested =>
    if s.holder.isNone then
      (StabilityPlatform.abortSecond call now pendingIds requested s.jobs s.run).map
        fun (run, jobs) => { s with run := run, jobs := jobs }
    else none

/-- The step relation. -/
abbrev Step (limit : ℕ) (s : AggregationState) (op : AggregationOp)
    (s' : AggregationState) : Prop := s.step limit op = some s'

/-- `_aggregation_round_sync` on its own. -/
def aggregationRound (limit : ℕ) (now : Time) (s : AggregationState) : Option AggregationState :=
  [.lockRound, .readJobs, .commit now].foldlM (step limit) s

/-- `drain_plan_run_aggregation_sync` on its own: rounds until there are no marks, but no more
than these; how many marks it consumed, and what it leaves. -/
def drain (limit : ℕ) (now : Time) : ℕ → AggregationState → ℕ × AggregationState
  | 0, s => (0, s)
  | rounds + 1, s =>
    match s.aggregationRound limit now with
    | some s' =>
      let (consumed, last) := drain limit now rounds s'
      ((s.batch limit).length + consumed, last)
    | none => (0, s)

end AggregationState

/-! ### Tables that were read earlier -/

/-- A job as it was read earlier: when it had ended it still has, and when it has ended since, it
is one of those marked. -/
structure Reflects (marked : List ℕ) (a b : AbortJob) : Prop where
  id : a.id = b.id
  stays : a.status.isTerminal → b.status = a.status
  seen : b.status.isTerminal → b.id ∉ marked → a.status = b.status

/-- A table that was read earlier. -/
abbrev Upto (marked : List ℕ) (old jobs : List AbortJob) : Prop :=
  List.Forall₂ (Reflects marked) old jobs

/-- A table is read as it is. -/
theorem Upto.refl (marked : List ℕ) (jobs : List AbortJob) : Upto marked jobs jobs :=
  List.forall₂_same.mpr fun _ _ => ⟨rfl, fun _ => rfl, fun _ _ => rfl⟩

/-- What was read is still what was read when the jobs go on. -/
theorem Upto.trans {marked marked' : List ℕ} {old jobs jobs' : List AbortJob}
    (h : Upto marked old jobs) (h' : Upto marked' jobs jobs') (hsub : marked ⊆ marked') :
    Upto marked' old jobs' := by
  induction h generalizing jobs' with
  | nil =>
      cases h'
      exact .nil
  | cons hab _ ih =>
      cases h' with
      | cons hbc hrest =>
          refine .cons ⟨hab.id.trans hbc.id, fun ha => ?_, fun hc hmark => ?_⟩ (ih hrest)
          · have hb := hab.stays ha
            rw [← hb] at ha ⊢
            exact hbc.stays ha
          · have hb := hbc.seen hc hmark
            rw [← hb] at hc ⊢
            exact hab.seen hc fun hmem => hmark (hbc.id ▸ hsub hmem)

/-- The ids stay. -/
theorem Upto.map_id {marked : List ℕ} {old jobs : List AbortJob} (h : Upto marked old jobs) :
    old.map AbortJob.id = jobs.map AbortJob.id := by
  induction h with
  | nil => rfl
  | cons hab _ ih => rw [List.map_cons, List.map_cons, hab.id, ih]

/-- When all jobs had ended, none has ended since. -/
theorem Upto.of_all {marked : List ℕ} {old jobs : List AbortJob} (h : Upto marked old jobs)
    (hall : old.all (·.status.isTerminal) = true) : Upto [] old jobs := by
  induction h with
  | nil => exact .nil
  | cons hab _ ih =>
      rw [List.all_cons, Bool.and_eq_true] at hall
      exact .cons ⟨hab.id, hab.stays, fun _ _ => (hab.stays hall.1).symm⟩ (ih hall.2)

/-- A live job gets a status. -/
theorem upto_setStatus {marked : List ℕ} {jobId : ℕ} {status : JobStatus} {jobs : List AbortJob}
    (hlive : ∀ job ∈ jobs, job.id = jobId → ¬job.status.isTerminal)
    (hmark : status.isTerminal → jobId ∈ marked) :
    Upto marked jobs (setStatus jobId status jobs) := by
  refine List.forall₂_map_right_iff.mpr (List.forall₂_same.mpr fun job hjob => ?_)
  by_cases hid : job.id = jobId
  · rw [if_pos hid]
    refine ⟨rfl, fun hend => absurd hend (hlive job hjob hid), fun hend hnot => ?_⟩
    exact absurd (hid ▸ hmark hend) hnot
  · rw [if_neg hid]
    exact ⟨rfl, fun _ => rfl, fun _ _ => rfl⟩

/-- An abort counts the jobs it ends: they end in what was counted, too. -/
theorem Upto.markAborted {marked : List ℕ} {old jobs : List AbortJob} (h : Upto marked old jobs)
    (abortedIds : List ℕ) :
    Upto marked (StabilityPlatform.markAborted abortedIds old)
      (StabilityPlatform.markAborted abortedIds jobs) := by
  refine List.forall₂_map_left_iff.mpr (List.forall₂_map_right_iff.mpr (h.imp fun a b hab => ?_))
  rw [hab.id]
  by_cases hmem : abortedIds.contains b.id = true
  · rw [if_pos hmem, if_pos hmem]
    exact ⟨rfl, fun _ => rfl, fun _ _ => rfl⟩
  · rw [if_neg hmem, if_neg hmem]
    exact hab

/-! ### What the counters tell -/

/-- The counters are those of these jobs. -/
structure Counts (jobs : List AbortJob) (run : PlanRunRow) : Prop where
  total : run.totalJobCount = jobs.length
  completed : run.completedJobCount = countStatus (jobs.map AbortJob.status) .completed
  failed : run.failedJobCount = countStatus (jobs.map AbortJob.status) .failed
  aborted : run.abortedJobCount = countStatus (jobs.map AbortJob.status) .aborted
  terminal : run.terminalJobCount =
    run.completedJobCount + run.failedJobCount + run.abortedJobCount

/-- Rows with the same counters count the same jobs. -/
theorem Counts.of_counters {jobs : List AbortJob} {run run' : PlanRunRow} (h : Counts jobs run)
    (heq : counters run' = counters run) : Counts jobs run' := by
  obtain ⟨htotal, hterminal, hcompleted, hfailed, haborted⟩ : _ ∧ _ ∧ _ ∧ _ ∧ _ := by
    simpa [counters] using heq
  exact ⟨htotal.trans h.total, hcompleted.trans h.completed, hfailed.trans h.failed,
    haborted.trans h.aborted, by rw [hterminal, h.terminal, hcompleted, hfailed, haborted]⟩

/-- The run has ended exactly when these jobs have, and as they and its aborts tell. -/
def Settled (jobs : List AbortJob) (run : PlanRunRow) : Prop :=
  if jobs.all (·.status.isTerminal) then
    run.status = resolvePlanRunStatus (countStatus (jobs.map AbortJob.status) .failed)
      (countStatus (jobs.map AbortJob.status) .aborted) run.abortRequested
  else run.status = .running

/-- When nothing is marked, as many jobs have a terminal status as when they were read. -/
theorem Upto.countStatus_eq {jobs jobs' : List AbortJob} (h : Upto [] jobs jobs')
    {status : JobStatus} (hterminal : status.isTerminal) :
    countStatus (jobs.map AbortJob.status) status =
      countStatus (jobs'.map AbortJob.status) status := by
  induction h with
  | nil => rfl
  | @cons a b _ _ hab _ ih =>
      have hsame : a.status = status ↔ b.status = status := by
        constructor
        · rintro rfl
          exact hab.stays hterminal
        · rintro rfl
          exact hab.seen hterminal List.not_mem_nil
      simp only [countStatus, List.map_cons, List.count_cons, beq_iff_eq] at ih ⊢
      rw [ih, if_congr hsame rfl rfl]

/-- Then they have ended if and only if they had. -/
theorem Upto.all_eq {jobs jobs' : List AbortJob} (h : Upto [] jobs jobs') :
    jobs.all (·.status.isTerminal) = jobs'.all (·.status.isTerminal) := by
  induction h with
  | nil => rfl
  | @cons a b _ _ hab _ ih =>
      have hsame : a.status.isTerminal = b.status.isTerminal := by
        by_cases ha : a.status.isTerminal
        · rw [hab.stays ha]
        · by_cases hb : b.status.isTerminal
          · rw [hab.seen hb List.not_mem_nil]
          · rw [Bool.eq_false_iff.mpr ha, Bool.eq_false_iff.mpr hb]
      rw [List.all_cons, List.all_cons, hsame, ih]

/-- Then the counters of the one table are those of the other. -/
theorem Counts.upto_iff {jobs jobs' : List AbortJob} {run : PlanRunRow}
    (h : Upto [] jobs jobs') : Counts jobs run ↔ Counts jobs' run := by
  have hcompleted := @Upto.countStatus_eq _ _ h .completed rfl
  have hfailed := @Upto.countStatus_eq _ _ h .failed rfl
  have haborted := @Upto.countStatus_eq _ _ h .aborted rfl
  constructor
  · exact fun hc => ⟨hc.total.trans h.length_eq, hc.completed.trans hcompleted,
      hc.failed.trans hfailed, hc.aborted.trans haborted, hc.terminal⟩
  · exact fun hc => ⟨hc.total.trans h.length_eq.symm, hc.completed.trans hcompleted.symm,
      hc.failed.trans hfailed.symm, hc.aborted.trans haborted.symm, hc.terminal⟩

/-- A run that is settled for the one table is for the other. -/
theorem Settled.of_upto {jobs jobs' : List AbortJob} {run : PlanRunRow} (hs : Settled jobs run)
    (h : Upto [] jobs jobs') : Settled jobs' run := by
  rw [Settled, ← h.all_eq, ← h.countStatus_eq rfl, ← h.countStatus_eq rfl]
  exact hs

/-- The recounted row has the counters of the jobs. -/
theorem counts_recount (run : PlanRunRow) (jobs : List AbortJob) :
    Counts jobs (recountPlanRunCounters run (jobs.map AbortJob.status)).1 :=
  ⟨List.length_map _, rfl, rfl, rfl, rfl⟩

/-- Counters that are right are not changed by a recount. -/
theorem recount_of_counts {run : PlanRunRow} {jobs : List AbortJob} (h : Counts jobs run) :
    recountPlanRunCounters run (jobs.map AbortJob.status) = (run, false) := by
  have hterminal := h.terminal
  rw [h.completed, h.failed, h.aborted] at hterminal
  have hrow : (recountPlanRunCounters run (jobs.map AbortJob.status)).1 = run := by
    rw [recountPlanRunCounters]
    dsimp only
    rw [List.length_map, ← h.total, ← hterminal, ← h.completed, ← h.failed, ← h.aborted]
  refine Prod.ext hrow ?_
  have hdrift : (recountPlanRunCounters run (jobs.map AbortJob.status)).2 =
    (counters run != counters (recountPlanRunCounters run (jobs.map AbortJob.status)).1) := rfl
  rw [hdrift, hrow, bne_self_eq_false]

/-- The jobs that have ended are those with one of the three statuses. -/
theorem countP_isTerminal (statuses : List JobStatus) :
    statuses.countP JobStatus.isTerminal = countStatus statuses .completed +
      countStatus statuses .failed + countStatus statuses .aborted := by
  induction statuses with
  | nil => rfl
  | cons status rest ih =>
      simp only [countStatus, List.countP_cons, List.count_cons] at ih ⊢
      rw [ih]
      cases status <;> simp [JobStatus.isTerminal] <;> omega

/-- The counters are full exactly when all jobs have ended. -/
theorem Counts.terminal_lt_iff {jobs : List AbortJob} {run : PlanRunRow} (h : Counts jobs run) :
    run.terminalJobCount < run.totalJobCount ↔ jobs.all (·.status.isTerminal) = false := by
  have hcount : run.terminalJobCount = jobs.countP (·.status.isTerminal) := by
    rw [h.terminal, h.completed, h.failed, h.aborted, ← countP_isTerminal, List.countP_map]
    rfl
  have hle : jobs.countP (·.status.isTerminal) ≤ jobs.length := List.countP_le_length
  have hfull : jobs.countP (·.status.isTerminal) = jobs.length ↔
      jobs.all (·.status.isTerminal) = true := by
    rw [List.countP_eq_length, List.all_eq_true]
  rw [hcount, h.total, ← Bool.not_eq_true, ← hfull]
  omega

/-- A settled run has ended exactly when the jobs have. -/
theorem Settled.isTerminal {jobs : List AbortJob} {run : PlanRunRow} (h : Settled jobs run) :
    run.status.isTerminal = jobs.all (·.status.isTerminal) := by
  rw [Settled] at h
  split at h
  · rename_i hall
    rw [h, isTerminal_resolvePlanRunStatus, hall]
  · rename_i hlive
    rw [h, Bool.eq_false_iff.mpr hlive]
    rfl

/-- A settled run that has not ended is running. -/
theorem Settled.running {jobs : List AbortJob} {run : PlanRunRow} (h : Settled jobs run)
    (hlive : run.status.isTerminal ≠ true) : run.status = .running := by
  rw [h.isTerminal] at hlive
  rw [Settled, if_neg hlive] at h
  exact h

/-- Marking the effects of an end changes neither. -/
theorem effectsDone_spec {jobs : List AbortJob} {out : Bool × PlanRunRow} (hc : Counts jobs out.2)
    (hs : Settled jobs out.2) : Counts jobs (effectsDone out) ∧ Settled jobs (effectsDone out) ∧
      (effectsDone out).runContext = out.2.runContext := by
  obtain ⟨applied, run⟩ := out
  cases applied with
  | true => exact ⟨hc.of_counters rfl, hs, rfl⟩
  | false => exact ⟨hc, hs, rfl⟩

/-- A running run may end in any way. -/
theorem transition_running {run : PlanRunRow} (h : run.status = .running)
    (failedOnly aborted : ℕ) (abortRequested : Bool) :
    run.transition (resolvePlanRunStatus failedOnly aborted abortRequested) =
      some { run with status := resolvePlanRunStatus failedOnly aborted abortRequested } := by
  rw [PlanRunRow.transition, h, if_pos]
  rw [resolvePlanRunStatus]
  split
  · decide
  · split <;> decide

/-- **Aggregation** over right counters settles a run that has jobs. -/
theorem aggregate_spec {jobs : List AbortJob} {run : PlanRunRow} (now : Time)
    (hc : Counts jobs run) (hjobs : jobs ≠ []) (hs : run.status = .running ∨ Settled jobs run) :
    ∃ out, applyPlanRunAggregationFromCounters now run = some out ∧ Counts jobs out.2 ∧
      Settled jobs out.2 ∧ out.2.runContext = run.runContext ∧
      (run.status.isTerminal = true → out = (false, run)) := by
  have htotal : run.totalJobCount ≠ 0 := by
    rw [hc.total]
    exact fun h => hjobs (List.length_eq_zero_iff.mp h)
  rw [applyPlanRunAggregationFromCounters]
  by_cases hend : run.status.isTerminal = true
  · have hsettled : Settled jobs run := hs.resolve_left fun hrun => by
      rw [hrun] at hend
      cases hend
    rw [if_pos hend]
    exact ⟨_, rfl, hc, hsettled, rfl, fun _ => rfl⟩
  · have hrun : run.status = .running := hs.elim id fun hsettled => hsettled.running hend
    rw [if_neg hend]
    by_cases hall : jobs.all (·.status.isTerminal) = true
    · have hfull : ¬(run.totalJobCount = 0 ∨ run.terminalJobCount < run.totalJobCount) := by
        rw [hc.terminal_lt_iff, hall]
        exact fun h => h.elim htotal Bool.noConfusion
      rw [if_neg hfull, finalizePlanRun, transition_running hrun]
      refine ⟨_, rfl, hc.of_counters rfl, ?_, rfl, fun h => absurd h hend⟩
      rw [Settled, if_pos hall, ← hc.failed, ← hc.aborted]
      rfl
    · have hlive := Bool.eq_false_iff.mpr hall
      rw [if_pos (.inr (hc.terminal_lt_iff.mpr hlive))]
      refine ⟨_, rfl, hc, ?_, rfl, fun _ => rfl⟩
      rw [Settled, if_neg hall]
      exact hrun

/-! ### What an abort counts -/

/-- The counts of live jobs that are aborted. -/
theorem countStatus_markAborted {abortedIds : List ℕ} {jobs : List AbortJob}
    (hlive : ∀ job ∈ jobs, job.id ∈ abortedIds → ¬job.status.isTerminal) {status : JobStatus}
    (hterminal : status.isTerminal) :
    countStatus ((markAborted abortedIds jobs).map AbortJob.status) status =
      countStatus (jobs.map AbortJob.status) status + if status = .aborted then
        (jobs.map AbortJob.id).countP (abortedIds.contains ·) else 0 := by
  induction jobs with
  | nil => simp [countStatus, markAborted]
  | cons job rest ih =>
      have ih := ih fun job' hjob' => hlive job' (List.mem_cons_of_mem _ hjob')
      simp only [countStatus, markAborted, List.map_cons, List.count_cons, List.countP_cons,
        beq_iff_eq] at ih ⊢
      rw [ih]
      by_cases hmem : abortedIds.contains job.id = true
      · have hother : job.status ≠ status := by
          rintro rfl
          exact hlive job List.mem_cons_self (List.contains_iff_mem.mp hmem) hterminal
        rw [if_pos hmem, if_pos hmem, if_neg hother]
        by_cases haborted : status = .aborted
        · rw [if_pos haborted, if_pos haborted, if_pos haborted.symm]
          omega
        · rw [if_neg haborted, if_neg haborted, if_neg (Ne.symm haborted)]
      · rw [if_neg hmem, if_neg hmem, Nat.add_zero]
        omega

/-- As many jobs as there are distinct ids among them. -/
theorem countP_contains {ids sub : List ℕ} (hids : ids.Nodup) (h : sub.Sublist ids) :
    ids.countP (sub.contains ·) = sub.length := by
  rw [List.countP_eq_length_filter]
  refine ((List.perm_ext_iff_of_nodup (hids.filter _) (hids.sublist h)).mpr fun id => ?_).length_eq
  rw [List.mem_filter, List.contains_iff_mem]
  exact and_iff_right_of_imp (h.subset ·)

/-- Another context leaves a run settled that has not ended, or that failed. -/
theorem Settled.context {jobs : List AbortJob} {run : PlanRunRow} (h : Settled jobs run)
    (hwhy : run.status = .running ∨ 0 < countStatus (jobs.map AbortJob.status) .aborted)
    (runContext : PyDict) : Settled jobs { run with runContext := runContext } := by
  rw [Settled] at h ⊢
  by_cases hall : jobs.all (·.status.isTerminal) = true
  · rw [if_pos hall] at h ⊢
    obtain hrun | haborted := hwhy
    · have hend := isTerminal_resolvePlanRunStatus (countStatus (jobs.map AbortJob.status) .failed)
        (countStatus (jobs.map AbortJob.status) .aborted) run.abortRequested
      rw [← h, hrun] at hend
      cases hend
    · rw [resolvePlanRunStatus, if_pos (.inl haborted)] at h ⊢
      exact h
  · rw [if_neg hall] at h ⊢
    exact h

/-- The end of an abort keeps a settled run settled. -/
theorem settleAbort_spec {call : AbortCall} {now : Time} {jobs table : List AbortJob}
    {run run' : PlanRunRow} (hc : Counts jobs run) (hjobs : jobs ≠ []) (hs : Settled jobs run)
    (h : settleAbort call now table run = some run') :
    Counts jobs run' ∧ Settled jobs run' ∧ run'.runContext = run.runContext := by
  rw [settleAbort] at h
  split at h
  · cases h
    exact ⟨hc, hs, rfl⟩
  · have htotal : 0 < run.totalJobCount := hc.total ▸ List.length_pos_of_ne_nil hjobs
    rw [if_pos htotal] at h
    obtain ⟨out, hout, hc', hs', hcontext, -⟩ := aggregate_spec now hc hjobs (.inr hs)
    rw [hout] at h
    cases h
    obtain ⟨hdone, hsdone, hcdone⟩ := effectsDone_spec hc' hs'
    exact ⟨hdone, hsdone, hcdone.trans hcontext⟩

/-- What was read of the pending jobs had not ended. -/
theorem Upto.live {marked : List ℕ} {old jobs : List AbortJob} (h : Upto marked old jobs)
    {ids : List ℕ} (hlive : ∀ job ∈ jobs, job.id ∈ ids → ¬job.status.isTerminal) :
    ∀ job ∈ old, job.id ∈ ids → ¬job.status.isTerminal := by
  induction h with
  | nil => exact fun _ hjob => absurd hjob List.not_mem_nil
  | cons hab _ ih =>
      rw [List.forall_mem_cons] at hlive ⊢
      refine ⟨fun hid hend => hlive.1 (hab.id ▸ hid) ?_, ih hlive.2⟩
      rw [hab.stays hend]
      exact hend

/-- The ids with a status are those of live jobs only if the status is. -/
theorem live_of_idsWith {jobs : List AbortJob} (hids : (jobs.map AbortJob.id).Nodup)
    (p : AbortJob → Bool) (status : JobStatus) (hlive : ¬status.isTerminal) :
    ∀ job ∈ jobs, job.id ∈ idsWith status (jobs.filter p) → ¬job.status.isTerminal := by
  intro job hjob hmem
  obtain ⟨other, hother, hid⟩ := List.mem_map.mp hmem
  obtain ⟨hin, hstatus⟩ := List.mem_filter.mp hother
  have hsame : other = job :=
    List.inj_on_of_nodup_map hids (List.mem_filter.mp hin).1 hjob hid
  rw [← hsame, of_decide_eq_true hstatus]
  exact hlive

/-- **The bulk update** counts the jobs it ends. -/
theorem bulkAbort_spec {now : Time} {pendingIds abortedIds marked : List ℕ}
    {jobs table : List AbortJob} {run run' : PlanRunRow} (hupto : Upto marked jobs table)
    (hids : (table.map AbortJob.id).Nodup) (hc : Counts jobs run) (hjobs : jobs ≠ [])
    (hs : Settled jobs run) (hrun : run.status = .running)
    (h : bulkAbortPendingJobs now pendingIds table run = some (abortedIds, run')) :
    Counts (markAborted abortedIds jobs) run' ∧ Settled (markAborted abortedIds jobs) run' ∧
      run'.runContext = run.runContext ∧ (run'.status = .running ∨
        0 < countStatus ((markAborted abortedIds jobs).map AbortJob.status) .aborted) := by
  rw [bulkAbortPendingJobs] at h
  dsimp only at h
  split at h
  · cases h
    have hsame : markAborted [] jobs = jobs := List.map_id' jobs
    rw [hsame]
    exact ⟨hc, hs, rfl, .inl hrun⟩
  · rename_i hsome
    have hlive := hupto.live (live_of_idsWith hids (fun job => pendingIds.contains job.id) .pending
      Bool.noConfusion)
    have hcount : (jobs.map AbortJob.id).countP ((idsWith .pending
        (table.filter fun job => pendingIds.contains job.id)).contains ·) =
          (idsWith .pending (table.filter fun job => pendingIds.contains job.id)).length := by
      rw [hupto.map_id]
      exact countP_contains hids ((List.filter_sublist.trans List.filter_sublist).map _)
    generalize idsWith .pending (table.filter fun job => pendingIds.contains job.id) = ids
      at h hsome hlive hcount
    have htotal : 0 < run.totalJobCount := hc.total ▸ List.length_pos_of_ne_nil hjobs
    rw [if_pos htotal] at h
    have hc' : Counts (markAborted ids jobs) { run with
        abortedJobCount := run.abortedJobCount + ids.length
        terminalJobCount := run.terminalJobCount + ids.length } := by
      refine ⟨hc.total.trans (List.length_map _).symm, ?_, ?_, ?_, ?_⟩
      · rw [countStatus_markAborted hlive rfl]
        exact hc.completed
      · rw [countStatus_markAborted hlive rfl]
        exact hc.failed
      · rw [countStatus_markAborted hlive rfl, if_pos rfl, hcount]
        exact congrArg (· + ids.length) hc.aborted
      · exact (congrArg (· + ids.length) hc.terminal).trans (Nat.add_assoc _ _ _)
    have hjobs' : markAborted ids jobs ≠ [] := fun hnil => hjobs (List.map_eq_nil_iff.mp hnil)
    obtain ⟨out, hout, hcout, hsout, hcontext, -⟩ := aggregate_spec now hc' hjobs' (.inl hrun)
    have haborted : 0 < countStatus ((markAborted ids jobs).map AbortJob.status) .aborted := by
      rw [← hc'.aborted]
      exact Nat.add_pos_right _ (List.length_pos_of_ne_nil fun hnil => hsome (by rw [hnil]; rfl))
    rw [hout] at h
    cases h
    obtain ⟨hdone, hsdone, hcdone⟩ := effectsDone_spec hcout hsout
    exact ⟨hdone, hsdone, hcdone.trans hcontext, .inr haborted⟩

/-- A value set under two keys leaves the others. -/
theorem get_jsonbSetIn {d d' : PyDict} {key key' other : String} {v : PyVal} (hne : other ≠ key)
    (h : jsonbSetIn d key key' v = .ok d') : d'.get other = d.get other := by
  rw [jsonbSetIn] at h
  split at h
  · cases h
    exact PyDict.get_set_of_ne _ _ hne
  · cases h
  · cases h
    rfl

/-- A request leaves the precheck. -/
theorem precheck_recordAbortRequest {call : AbortCall} {now : Time}
    {runContext runContext' : PyDict} {running : List ℕ}
    (h : recordAbortRequest call now runContext running = .ok runContext') :
    runContext'.get "precheck" = runContext.get "precheck" := by
  obtain ⟨payload, -, h⟩ := Except.bind_eq_ok_iff.mp h
  dsimp only at h
  split at h
  · cases h
    exact PyDict.get_set_of_ne _ _ (by decide)
  · rw [get_jsonbSetIn (by decide) h, ensureAbortHostsKey, PyDict.get_set_of_ne _ _ (by decide),
      PyDict.get_set_of_ne _ _ (by decide)]

/-- So does adding to the jobs it names. -/
theorem precheck_refreshRequested {runContext runContext' : PyDict} {requested : List ℕ}
    (h : refreshRequested runContext requested = .ok runContext') :
    runContext'.get "precheck" = runContext.get "precheck" := by
  rw [refreshRequested] at h
  split at h
  · obtain ⟨abort, -, h⟩ := Except.bind_eq_ok_iff.mp h
    obtain ⟨current, -, h⟩ := Except.bind_eq_ok_iff.mp h
    obtain ⟨refreshed, -, h⟩ := Except.bind_eq_ok_iff.mp h
    have hne : "precheck" ≠ "abort_requested" := by decide
    exact get_jsonbSetIn hne h
  · cases h

/-! ### What every step keeps -/

/-- What the transaction that holds the lock has read: marks that are there, and jobs that only
those that were marked since have left. -/
structure Recount.Reads (h : Recount) (counted : List AbortJob) (s : AggregationState) : Prop where
  marks : h.markIds ⊆ s.marked
  table : ∀ jobs ∈ h.jobs, (∃ marked, Upto marked counted jobs) ∧
    Upto (s.marked.filter fun jobId => !h.markIds.contains jobId) jobs s.jobs

/-- The counters are those of the jobs as they were at some time, and jobs that have ended since
have a mark. -/
structure Tracks (counted : List AbortJob) (s : AggregationState) : Prop where
  nonempty : counted ≠ []
  upto : Upto s.marked counted s.jobs
  counts : Counts counted s.run
  settled : Settled counted s.run
  reads : ∀ h ∈ s.holder, h.Reads counted s

/-- What every step keeps. -/
structure Inv (s : AggregationState) : Prop where
  ids : (s.jobs.map AbortJob.id).Nodup
  precheck : s.run.runContext.get "precheck" = .null
  marks : s.marked.Nodup
  ended : ∀ job ∈ s.jobs, job.id ∈ s.marked → job.status.isTerminal
  tracks : ∃ counted, Tracks counted s

/-- A run that was admitted: its jobs are pending, or failed as their devices were rejected, and
all are counted. -/
structure Admitted (s : AggregationState) : Prop where
  ids : (s.jobs.map AbortJob.id).Nodup
  pending : ∃ job ∈ s.jobs, job.status = .pending
  counts : Counts s.jobs s.run
  status : s.run.status = .running
  precheck : s.run.runContext.get "precheck" = .null
  marks : s.marks = []
  holder : s.holder = none

/-- An admitted run. -/
theorem Admitted.inv {s : AggregationState} (h : Admitted s) : Inv s := by
  obtain ⟨job, hjob, hpending⟩ := h.pending
  have hmarked : s.marked = [] := by rw [AggregationState.marked, h.marks]; rfl
  refine ⟨h.ids, h.precheck, by rw [hmarked]; exact .nil, ?_, s.jobs,
    List.ne_nil_of_mem hjob, .refl _ _, h.counts, ?_, ?_⟩
  · rw [hmarked]
    exact fun _ _ hmem => absurd hmem List.not_mem_nil
  · rw [Settled, if_neg]
    · exact h.status
    · intro hall
      have hend := List.all_eq_true.mp hall job hjob
      rw [hpending] at hend
      cases hend
  · rw [h.holder]
    exact fun _ hnone => by cases hnone

variable {limit : ℕ} {s s' : AggregationState}

/-- **A recount** over jobs that were read since settles the run; one that has ended it leaves
alone. -/
theorem Tracks.aggregate {counted jobs : List AbortJob} (ht : Tracks counted s)
    {marked : List ℕ} (hread : Upto marked counted jobs) (now : Time) :
    (s.run.status.isTerminal = true → Counts jobs s.run ∧ Settled jobs s.run) ∧ jobs ≠ [] ∧
      ∃ out, applyPlanRunAggregationFromCounters now
          (recountPlanRunCounters s.run (jobs.map AbortJob.status)).1 = some out ∧
        Counts jobs out.2 ∧ Settled jobs out.2 ∧ out.2.runContext = s.run.runContext ∧
        (s.run.status.isTerminal = true → out = (false, s.run)) := by
  have hend : s.run.status.isTerminal = true → Counts jobs s.run ∧ Settled jobs s.run := by
    intro hterminal
    rw [ht.settled.isTerminal] at hterminal
    have hsame := hread.of_all hterminal
    exact ⟨(Counts.upto_iff hsame).mp ht.counts, ht.settled.of_upto hsame⟩
  have hjobs : jobs ≠ [] := fun hnil => ht.nonempty (by
    have hlen := hread.length_eq
    rw [hnil] at hlen
    exact List.length_eq_zero_iff.mp hlen)
  have hrecounted : s.run.status = .running ∨
      Settled jobs (recountPlanRunCounters s.run (jobs.map AbortJob.status)).1 := by
    by_cases hterminal : s.run.status.isTerminal = true
    · obtain ⟨hc, hs⟩ := hend hterminal
      rw [recount_of_counts hc]
      exact .inr hs
    · exact .inl (ht.settled.running hterminal)
  obtain ⟨out, hout, hc, hs, hcontext, hkept⟩ := aggregate_spec now (counts_recount s.run jobs)
    hjobs hrecounted
  refine ⟨hend, hjobs, out, hout, hc, hs, hcontext, fun hterminal => ?_⟩
  rw [recount_of_counts (hend hterminal).1] at hkept
  exact hkept hterminal

/-- Jobs that go on, with marks for those that end. -/
theorem Inv.advance (h : Inv s) (hrun : s'.run = s.run) (hholder : s'.holder = s.holder)
    (hmarks : s'.marked.Nodup) (hsub : s.marked ⊆ s'.marked)
    (hended : ∀ job ∈ s'.jobs, job.id ∈ s'.marked → job.status.isTerminal)
    (hjobs : ∀ marked, (∀ jobId ∈ s'.marked, jobId ∉ s.marked → jobId ∈ marked) →
      Upto marked s.jobs s'.jobs) : Inv s' := by
  obtain ⟨counted, ht⟩ := h.tracks
  have hnext : Upto s'.marked s.jobs s'.jobs := hjobs _ fun _ hmem _ => hmem
  refine ⟨?_, by rw [hrun]; exact h.precheck, hmarks, hended, counted, ht.nonempty,
    ht.upto.trans hnext hsub, by rw [hrun]; exact ht.counts, by rw [hrun]; exact ht.settled, ?_⟩
  · rw [← hnext.map_id]
    exact h.ids
  · rw [hholder]
    refine fun r hr => ⟨fun _ hmem => hsub ((ht.reads r hr).marks hmem), fun jobs hread => ?_⟩
    obtain ⟨hbehind, hupto⟩ := (ht.reads r hr).table jobs hread
    refine ⟨hbehind, hupto.trans (hjobs _ fun jobId hmem hnew => ?_) fun jobId hmem => ?_⟩
    · refine List.mem_filter.mpr ⟨hmem, ?_⟩
      rw [Bool.not_eq_true', ← Bool.not_eq_true, List.contains_iff_mem]
      exact fun hread => hnew ((ht.reads r hr).marks hread)
    · obtain ⟨hin, hnot⟩ := List.mem_filter.mp hmem
      exact List.mem_filter.mpr ⟨hsub hin, hnot⟩

/-- The marks after the end of a job was reported. -/
theorem mem_marked_onJobTerminal {jobId id : ℕ} {createdAt : Time} :
    id ∈ (s.onJobTerminal jobId createdAt).marked ↔ id ∈ s.marked ∨
      id = jobId ∧ ∃ job ∈ s.jobs, job.id = jobId ∧ job.status.isTerminal := by
  have hany : (s.jobs.any fun job => job.id = jobId && job.status.isTerminal) = true ↔
      ∃ job ∈ s.jobs, job.id = jobId ∧ job.status.isTerminal := by
    simp
  rw [AggregationState.onJobTerminal]
  split
  · rename_i hnew
    rw [Bool.and_eq_true, hany] at hnew
    simp [AggregationState.marked, hnew.1]
  · rename_i hold
    rw [Bool.and_eq_true, hany, not_and] at hold
    refine ⟨.inl, fun hmem => hmem.elim (fun hin => hin) fun ⟨hid, hend⟩ => ?_⟩
    simpa [hid] using hold hend

/-- Reporting the end of a job touches the marks only. -/
theorem onJobTerminal_rest (s : AggregationState) (jobId : ℕ) (createdAt : Time) :
    (s.onJobTerminal jobId createdAt).jobs = s.jobs ∧
      (s.onJobTerminal jobId createdAt).run = s.run ∧
      (s.onJobTerminal jobId createdAt).holder = s.holder ∧
      (s.marked.Nodup → (s.onJobTerminal jobId createdAt).marked.Nodup) := by
  rw [AggregationState.onJobTerminal]
  split
  · rename_i hnew
    refine ⟨rfl, rfl, rfl, fun hnodup => ?_⟩
    rw [Bool.and_eq_true] at hnew
    have hnot : jobId ∉ s.marked := by simpa using hnew.2
    rw [AggregationState.marked, List.map_append]
    refine List.nodup_append.mpr ⟨hnodup, List.nodup_singleton _, fun id hid other hother heq => ?_⟩
    obtain rfl := List.mem_singleton.mp hother
    exact hnot (heq ▸ hid)
  · exact ⟨rfl, rfl, rfl, fun hnodup => hnodup⟩

/-- A job goes on. -/
theorem Inv.setStatus {jobId : ℕ} {status : JobStatus} {createdAt : Time} (h : Inv s)
    (hstep : s.Step limit (.setStatus jobId status createdAt) s') : Inv s' := by
  obtain ⟨hany, heq⟩ := Option.ite_none_right_eq_some.mp hstep
  cases heq
  obtain ⟨job, hjob, hlive⟩ := List.any_eq_true.mp hany
  simp only [Bool.and_eq_true, decide_eq_true_eq, Bool.not_eq_true'] at hlive
  have honly : ∀ other ∈ s.jobs, other.id = jobId → ¬other.status.isTerminal := by
    intro other hother hid
    rw [List.inj_on_of_nodup_map h.ids hother hjob (hid.trans hlive.1.symm), hlive.2]
    exact Bool.false_ne_true
  obtain ⟨hjobs, hrun, hholder, hnodup⟩ := onJobTerminal_rest
    { s with jobs := AggregationRounds.setStatus jobId status s.jobs } jobId createdAt
  have hunmarked : jobId ∉ s.marked := fun hmem =>
    honly job hjob hlive.1 (h.ended job hjob (hlive.1 ▸ hmem))
  refine h.advance hrun hholder (hnodup h.marks)
    (fun id hid => mem_marked_onJobTerminal.mpr (.inl hid)) ?_ fun marked hmarked => ?_
  · rw [hjobs]
    intro other hother hmem
    obtain ⟨old, hold, rfl⟩ := List.mem_map.mp hother
    by_cases hid : old.id = jobId
    · rw [if_pos hid] at hmem ⊢
      obtain hmem | ⟨-, ended, hended, hid', hend⟩ := mem_marked_onJobTerminal.mp hmem
      · exact absurd (hid ▸ hmem) hunmarked
      · obtain ⟨old', -, rfl⟩ := List.mem_map.mp hended
        by_cases hid'' : old'.id = jobId
        · rw [if_pos hid''] at hend
          exact hend
        · rw [if_neg hid''] at hid'
          exact absurd hid' hid''
    · rw [if_neg hid] at hmem ⊢
      obtain hmem | ⟨hsame, -⟩ := mem_marked_onJobTerminal.mp hmem
      · exact h.ended old hold hmem
      · exact absurd hsame hid
  · rw [hjobs]
    refine upto_setStatus honly fun hend => hmarked jobId ?_ hunmarked
    refine mem_marked_onJobTerminal.mpr
      (.inr ⟨rfl, { job with status := status }, ?_, hlive.1, hend⟩)
    exact List.mem_map.mpr ⟨job, hjob, if_pos hlive.1⟩

/-- The end of a job is reported again. -/
theorem Inv.onJobTerminal (h : Inv s) (jobId : ℕ) (createdAt : Time) :
    Inv (s.onJobTerminal jobId createdAt) := by
  obtain ⟨hjobs, hrun, hholder, hnodup⟩ := onJobTerminal_rest s jobId createdAt
  refine h.advance hrun hholder (hnodup h.marks)
    (fun id hid => mem_marked_onJobTerminal.mpr (.inl hid)) ?_ fun marked _ => ?_
  · rw [hjobs]
    intro job hjob hmem
    obtain hmem | ⟨hid, ended, hended, hid', hend⟩ := mem_marked_onJobTerminal.mp hmem
    · exact h.ended job hjob hmem
    · rw [List.inj_on_of_nodup_map h.ids hjob hended (hid.trans hid'.symm)]
      exact hend
  · rw [hjobs]
    exact .refl _ _

/-- A transaction locks the run, reads, or rolls back. -/
theorem Inv.hold (h : Inv s) {holder : Option Recount}
    (hreads : ∀ counted, Tracks counted s → ∀ r ∈ holder, r.Reads counted s) :
    Inv { s with holder := holder } := by
  obtain ⟨counted, ht⟩ := h.tracks
  exact ⟨h.ids, h.precheck, h.marks, h.ended, counted, ht.nonempty, ht.upto, ht.counts,
    ht.settled, fun r hr => ⟨(hreads counted ht r hr).marks, (hreads counted ht r hr).table⟩⟩

/-- The marks of a batch are there. -/
theorem batch_subset (limit : ℕ) (s : AggregationState) : s.batch limit ⊆ s.marked := by
  intro jobId hmem
  obtain ⟨mark, hmark, rfl⟩ := List.mem_map.mp hmem
  exact List.mem_map_of_mem (mem_sortBy.mp (List.mem_of_mem_take hmark))

/-- The marks that are left when some were deleted. -/
theorem map_jobId_filter (markIds : List ℕ) (marks : List PendingMark) :
    (marks.filter fun mark => !markIds.contains mark.jobId).map PendingMark.jobId =
      (marks.map PendingMark.jobId).filter fun jobId => !markIds.contains jobId := by
  rw [List.filter_map]
  rfl

/-- The jobs a transaction has read become the ones that are counted. -/
theorem Inv.recounted {r : Recount} {jobs : List AbortJob} (h : Inv s) (hr : s.holder = some r)
    (hread : r.jobs = some jobs) {marks : List PendingMark} {run : PlanRunRow}
    (hmarks : marks = s.marks.filter fun mark => !r.markIds.contains mark.jobId)
    (hc : Counts jobs run) (hs : Settled jobs run)
    (hcontext : run.runContext = s.run.runContext) :
    Inv { s with marks := marks, run := run, holder := none } := by
  obtain ⟨counted, ht⟩ := h.tracks
  obtain ⟨⟨_, hbehind⟩, hupto⟩ := (ht.reads r hr).table jobs hread
  have hmarked : marks.map PendingMark.jobId =
      s.marked.filter fun jobId => !r.markIds.contains jobId := by
    rw [hmarks, map_jobId_filter]
    rfl
  refine ⟨h.ids, by rw [← h.precheck, ← hcontext], ?_, fun job hjob hmem => ?_, jobs,
    ?_, ?_, hc, hs, fun _ hnone => by cases hnone⟩
  · change (marks.map PendingMark.jobId).Nodup
    rw [hmarked]
    exact h.marks.filter _
  · change job.id ∈ marks.map PendingMark.jobId at hmem
    rw [hmarked] at hmem
    exact h.ended job hjob (List.mem_filter.mp hmem).1
  · intro hnil
    have hlen := hbehind.length_eq
    rw [hnil] at hlen
    exact ht.nonempty (List.length_eq_zero_iff.mp hlen)
  · change Upto (marks.map PendingMark.jobId) jobs s.jobs
    rw [hmarked]
    exact hupto

/-- **A transaction that has read the jobs** commits; a run that has ended stays as it is. -/
theorem Inv.commit {now : Time} (h : Inv s) (hstep : s.Step limit (.commit now) s') :
    Inv s' ∧ (s.run.status.isTerminal = true → s'.run = s.run) ∧ s'.jobs = s.jobs := by
  obtain ⟨r, hr, hcommit⟩ := Option.bind_eq_some_iff.mp hstep
  obtain ⟨jobs, hread, hcommit⟩ := Option.bind_eq_some_iff.mp hcommit
  obtain ⟨counted, ht⟩ := h.tracks
  obtain ⟨⟨_, hbehind⟩, -⟩ := (ht.reads r hr).table jobs hread
  obtain ⟨hend, hjobs, out, hout, hc, hs, hcontext, hsame⟩ := ht.aggregate hbehind now
  split at hcommit
  · rename_i hempty
    have hmarks : s.marks = s.marks.filter fun mark => !r.markIds.contains mark.jobId := by
      rw [List.isEmpty_iff.mp hempty]
      exact (List.filter_true _).symm
    rw [AggregationState.commitSweep] at hcommit
    dsimp only at hcommit
    split at hcommit
    · rw [hout] at hcommit
      cases hcommit
      obtain ⟨hdone, hsdone, hcdone⟩ := effectsDone_spec hc hs
      refine ⟨h.recounted hr hread hmarks hdone hsdone (hcdone.trans hcontext),
        fun hterminal => ?_, rfl⟩
      rw [hsame hterminal]
      rfl
    · rename_i hdrift
      cases hcommit
      have htotal :
          0 < (recountPlanRunCounters s.run (jobs.map AbortJob.status)).1.totalJobCount := by
        rw [(counts_recount s.run jobs).total]
        exact List.length_pos_of_ne_nil hjobs
      rw [decide_eq_true htotal, Bool.and_true] at hdrift
      -- counters that have not drifted are those of the jobs
      have hcs : Counts jobs s.run := (counts_recount s.run jobs).of_counters
        (bne_eq_false_iff_eq.mp (Bool.eq_false_iff.mpr hdrift))
      rw [recount_of_counts hcs]
      refine ⟨h.recounted hr hread hmarks hcs ?_ rfl, fun _ => rfl, rfl⟩
      by_cases hterminal : s.run.status.isTerminal = true
      · exact (hend hterminal).2
      · have hrun := ht.settled.running hterminal
        have hopen := ht.counts.terminal_lt_iff.mpr
          (Bool.eq_false_iff.mpr fun hall => hterminal (ht.settled.isTerminal.trans hall))
        rw [hcs.terminal_lt_iff] at hopen
        rw [Settled, if_neg (by rw [hopen]; exact Bool.false_ne_true)]
        exact hrun
  · rw [AggregationState.commitRound, hout] at hcommit
    cases hcommit
    exact ⟨h.recounted hr hread rfl hc hs hcontext,
      fun hterminal => congrArg Prod.snd (hsame hterminal), rfl⟩

/-- A live run of which the precheck is over is not in it. -/
theorem inPrecheck_of_null {call : AbortCall} {run : PlanRunRow}
    (h : run.runContext.get "precheck" = .null) : inPrecheck call run = some false := by
  rw [inPrecheck, h]
  exact if_pos (by simp [PyVal.truthy])

/-- **The first transaction of an abort** finds the run live and keeps what is counted. -/
theorem Inv.abortFirst {call : AbortCall} {now : Time} (h : Inv s)
    (hstep : s.Step limit (.abortFirst call now) s') :
    Inv s' ∧ s.run.status.isTerminal = false ∧ s'.jobs = s.jobs := by
  obtain ⟨counted, ht⟩ := h.tracks
  obtain ⟨hfree, hstep⟩ := Option.ite_none_right_eq_some.mp hstep
  -- whatever run is written, it has to be right about what was counted
  have hwrite : ∀ run, Counts counted run → Settled counted run →
      run.runContext.get "precheck" = .null → Inv { s with run := run } := by
    intro run hc hs hprecheck
    refine ⟨h.ids, hprecheck, h.marks, h.ended, counted, ht.nonempty, ht.upto, hc, hs, ?_⟩
    change ∀ r ∈ s.holder, _
    rw [Option.isNone_iff_eq_none.mp hfree]
    exact fun _ hnone => by cases hnone
  by_cases hterminal : s.run.status.isTerminal = true
  · rw [StabilityPlatform.abortFirst, if_pos hterminal] at hstep
    cases hstep
  have hrun := ht.settled.running hterminal
  rw [StabilityPlatform.abortFirst, if_neg hterminal, if_neg (by simp [hrun]),
    inPrecheck_of_null h.precheck] at hstep
  dsimp only at hstep
  by_cases hnoop : (call.hostId.isSome && (activeRows call s.jobs).isEmpty) = true
  · rw [if_pos hnoop] at hstep
    cases hstep
  rw [if_neg hnoop] at hstep
  cases hrecord : recordAbortRequest call now s.run.runContext
      (idsWith .running (activeRows call s.jobs)) with
  | error e =>
      rw [hrecord] at hstep
      cases hstep
  | ok runContext =>
      rw [hrecord] at hstep
      dsimp only at hstep
      have hprecheck : runContext.get "precheck" = .null :=
        (precheck_recordAbortRequest hrecord).trans h.precheck
      have hc : Counts counted { s.run with runContext := runContext } := ht.counts.of_counters rfl
      have hs := ht.settled.context (.inl hrun) runContext
      by_cases hpending : (idsWith .pending (activeRows call s.jobs)).isEmpty = true
      · rw [if_pos hpending] at hstep
        cases hsettle : settleAbort call now s.jobs { s.run with runContext := runContext } with
        | none =>
            rw [hsettle] at hstep
            cases hstep
        | some run =>
            rw [hsettle] at hstep
            cases hstep
            obtain ⟨hc', hs', hcontext⟩ := settleAbort_spec hc ht.nonempty hs hsettle
            exact ⟨hwrite run hc' hs' (by rw [hcontext]; exact hprecheck),
              Bool.eq_false_iff.mpr hterminal, rfl⟩
      · rw [if_neg hpending] at hstep
        cases hstep
        exact ⟨hwrite _ hc hs hprecheck, Bool.eq_false_iff.mpr hterminal, rfl⟩

/-- **The second transaction of an abort** counts the jobs it ends. -/
theorem Inv.abortSecond {call : AbortCall} {now : Time} {pendingIds requested : List ℕ}
    (h : Inv s) (hstep : s.Step limit (.abortSecond call now pendingIds requested) s') :
    Inv s' ∧ (s.run.status.isTerminal = true → s' = s) := by
  obtain ⟨counted, ht⟩ := h.tracks
  obtain ⟨hfree, hstep⟩ := Option.ite_none_right_eq_some.mp hstep
  obtain ⟨⟨run, jobs⟩, hsecond, rfl⟩ := Option.map_eq_some_iff.mp hstep
  rw [StabilityPlatform.abortSecond] at hsecond
  by_cases hterminal : s.run.status.isTerminal = true
  · rw [if_pos hterminal] at hsecond
    cases hsecond
    exact ⟨h, fun _ => rfl⟩
  have hrun := ht.settled.running hterminal
  rw [if_neg hterminal] at hsecond
  cases hbulk : bulkAbortPendingJobs now pendingIds s.jobs s.run with
  | none =>
      rw [hbulk] at hsecond
      cases hsecond
  | some out =>
      obtain ⟨abortedIds, bulked⟩ := out
      rw [hbulk] at hsecond
      dsimp only at hsecond
      obtain ⟨hc, hs, hcontext, hwhy⟩ :=
        bulkAbort_spec ht.upto h.ids ht.counts ht.nonempty ht.settled hrun hbulk
      split at hsecond
      · cases hsecond
      · rename_i runContext hrefresh
        obtain ⟨settled, hsettle, hpair⟩ := Option.map_eq_some_iff.mp hsecond
        cases hpair
        have hjobs' : markAborted abortedIds counted ≠ [] :=
          fun hnil => ht.nonempty (List.map_eq_nil_iff.mp hnil)
        have hcounts : Counts (markAborted abortedIds counted)
            { bulked with runContext := runContext } := hc.of_counters rfl
        obtain ⟨hc', hs', hcontext'⟩ :=
          settleAbort_spec hcounts hjobs' (hs.context hwhy runContext) hsettle
        refine ⟨⟨?_, ?_, h.marks, ?_, markAborted abortedIds counted, hjobs',
          ht.upto.markAborted abortedIds, hc', hs', ?_⟩, fun hend => absurd hend hterminal⟩
        · have hids : (markAborted abortedIds s.jobs).map AbortJob.id = s.jobs.map AbortJob.id := by
            rw [markAborted, List.map_map]
            refine List.map_congr_left fun job _ => ?_
            dsimp only [Function.comp]
            split <;> rfl
          change ((markAborted abortedIds s.jobs).map AbortJob.id).Nodup
          rw [hids]
          exact h.ids
        · change run.runContext.get "precheck" = .null
          rw [hcontext']
          refine (precheck_refreshRequested hrefresh).trans ?_
          rw [hcontext]
          exact h.precheck
        · intro job hjob hmem
          obtain ⟨old, hold, rfl⟩ := List.mem_map.mp hjob
          by_cases haborted : abortedIds.contains old.id = true
          · rw [if_pos haborted]
            rfl
          · rw [if_neg haborted] at hmem ⊢
            exact h.ended old hold hmem
        · change ∀ r ∈ s.holder, _
          rw [Option.isNone_iff_eq_none.mp hfree]
          exact fun _ hnone => by cases hnone

/-- **Every step** keeps what is counted in line with the jobs. -/
theorem Inv.step {op : AggregationOp} (h : Inv s) (hstep : s.Step limit op s') : Inv s' := by
  cases op with
  | setStatus jobId status createdAt => exact h.setStatus hstep
  | onJobTerminal jobId createdAt =>
      cases hstep
      exact h.onJobTerminal jobId createdAt
  | lockRound =>
      obtain ⟨-, heq⟩ := Option.ite_none_right_eq_some.mp hstep
      cases heq
      refine h.hold fun counted ht r hr => ?_
      cases hr
      exact ⟨batch_subset limit s, fun _ hnone => by cases hnone⟩
  | lockSweep =>
      obtain ⟨-, heq⟩ := Option.ite_none_right_eq_some.mp hstep
      cases heq
      refine h.hold fun counted ht r hr => ?_
      cases hr
      exact ⟨List.nil_subset _, fun _ hnone => by cases hnone⟩
  | readJobs =>
      obtain ⟨r, hr, hstep⟩ := Option.bind_eq_some_iff.mp hstep
      obtain ⟨-, heq⟩ := Option.ite_none_right_eq_some.mp hstep
      cases heq
      refine h.hold fun counted ht r' hr' => ?_
      cases hr'
      refine ⟨(ht.reads r hr).marks, fun jobs hjobs => ?_⟩
      cases hjobs
      exact ⟨⟨_, ht.upto⟩, .refl _ _⟩
  | commit now => exact (h.commit hstep).1
  | rollback =>
      cases hstep
      exact h.hold fun _ _ _ hnone => by cases hnone
  | abortFirst call now => exact (h.abortFirst hstep).1
  | abortSecond call now pendingIds requested => exact (h.abortSecond hstep).1

/-- A step leaves a run alone that has ended, and its jobs. -/
theorem Inv.ended_step {op : AggregationOp} (h : Inv s) (hend : s.run.status.isTerminal = true)
    (hstep : s.Step limit op s') : s'.run = s.run ∧ s'.jobs = s.jobs := by
  cases op with
  | setStatus jobId status createdAt =>
      obtain ⟨hany, -⟩ := Option.ite_none_right_eq_some.mp hstep
      obtain ⟨job, hjob, hlive⟩ := List.any_eq_true.mp hany
      obtain ⟨counted, ht⟩ := h.tracks
      rw [ht.settled.isTerminal] at hend
      rw [(ht.upto.of_all hend).all_eq] at hend
      simp [List.all_eq_true.mp hend job hjob] at hlive
  | onJobTerminal jobId createdAt =>
      cases hstep
      obtain ⟨hjobs, hrun, -⟩ := onJobTerminal_rest s jobId createdAt
      exact ⟨hrun, hjobs⟩
  | commit now =>
      obtain ⟨-, hrun, hjobs⟩ := h.commit hstep
      exact ⟨hrun hend, hjobs⟩
  | abortFirst call now =>
      obtain ⟨-, hlive, -⟩ := h.abortFirst hstep
      rw [hend] at hlive
      cases hlive
  | abortSecond call now pendingIds requested =>
      rw [(h.abortSecond hstep).2 hend]
      exact ⟨rfl, rfl⟩
  | lockRound | lockSweep =>
      obtain ⟨-, heq⟩ := Option.ite_none_right_eq_some.mp hstep
      cases heq
      exact ⟨rfl, rfl⟩
  | readJobs =>
      obtain ⟨r, hr, hstep⟩ := Option.bind_eq_some_iff.mp hstep
      obtain ⟨-, heq⟩ := Option.ite_none_right_eq_some.mp hstep
      cases heq
      exact ⟨rfl, rfl⟩
  | rollback =>
      cases hstep
      exact ⟨rfl, rfl⟩

/-- Without marks, the run is right about its jobs. -/
theorem Inv.exact (h : Inv s) (hmarks : s.marks = []) :
    Counts s.jobs s.run ∧ Settled s.jobs s.run := by
  obtain ⟨counted, ht⟩ := h.tracks
  have hupto := ht.upto
  rw [AggregationState.marked, hmarks] at hupto
  exact ⟨(Counts.upto_iff hupto).mp ht.counts, ht.settled.of_upto hupto⟩

/-! ### Two jobs -/

/-- A run with two pending jobs. -/
def twoJobs : AggregationState where
  jobs := [⟨1, some "h", .pending⟩, ⟨2, some "h", .pending⟩]
  marks := []
  run :=
    { id := 7, runType := "MANUAL", status := .running, runContext := [], resultSummary := [],
      queueReason := none, enqueuedAt := none, nextAdmissionAt := none,
      admissionAttemptId := none, admissionToken := none, precheckStartedAt := none,
      startedAt := some 0, endedAt := none, totalJobCount := 2, terminalJobCount := 0,
      completedJobCount := 0, failedJobCount := 0, abortedJobCount := 0,
      terminalEffectsState := none }
  holder := none

/-- It was just admitted. -/
theorem twoJobs_admitted : Admitted twoJobs where
  ids := by decide
  pending := ⟨⟨1, some "h", .pending⟩, by decide, rfl⟩
  counts := ⟨rfl, rfl, rfl, rfl, rfl⟩
  status := rfl
  precheck := rfl
  marks := rfl
  holder := rfl

/-- A run of given steps. -/
theorem exists_run (ops : List AggregationOp) (check : AggregationState → Bool)
    (h : (ops.foldlM (AggregationState.step 500) twoJobs).any check) :
    ∃ tr t, Run (AggregationState.Step 500) twoJobs tr t ∧ check t := by
  obtain ⟨t, ht, hcheck⟩ := (Option.any_eq_true _ _).mp h
  exact ⟨_, t, Run.of_foldlM ht, hcheck⟩

/-! ### Runs -/

variable {t : AggregationState} {tr : List (AggregationState × AggregationOp)}

/-- **No end of a job is lost.** However jobs end, reports repeat, rounds, sweeps and aborts
interleave or roll back: whenever no mark is left, the counters of the run are those of its jobs,
and the run has ended exactly when all of them have, as they tell. -/
theorem exact_of_no_marks (h : Run (AggregationState.Step limit) s tr t) (hs : Admitted s) :
    Holds (fun x => x.marks = [] → Counts x.jobs x.run ∧ Settled x.jobs x.run) tr t :=
  (h.invariant (fun hinv hstep => hinv.step hstep) hs.inv).mono fun _ hinv => hinv.exact

/-- The second job ends while a round is under way, which misses it; the next round does not. -/
theorem exact_of_no_marks_two : ∃ tr t, Run (AggregationState.Step 500) twoJobs tr t ∧
    t.run.status = .partialSuccess ∧ Counts t.jobs t.run := by
  obtain ⟨tr, t, hrun, hend⟩ := exists_run
    [.setStatus 1 .completed 10, .lockRound, .readJobs, .setStatus 2 .failed 11, .commit 12,
      .lockRound, .readJobs, .commit 13]
    (fun t => t.run.status = .partialSuccess ∧ t.marks.length = 0) (by decide +kernel)
  obtain ⟨hstatus, hmarks⟩ := of_decide_eq_true hend
  exact ⟨tr, t, hrun, hstatus,
    ((exact_of_no_marks hrun twoJobs_admitted).2 (List.length_eq_zero_iff.mp hmarks)).1⟩

/-- **A run ends once.** In any run, a plan run that has ended has only jobs that have, its
counters and its status are what they tell, marked or not, and nothing touches the row or the jobs
again. -/
theorem ended_stays (h : Run (AggregationState.Step limit) s tr t) (hs : Admitted s) :
    Holds (fun x => x.run.status.isTerminal = true →
      x.jobs.all (·.status.isTerminal) = true ∧ Counts x.jobs x.run ∧ Settled x.jobs x.run) tr t ∧
    ∀ p ∈ tr, p.1.run.status.isTerminal = true → t.run = p.1.run ∧ t.jobs = p.1.jobs := by
  have hinv := h.invariant (fun hinv hstep => hinv.step hstep) hs.inv
  refine ⟨hinv.mono fun x hx hend => ?_, fun p hp hend => ?_⟩
  · obtain ⟨counted, ht⟩ := hx.tracks
    rw [ht.settled.isTerminal] at hend
    have hsame := ht.upto.of_all hend
    exact ⟨hsame.all_eq.symm.trans hend, (Counts.upto_iff hsame).mp ht.counts,
      ht.settled.of_upto hsame⟩
  · obtain ⟨x, post, hstep, hpost⟩ := h.after hp
    have hrun := (Run.cons hstep hpost).invariant
      (P := fun y => Inv y ∧ y.run = p.1.run ∧ y.jobs = p.1.jobs) (fun {y op y'} hy hnext => by
        obtain ⟨hinv, hrun, hjobs⟩ := hy
        obtain ⟨hrun', hjobs'⟩ := hinv.ended_step (by rw [hrun]; exact hend) hnext
        exact ⟨hinv.step hnext, hrun'.trans hrun, hjobs'.trans hjobs⟩) ⟨hinv.1 p hp, rfl, rfl⟩
    exact hrun.2.2

/-- Both jobs end before the round reads them, the mark of the second after it has read marks. -/
theorem ended_stays_two : ∃ tr t, Run (AggregationState.Step 500) twoJobs tr t ∧
    t.run.status = .success ∧ t.marks.length = 1 ∧ Counts t.jobs t.run := by
  obtain ⟨tr, t, hrun, hend⟩ := exists_run
    [.setStatus 1 .completed 10, .lockRound, .setStatus 2 .completed 11, .readJobs, .commit 12]
    (fun t => t.run.status = .success ∧ t.marks.length = 1) (by decide +kernel)
  obtain ⟨hstatus, hmarks⟩ := of_decide_eq_true hend
  exact ⟨tr, t, hrun, hstatus, hmarks,
    ((ended_stays hrun twoJobs_admitted).1.2 (by rw [hstatus]; rfl)).2.1⟩

/-- **Only a job that has just ended** makes a sweep act. In any run, a sweep that commits while no
mark is left leaves the row of the run as it is. -/
theorem sweep_leaves (h : Run (AggregationState.Step limit) s tr t) (hs : Admitted s)
    {r : Recount} (hr : t.holder = some r) (hsweep : r.markIds = []) (hmarks : t.marks = [])
    {now : Time} (hcommit : t.Step limit (.commit now) s') : s'.run = t.run := by
  obtain ⟨counted, ht⟩ := (h.invariant (fun hinv hstep => hinv.step hstep) hs.inv).2.tracks
  obtain ⟨r', hr', hcommit⟩ := Option.bind_eq_some_iff.mp hcommit
  obtain rfl := Option.some.inj (hr.symm.trans hr')
  obtain ⟨jobs, hread, hcommit⟩ := Option.bind_eq_some_iff.mp hcommit
  have hmarked : t.marked = [] := by rw [AggregationState.marked, hmarks]; rfl
  have hnow := ht.upto
  have hthen := ((ht.reads r hr).table jobs hread).2
  rw [hmarked] at hnow hthen
  have hcounts := (Counts.upto_iff hthen).mpr ((Counts.upto_iff hnow).mp ht.counts)
  rw [hsweep, List.isEmpty_nil, if_pos rfl, AggregationState.commitSweep,
    recount_of_counts hcounts] at hcommit
  cases hcommit
  rfl

/-- A sweep that nothing interrupts. -/
theorem sweep_leaves_two : ∃ tr t t', Run (AggregationState.Step 500) twoJobs tr t ∧
    t.Step 500 (.commit 12) t' ∧ t'.run = t.run := by
  obtain ⟨tr, t, hrun, hend⟩ := exists_run [.lockSweep, .readJobs]
    (fun t => (t.step 500 (.commit 12)).isSome && t.holder.any (·.markIds.isEmpty) &&
      t.marks.isEmpty) (by decide +kernel)
  rw [Bool.and_eq_true, Bool.and_eq_true] at hend
  obtain ⟨⟨hstep, hholder⟩, hmarks⟩ := hend
  obtain ⟨t', hstep⟩ := Option.isSome_iff_exists.mp hstep
  obtain ⟨r, hr, hsweep⟩ := (Option.any_eq_true _ _).mp hholder
  exact ⟨tr, t, t', hrun, hstep, sweep_leaves hrun twoJobs_admitted hr
    (List.isEmpty_iff.mp hsweep) (List.isEmpty_iff.mp hmarks) hstep⟩

/-! ### Draining -/

/-- A round on its own takes marks away, as many as it may. -/
theorem Inv.aggregationRound (h : Inv s) (hfree : s.holder = none) (now : Time)
    (hbatch : s.batch limit ≠ []) : ∃ s', s.aggregationRound limit now = some s' ∧ Inv s' ∧
      s'.holder = none ∧ s'.jobs = s.jobs ∧
      s'.marks.length + (s.batch limit).length = s.marks.length := by
  have hisEmpty : (s.batch limit).isEmpty = false := by
    cases hb : s.batch limit with
    | nil => exact absurd hb hbatch
    | cons _ _ => rfl
  have hlock : s.step limit .lockRound = some { s with holder := some ⟨s.batch limit, none⟩ } := by
    rw [AggregationState.step, hfree, hisEmpty]
    rfl
  have hread : AggregationState.step limit { s with holder := some ⟨s.batch limit, none⟩ }
      .readJobs = some { s with holder := some ⟨s.batch limit, some s.jobs⟩ } := rfl
  have hinv := (h.step hlock).step hread
  obtain ⟨counted, ht⟩ := h.tracks
  obtain ⟨-, -, out, hout, -⟩ := ht.aggregate ht.upto now
  have hcommit : AggregationState.step limit { s with holder := some ⟨s.batch limit, some s.jobs⟩ }
      (.commit now) = some { s with
        marks := s.marks.filter fun mark => !(s.batch limit).contains mark.jobId
        run := out.2
        holder := none } := by
    change (if (s.batch limit).isEmpty then _ else _) = _
    rw [hisEmpty, if_neg Bool.false_ne_true, AggregationState.commitRound, hout]
    rfl
  refine ⟨_, ?_, hinv.step hcommit, rfl, rfl, ?_⟩
  · rw [AggregationState.aggregationRound, List.foldlM_cons, hlock]
    refine Option.bind_eq_some_iff.mpr ⟨_, rfl, ?_⟩
    rw [List.foldlM_cons, hread]
    refine Option.bind_eq_some_iff.mpr ⟨_, rfl, ?_⟩
    rw [List.foldlM_cons, hcommit]
    rfl
  · have hperm : s.oldestFirst.Perm s.marks := sortBy_perm _ _
    have htaken := countP_contains (((hperm.map PendingMark.jobId).nodup_iff).mpr h.marks)
      ((List.take_sublist limit s.oldestFirst).map PendingMark.jobId)
    rw [(hperm.map PendingMark.jobId).countP_eq, List.countP_map] at htaken
    change (s.marks.filter fun mark => !(s.batch limit).contains mark.jobId).length + _ = _
    rw [← List.countP_eq_length_filter, Nat.add_comm]
    refine Eq.trans ?_ (List.length_eq_countP_add_countP
      fun mark : PendingMark => (s.batch limit).contains mark.jobId).symm
    refine congr (congrArg _ htaken.symm) (List.countP_congr fun mark _ => ?_)
    simp

/-- Rounds on their own leave no marks if there is room for all. -/
theorem Inv.drain (h : Inv s) (hfree : s.holder = none) (now : Time) {rounds : ℕ}
    (hroom : s.marks.length ≤ limit * rounds) :
    (s.drain limit now rounds).1 = s.marks.length ∧ (s.drain limit now rounds).2.marks = [] ∧
      (s.drain limit now rounds).2.jobs = s.jobs ∧ Inv (s.drain limit now rounds).2 := by
  induction rounds generalizing s with
  | zero =>
      have hnone := List.length_eq_zero_iff.mp (Nat.le_zero.mp hroom)
      exact ⟨by rw [hnone]; rfl, hnone, rfl, h⟩
  | succ rounds ih =>
      have hlength : (s.batch limit).length = min limit s.marks.length := by
        rw [AggregationState.batch, List.length_map, List.length_take,
          AggregationState.oldestFirst, (sortBy_perm _ _).length_eq]
      rw [Nat.mul_succ] at hroom
      by_cases hbatch : s.batch limit = []
      · rw [hbatch, List.length_nil] at hlength
        have hnone : s.marks = [] := List.length_eq_zero_iff.mp (by
          rcases Nat.eq_zero_or_pos limit with rfl | hpos
          · omega
          · omega)
        have hround : s.aggregationRound limit now = none := by
          rw [AggregationState.aggregationRound, List.foldlM_cons, AggregationState.step, hbatch,
            if_neg (by simp)]
          rfl
        rw [AggregationState.drain, hround]
        exact ⟨by rw [hnone]; rfl, hnone, rfl, h⟩
      · obtain ⟨s', hround, hinv, hfree', hjobs, hmarks⟩ := h.aggregationRound hfree now hbatch
        obtain ⟨hcount, hnone, hjobs', hend⟩ := ih hinv hfree' (by omega)
        rw [AggregationState.drain, hround]
        dsimp only
        exact ⟨by rw [hcount]; omega, hnone, hjobs'.trans hjobs, hend⟩

/-- **A drain** on its own, from any state that is reached in which nobody holds the run: with
room for all marks it consumes them all, and leaves the run right about its jobs. -/
theorem drain_settles (h : Run (AggregationState.Step limit) s tr t) (hs : Admitted s)
    (hfree : t.holder = none) (now : Time) {rounds : ℕ} (hroom : t.marks.length ≤ limit * rounds) :
    (t.drain limit now rounds).1 = t.marks.length ∧ (t.drain limit now rounds).2.marks = [] ∧
      (t.drain limit now rounds).2.jobs = t.jobs ∧
      Counts t.jobs (t.drain limit now rounds).2.run ∧
      Settled t.jobs (t.drain limit now rounds).2.run := by
  have hinv := (h.invariant (fun hinv hstep => hinv.step hstep) hs.inv).2
  obtain ⟨hcount, hnone, hjobs, hend⟩ := hinv.drain hfree now hroom
  rw [← hjobs]
  exact ⟨hcount, hnone, rfl, hend.exact hnone⟩

/-- Both jobs end, the second by an abort; then the marks are drained. -/
theorem drain_settles_two : ∃ tr t, Run (AggregationState.Step 500) twoJobs tr t ∧
    t.marks.length = 1 ∧ (t.drain 500 20 50).2.marks = [] := by
  obtain ⟨tr, t, hrun, hend⟩ := exists_run
    [.setStatus 1 .completed 10, .abortFirst ⟨none, "stop", none, 60⟩ 11,
      .abortSecond ⟨none, "stop", none, 60⟩ 12 [2] []]
    (fun t => t.holder.isNone && t.marks.length == 1) (by decide +kernel)
  rw [Bool.and_eq_true, beq_iff_eq] at hend
  refine ⟨tr, t, hrun, hend.2, (drain_settles hrun twoJobs_admitted
    (Option.isNone_iff_eq_none.mp hend.1) 20 ?_).2.1⟩
  rw [hend.2]
  decide

end StabilityPlatform.AggregationRounds
