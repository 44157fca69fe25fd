import StabilityPlatform.Core.Models

/-!
# Plan runs and their aggregation

The row of a plan run with the columns admission, abort and aggregation use, its state
machine, and the rule that ends it when all its jobs have ended. A function that raises gives
`none`; the columns that may be null and are read with `or` start out empty.

## Main results

* `Settles`: a run that is ended, or left as it was.
* `Settles.of_counters`, `Settles.of_jobs`: **aggregation** settles a run.
* `isSome_applyPlanRunAggregation`: with an abort requested, aggregation goes through.
-/

namespace StabilityPlatform

/-! ### Rows -/

/-- The row of a plan run. -/
structure PlanRunRow where
  id : ℕ
  /-- What started it: `MANUAL`, `SCHEDULE` or `CHAIN`. -/
  runType : String
  status : PlanRunStatus
  runContext : PyDict
  resultSummary : PyDict
  queueReason : Option String
  enqueuedAt : Option Time
  nextAdmissionAt : Option Time
  admissionAttemptId : Option String
  admissionToken : Option String
  precheckStartedAt : Option Time
  startedAt : Option Time
  endedAt : Option Time
  totalJobCount : ℕ
  terminalJobCount : ℕ
  completedJobCount : ℕ
  failedJobCount : ℕ
  abortedJobCount : ℕ
  terminalEffectsState : Option String

/-! ### The state machine -/

/-- Where a plan run may go. -/
def PlanRunStatus.validTransitions : PlanRunStatus → List PlanRunStatus
  | .queued => [.precheck, .failed]
  | .precheck => [.queued, .running, .failed]
  | .running => [.success, .partialSuccess, .failed]
  | .failed => [.queued]
  | .success | .partialSuccess => []

/-- The statuses a plan run ends in. -/
def PlanRunStatus.isTerminal : PlanRunStatus → Bool
  | .success | .partialSuccess | .failed => true
  | .queued | .precheck | .running => false

/-- `PlanRunStateMachine.transition`. -/
def PlanRunRow.transition (run : PlanRunRow) (newStatus : PlanRunStatus) : Option PlanRunRow :=
  if newStatus ∈ run.status.validTransitions then some { run with status := newStatus } else none

/-- A transition that is taken is legal, and writes the status. -/
theorem PlanRunRow.transition_eq_some {run run' : PlanRunRow} {newStatus : PlanRunStatus}
    (h : run.transition newStatus = some run') :
    newStatus ∈ run.status.validTransitions ∧ run' = { run with status := newStatus } := by
  rw [PlanRunRow.transition] at h
  split at h
  · rename_i hlegal
    exact ⟨hlegal, (Option.some.inj h).symm⟩
  · cases h

/-! ### Aggregation -/

/-- How a run ends whose jobs have all ended. -/
def resolvePlanRunStatus (failedOnly aborted : ℕ) (abortRequested : Bool) : PlanRunStatus :=
  if 0 < aborted ∨ abortRequested = true then .failed
  else if 0 < failedOnly then .partialSuccess
  else .success

/-- Whether an abort of the run was requested. -/
def PlanRunRow.abortRequested (run : PlanRunRow) : Bool := run.runContext.contains "abort_requested"

/-- `_finalize_plan_run`. -/
def finalizePlanRun (now : Time) (newStatus : PlanRunStatus) (total completed failedOnly
    aborted : ℕ) (abortRequested : Bool) (run : PlanRunRow) : Option PlanRunRow :=
  (run.transition newStatus).map fun run => { run with
    endedAt := some now
    resultSummary := [("total", .int total), ("completed", .int completed),
      ("failed", .int (failedOnly + aborted : ℕ)), ("failed_only", .int failedOnly),
      ("aborted", .int aborted), ("unknown", .int 0), ("abort_requested", .bool abortRequested)]
    terminalEffectsState := some "pending" }

/-- `apply_plan_run_aggregation_from_counters`: whether it ended the run, and the row. -/
def applyPlanRunAggregationFromCounters (now : Time) (run : PlanRunRow) :
    Option (Bool × PlanRunRow) :=
  if run.status.isTerminal then some (false, run)
  else if run.totalJobCount = 0 ∨ run.terminalJobCount < run.totalJobCount then some (false, run)
  else (finalizePlanRun now (resolvePlanRunStatus run.failedJobCount run.abortedJobCount
    run.abortRequested) run.totalJobCount run.completedJobCount run.failedJobCount
    run.abortedJobCount run.abortRequested run).map (true, ·)

/-- How many jobs have a status. -/
def countStatus (jobs : List JobStatus) (status : JobStatus) : ℕ := jobs.count status

/-- `apply_plan_run_aggregation`: the same over the statuses of all jobs. -/
def applyPlanRunAggregation (now : Time) (jobs : List JobStatus) (run : PlanRunRow) :
    Option (Bool × PlanRunRow) :=
  if run.status.isTerminal then some (false, run)
  else if !jobs.all JobStatus.isTerminal then some (false, run)
  else if jobs.isEmpty then
    (run.transition .failed).map fun run => (true, { run with endedAt := some now })
  else (finalizePlanRun now (resolvePlanRunStatus (countStatus jobs .failed)
    (countStatus jobs .aborted) run.abortRequested) jobs.length (countStatus jobs .completed)
    (countStatus jobs .failed) (countStatus jobs .aborted) run.abortRequested run).map (true, ·)

/-! ### What the end of a run writes -/

/-- A run that is left as it was or ended: its context and its ownership stay. -/
structure Settles (run run' : PlanRunRow) : Prop where
  runContext : run'.runContext = run.runContext
  enqueuedAt : run'.enqueuedAt = run.enqueuedAt
  admissionAttemptId : run'.admissionAttemptId = run.admissionAttemptId
  status : run'.status = run.status ∨
    run'.status ∈ run.status.validTransitions ∧ run'.status.isTerminal = true

/-- A run left as it was. -/
theorem Settles.refl (run : PlanRunRow) : Settles run run := ⟨rfl, rfl, rfl, .inl rfl⟩

/-- Aggregation ends a run in a terminal status. -/
theorem isTerminal_resolvePlanRunStatus (failedOnly aborted : ℕ) (abortRequested : Bool) :
    (resolvePlanRunStatus failedOnly aborted abortRequested).isTerminal = true := by
  rw [resolvePlanRunStatus]
  split
  · rfl
  · split
    · rfl
    · rfl

/-- **Ending a run** settles it. -/
theorem Settles.of_finalize {now : Time} {failedOnly aborted total completed : ℕ}
    {abortRequested : Bool} {run run' : PlanRunRow}
    (h : finalizePlanRun now (resolvePlanRunStatus failedOnly aborted abortRequested) total
      completed failedOnly aborted abortRequested run = some run') : Settles run run' := by
  obtain ⟨moved, hmove, rfl⟩ := Option.map_eq_some_iff.mp h
  obtain ⟨hlegal, rfl⟩ := PlanRunRow.transition_eq_some hmove
  exact ⟨rfl, rfl, rfl, .inr ⟨hlegal, isTerminal_resolvePlanRunStatus _ _ _⟩⟩

/-- **Aggregation from the counters** settles a run. -/
theorem Settles.of_counters {now : Time} {run run' : PlanRunRow} {applied : Bool}
    (h : applyPlanRunAggregationFromCounters now run = some (applied, run')) :
    Settles run run' := by
  rw [applyPlanRunAggregationFromCounters] at h
  split at h
  · cases h
    exact .refl run
  · split at h
    · cases h
      exact .refl run
    · obtain ⟨ended, hended, hpair⟩ := Option.map_eq_some_iff.mp h
      cases hpair
      exact .of_finalize hended

/-- **Aggregation over all jobs** settles a run. -/
theorem Settles.of_jobs {now : Time} {jobs : List JobStatus} {run run' : PlanRunRow}
    {applied : Bool} (h : applyPlanRunAggregation now jobs run = some (applied, run')) :
    Settles run run' := by
  rw [applyPlanRunAggregation] at h
  split at h
  · cases h
    exact .refl run
  · split at h
    · cases h
      exact .refl run
    · split at h
      · obtain ⟨ended, hended, hpair⟩ := Option.map_eq_some_iff.mp h
        cases hpair
        obtain ⟨hlegal, rfl⟩ := PlanRunRow.transition_eq_some hended
        exact ⟨rfl, rfl, rfl, .inr ⟨hlegal, rfl⟩⟩
      · obtain ⟨ended, hended, hpair⟩ := Option.map_eq_some_iff.mp h
        cases hpair
        exact .of_finalize hended

/-! ### With an abort requested -/

/-- A run that has not ended fails. -/
theorem transition_failed {run : PlanRunRow} (h : run.status.isTerminal = false) :
    run.transition .failed = some { run with status := .failed } := by
  have hlegal : .failed ∈ run.status.validTransitions := by
    cases hs : run.status with
    | queued => decide
    | precheck => decide
    | running => decide
    | success => rw [hs] at h; cases h
    | partialSuccess => rw [hs] at h; cases h
    | failed => rw [hs] at h; cases h
  rw [PlanRunRow.transition, if_pos hlegal]

/-- With an abort requested, ending a run goes through. -/
theorem isSome_finalizePlanRun {now : Time} {failedOnly aborted total completed : ℕ}
    {run : PlanRunRow} (hlive : run.status.isTerminal = false)
    (habort : run.abortRequested = true) :
    (finalizePlanRun now (resolvePlanRunStatus failedOnly aborted run.abortRequested) total
      completed failedOnly aborted run.abortRequested run).isSome = true := by
  rw [finalizePlanRun, habort, resolvePlanRunStatus, if_pos (.inr rfl), transition_failed hlive]
  rfl

/-- With an abort requested, aggregation from the counters goes through. -/
theorem isSome_applyPlanRunAggregationFromCounters (now : Time) {run : PlanRunRow}
    (habort : run.abortRequested = true) :
    (applyPlanRunAggregationFromCounters now run).isSome = true := by
  rw [applyPlanRunAggregationFromCounters]
  split
  · rfl
  · rename_i hlive
    split
    · rfl
    · rw [Option.isSome_map]
      exact isSome_finalizePlanRun (Bool.not_eq_true _ ▸ hlive) habort

/-- With an abort requested, aggregation over all jobs goes through. -/
theorem isSome_applyPlanRunAggregation (now : Time) (jobs : List JobStatus) {run : PlanRunRow}
    (habort : run.abortRequested = true) :
    (applyPlanRunAggregation now jobs run).isSome = true := by
  rw [applyPlanRunAggregation]
  split
  · rfl
  · rename_i hlive
    have hlive : run.status.isTerminal = false := Bool.not_eq_true _ ▸ hlive
    split
    · rfl
    · split
      · rw [transition_failed hlive]
        rfl
      · rw [Option.isSome_map]
        exact isSome_finalizePlanRun hlive habort

end StabilityPlatform
