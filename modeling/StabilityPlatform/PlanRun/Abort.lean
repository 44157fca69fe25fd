import StabilityPlatform.PlanRun.AbortRequest

/-!
# Aborting a plan run

`abort_plan_run` works in one or two transactions. The first records the request; a run that
is not admitted yet, or still in its precheck, it fails at once. When there are pending jobs it
commits and the second transaction ends those that are still pending and names those an agent
has claimed meanwhile. In the end, a run without active jobs is closed.

A function that raises gives `none`. The jobs are given as they are during a transaction, which
locks the pending ones.

## Main results

* `abortFirst`, `abortSecond`: the two transactions.
* `Settles.of_settleAbort`, `Settles.of_bulkAbort`: what closing a run writes.
* `isSome_settleAbort`, `isSome_bulkAbort`: with the request recorded, closing it goes through.
-/

namespace StabilityPlatform

/-! ### The transactions -/

/-- A job of a run, as an abort sees it. -/
structure AbortJob where
  id : ℕ
  hostId : Option String
  status : JobStatus
  deriving DecidableEq

/-- The statuses of a job an abort deals with. -/
def JobStatus.abortable : JobStatus → Bool
  | .pending | .running => true
  | _ => false

/-- The active jobs a call is about. -/
def activeRows (call : AbortCall) (jobs : List AbortJob) : List AbortJob :=
  jobs.filter fun job => job.status.abortable && (call.hostId.isNone || job.hostId == call.hostId)

/-- The ids of the jobs with a status. -/
def idsWith (status : JobStatus) (jobs : List AbortJob) : List ℕ :=
  (jobs.filter fun job => job.status = status).map AbortJob.id

/-- What a transaction of an abort comes to: nothing to do, committed and done, or committed
with pending jobs to end and the running jobs it has asked. -/
inductive AbortOutcome where
  | noop
  | ended (run : PlanRunRow)
  | pending (run : PlanRunRow) (pendingIds requested : List ℕ)

/-- A run that is not admitted yet fails at once. -/
def abortUnadmitted (call : AbortCall) (now : Time) (run : PlanRunRow) : Option PlanRunRow :=
  (run.transition .failed).map fun failed => { failed with
    endedAt := some now
    resultSummary := [("aborted", .bool true), ("reason", .str call.reason),
      ("phase", .str (if run.status = .queued then "queued" else "precheck")), ("total", .int 0)]
    runContext := run.runContext.set "abort_requested" (.dict [("at", .str (isoformat now)),
      ("reason", .str call.reason), ("triggered_by", .ofStr? call.triggeredBy),
      ("requested_job_ids", .list []), ("acknowledged_job_ids", .list [])]) }

/-- Whether the run is in the gate before its jobs are there; only a run-level call asks. -/
def inPrecheck (call : AbortCall) (run : PlanRunRow) : Option Bool :=
  let precheck := run.runContext.get "precheck"
  if call.hostId.isSome || !precheck.truthy then some false
  else precheck.asDict?.map fun items =>
    (PyDict.get items "phase").isOneOf ["verifying", "syncing", "reverifying"]

/-- The errors of a precheck so far. -/
def precheckErrors (precheck : PyDict) : Option (List PyVal) :=
  if precheck.contains "errors" then (precheck.get "errors").asList? else some []

/-- A run in its precheck fails at once. -/
def closePrecheck (call : AbortCall) (now : Time) (run : PlanRunRow) : Option PlanRunRow := do
  let precheck ← (run.runContext.get "precheck").asDict?
  let errors ← precheckErrors precheck
  let failed ← run.transition .failed
  some { failed with
    endedAt := some now
    resultSummary := [("precheck_failed", .bool true), ("reason", .str call.reason),
      ("aborted", .bool true)]
    runContext := run.runContext.set "precheck" (.dict (PyDict.update precheck
      [("phase", .str "failed"), ("final_result", .str "aborted"),
        ("completed_at", .str (isoformat now)),
        ("errors", .list (errors ++ [.str ("aborted: " ++ call.reason)]))])) }

/-- A run that aggregation ended is done with its effects. -/
def effectsDone : Bool × PlanRunRow → PlanRunRow
  | (true, run) => { run with terminalEffectsState := some "done" }
  | (false, run) => run

/-- The end of a call: a run without active jobs is closed. -/
def settleAbort (call : AbortCall) (now : Time) (jobs : List AbortJob) (run : PlanRunRow) :
    Option PlanRunRow :=
  if (jobs.any fun job => job.status.abortable) || run.status.isTerminal then some run
  else if 0 < run.totalJobCount then
    (applyPlanRunAggregationFromCounters now run).map effectsDone
  else if !jobs.isEmpty then
    (applyPlanRunAggregation now (jobs.map AbortJob.status) run).map effectsDone
  else if call.hostId.isNone then
    (run.transition .failed).map fun run => { run with
      endedAt := some now
      resultSummary := [("aborted", .bool true), ("reason", .str call.reason),
        ("empty_run", .bool true)] }
  else some run

/-- The first transaction of an abort. -/
def abortFirst (call : AbortCall) (now : Time) (jobs : List AbortJob) (run : PlanRunRow) :
    Option AbortOutcome :=
  if run.status.isTerminal then none
  else if call.hostId.isNone ∧ (run.status = .queued ∨ run.status = .precheck) ∧
      jobs.isEmpty then (abortUnadmitted call now run).map .ended
  else
    match inPrecheck call run with
    | none => none
    | some true => (closePrecheck call now run).map .ended
    | some false =>
      let active := activeRows call jobs
      if call.hostId.isSome && active.isEmpty then some .noop
      else
        match recordAbortRequest call now run.runContext (idsWith .running active) with
        | .error _ => none
        | .ok runContext =>
          if (idsWith .pending active).isEmpty then
            (settleAbort call now jobs { run with runContext := runContext }).map .ended
          else some (.pending { run with runContext := runContext } (idsWith .pending active)
            (idsWith .running active))

/-- `_bulk_abort_pending_jobs`: the jobs that are still pending are aborted and counted. -/
def bulkAbortPendingJobs (now : Time) (pendingIds : List ℕ) (jobs : List AbortJob)
    (run : PlanRunRow) : Option (List ℕ × PlanRunRow) :=
  let abortedIds := idsWith .pending (jobs.filter fun job => pendingIds.contains job.id)
  if abortedIds.isEmpty then some ([], run)
  else
    let counted := { run with
      abortedJobCount := run.abortedJobCount + abortedIds.length
      terminalJobCount := run.terminalJobCount + abortedIds.length }
    if 0 < counted.totalJobCount then
      (applyPlanRunAggregationFromCounters now counted).map fun ended =>
        (abortedIds, effectsDone ended)
    else some (abortedIds, counted)

/-- The jobs as the bulk update leaves them. -/
def markAborted (abortedIds : List ℕ) (jobs : List AbortJob) : List AbortJob :=
  jobs.map fun job => if abortedIds.contains job.id then { job with status := .aborted } else job

/-- The second transaction of an abort: the row and the jobs. -/
def abortSecond (call : AbortCall) (now : Time) (pendingIds requested : List ℕ)
    (jobs : List AbortJob) (run : PlanRunRow) : Option (PlanRunRow × List AbortJob) :=
  if run.status.isTerminal then some (run, jobs)
  else
    match bulkAbortPendingJobs now pendingIds jobs run with
    | none => none
    | some (abortedIds, counted) =>
      let raced := idsWith .running (jobs.filter fun job => pendingIds.contains job.id)
      match refreshRequested counted.runContext (requested ++ raced) with
      | .error _ => none
      | .ok runContext =>
        (settleAbort call now (markAborted abortedIds jobs)
          { counted with runContext := runContext }).map (·, markAborted abortedIds jobs)

/-! ### What closing a run writes -/

/-- Marking the effects of an end. -/
theorem settles_effectsDone {run : PlanRunRow} {out : Bool × PlanRunRow} (h : Settles run out.2) :
    Settles run (effectsDone out) := by
  obtain ⟨applied, run'⟩ := out
  cases applied with
  | true => exact ⟨h.runContext, h.enqueuedAt, h.admissionAttemptId, h.status⟩
  | false => exact h

/-- **The end of a call** settles the run. -/
theorem Settles.of_settleAbort {call : AbortCall} {now : Time} {jobs : List AbortJob}
    {run run' : PlanRunRow} (h : settleAbort call now jobs run = some run') :
    Settles run run' := by
  rw [settleAbort] at h
  split at h
  · cases h
    exact .refl run
  · split at h
    · obtain ⟨out, hout, rfl⟩ := Option.map_eq_some_iff.mp h
      exact settles_effectsDone (.of_counters hout)
    · split at h
      · obtain ⟨out, hout, rfl⟩ := Option.map_eq_some_iff.mp h
        exact settles_effectsDone (.of_jobs hout)
      · split at h
        · obtain ⟨moved, hmove, rfl⟩ := Option.map_eq_some_iff.mp h
          obtain ⟨hlegal, rfl⟩ := PlanRunRow.transition_eq_some hmove
          exact ⟨rfl, rfl, rfl, .inr ⟨hlegal, rfl⟩⟩
        · cases h
          exact .refl run

/-- With the request recorded, the end of a call goes through. -/
theorem isSome_settleAbort (call : AbortCall) (now : Time) (jobs : List AbortJob)
    {run : PlanRunRow} (habort : run.abortRequested = true) :
    (settleAbort call now jobs run).isSome = true := by
  rw [settleAbort]
  split
  · rfl
  · rename_i hlive
    split
    · rw [Option.isSome_map]
      exact isSome_applyPlanRunAggregationFromCounters now habort
    · split
      · rw [Option.isSome_map]
        exact isSome_applyPlanRunAggregation now _ habort
      · split
        · have hlive : run.status.isTerminal = false := by
            rw [Bool.or_eq_true, not_or] at hlive
            exact Bool.not_eq_true _ ▸ hlive.2
          rw [transition_failed hlive]
          rfl
        · rfl

/-- **The bulk update** settles the run. -/
theorem Settles.of_bulkAbort {now : Time} {pendingIds abortedIds : List ℕ} {jobs : List AbortJob}
    {run run' : PlanRunRow}
    (h : bulkAbortPendingJobs now pendingIds jobs run = some (abortedIds, run')) :
    Settles run run' := by
  rw [bulkAbortPendingJobs] at h
  dsimp only at h
  split at h
  · cases h
    exact .refl run
  · split at h
    · obtain ⟨out, hout, hpair⟩ := Option.map_eq_some_iff.mp h
      cases hpair
      refine settles_effectsDone ?_
      have hcounted := Settles.of_counters hout
      exact ⟨hcounted.runContext, hcounted.enqueuedAt, hcounted.admissionAttemptId,
        hcounted.status⟩
    · cases h
      exact ⟨rfl, rfl, rfl, .inl rfl⟩

/-- With the request recorded, the bulk update goes through. -/
theorem isSome_bulkAbort (now : Time) (pendingIds : List ℕ) (jobs : List AbortJob)
    {run : PlanRunRow} (habort : run.abortRequested = true) :
    (bulkAbortPendingJobs now pendingIds jobs run).isSome = true := by
  rw [bulkAbortPendingJobs]
  dsimp only
  split
  · rfl
  · split
    · rw [Option.isSome_map]
      exact isSome_applyPlanRunAggregationFromCounters now habort
    · rfl

end StabilityPlatform
