import StabilityPlatform.DeviceReturn.JobEvidence
import StabilityPlatform.Scheduler.PatrolStall

/-!
# Signs of life of a running job

What the recycler and the projection of a device read of a running job: how long its executor may be
silent, the abort grace of a job that disarms its device without a guard, and the deadline of its
guard.

## Main results

* `le_runningHeartbeatTimeoutSeconds`: no window is shorter than the shorter of the two settings.
* `le_jobGuardDeadline`: a guard that protects a job does so at least until it is read.
* `executingDisarm_of_grace`: the abort grace is for jobs that disarm without a guard.
-/

namespace StabilityPlatform.Liveness

open Lib PatrolStall

/-- A job, with the columns its signs of life are read from. -/
structure LiveJob extends JobInstance where
  executionState : Option String
  createdAt : Option Time
  patrolCycleCount : ℤ
  lastPatrolHeartbeatAt : Option Time
  currentPatrolStep : Option String
  nextRetryAt : Option Time

/-- The settings, in seconds but for the multiplier. -/
structure Settings where
  /-- `RUNNING_HEARTBEAT_TIMEOUT_SECONDS`. -/
  runningHeartbeatTimeout : ℤ
  /-- `PATROL_RUNNING_HEARTBEAT_TIMEOUT_SECONDS`. -/
  patrolRunningHeartbeatTimeout : ℤ
  patrolStallMultiplier : ℤ
  /-- `COORDINATOR_HEARTBEAT_TIMEOUT_SECONDS`. -/
  coordinatorHeartbeatTimeout : ℤ
  coordinatorHeartbeatInterval : ℤ

/-- What a job that disarms its device reports. -/
def executingDisarm : String := "EXECUTING_DISARM"

/-! ### The window of the executor -/

/-- `has_patrol_lifecycle`. -/
def hasPatrolLifecycle (pipelineDef : PyVal) : Except PyError Bool :=
  match pipelineDef with
  | .dict d => (lifecycleGet d "patrol").map fun patrol => patrol.asDict?.isSome
  | _ => .ok false

/-- `job_in_patrol_phase`. -/
def jobInPatrolPhase (job : LiveJob) : Bool :=
  0 < job.patrolCycleCount || job.lastPatrolHeartbeatAt.isSome || job.currentPatrolStep.any (· ≠ "")

/-- `_patrol_interval_seconds`. -/
def patrolIntervalSeconds (pipelineDef : PyVal) : Except PyError (Option ℤ) :=
  match pipelineDef with
  | .dict d => (lifecycleGet d "patrol").map pyInterval
  | _ => .ok none

/-- The seconds until the retry of a patrol, from the last change of its job. -/
def retryDelay (job : LiveJob) (nextRetryAt : Time) : ℤ :=
  max 0 ((nextRetryAt - job.updatedAt).tdiv 1000000)

/-- The window of a job that patrols. -/
def patrolWindow (settings : Settings) (job : LiveJob) (interval : Option ℤ) : ℤ :=
  match interval with
  | none => settings.patrolRunningHeartbeatTimeout
  | some interval =>
    let timeout := max settings.patrolRunningHeartbeatTimeout
      (interval * settings.patrolStallMultiplier)
    match job.nextRetryAt with
    | none => timeout
    | some nextRetryAt =>
      max timeout (retryDelay job nextRetryAt + interval * settings.patrolStallMultiplier)

/-- `running_heartbeat_timeout_seconds`. -/
def runningHeartbeatTimeoutSeconds (settings : Settings) (job : LiveJob) : Except PyError ℤ := do
  let patrols ← hasPatrolLifecycle job.pipelineDef
  let interval ← patrolIntervalSeconds job.pipelineDef
  .ok (if patrols && jobInPatrolPhase job then patrolWindow settings job interval
    else settings.runningHeartbeatTimeout)

variable {settings : Settings} {job : LiveJob}

/-- A patrolling job has at least the window of patrols. -/
theorem le_patrolWindow (interval : Option ℤ) :
    settings.patrolRunningHeartbeatTimeout ≤ patrolWindow settings job interval := by
  rw [patrolWindow.eq_def]
  split
  · exact le_rfl
  · dsimp only
    split
    · exact le_max_left _ _
    · exact (le_max_left _ _).trans (le_max_left _ _)

/-- **No window is shorter** than the shorter of the two settings. -/
theorem le_runningHeartbeatTimeoutSeconds {timeout : ℤ}
    (h : runningHeartbeatTimeoutSeconds settings job = .ok timeout) :
    min settings.runningHeartbeatTimeout settings.patrolRunningHeartbeatTimeout ≤ timeout := by
  rw [runningHeartbeatTimeoutSeconds] at h
  obtain ⟨patrols, -, h⟩ := Except.bind_eq_ok_iff.mp h
  obtain ⟨interval, -, h⟩ := Except.bind_eq_ok_iff.mp h
  cases h
  split_ifs
  · exact (min_le_right _ _).trans (le_patrolWindow interval)
  · exact min_le_left _ _

/-! ### The abort grace -/

/-- `DISARM_SCRIPT_NAMES`. -/
def disarmScriptNames : List String :=
  familySteps.flatMap fun p => p.2.disarm ++ p.2.disarmOnboarded

/-- The timeout of an enabled disarm step. -/
def disarmTimeoutOf (step : PyVal) : Option ℤ :=
  match step with
  | .dict step =>
    if (PyDict.get step "enabled") matches .bool false then none
    else
      match (PyDict.get step "action").orElse (.str "") with
      | .str action =>
        if !pyStartsWith action "script:" then none
        else if pyStrip (String.ofList (action.toList.drop 7)) ∈ disarmScriptNames then
          (PyDict.get step "timeout_seconds").int?
        else none
      | _ => none
  | _ => none

/-- `disarm_step_timeout_seconds`. -/
def disarmStepTimeoutSeconds (pipelineDef : PyVal) : Option ℤ :=
  match pipelineDef with
  | .dict d =>
    match (PyDict.get d "lifecycle").orElse (.dict []) with
    | .dict lifecycle =>
      match (PyDict.get lifecycle "teardown").orElse (.list []) with
      | .list teardown => (teardown.filterMap disarmTimeoutOf).max?
      | _ => none
    | _ => none
  | _ => none

/-- `disarm_grace_defers_reap`. -/
def disarmGraceDefersReap (settings : Settings) (job : LiveJob) (abortAt now : Time) : Bool :=
  if job.disarmGuard.isSome then false
  else if job.executionState ≠ some executingDisarm then false
  else
    match job.lastProgressAt, disarmStepTimeoutSeconds job.pipelineDef with
    | some progress, some timeout =>
      now - progress ≤ settings.coordinatorHeartbeatInterval * 2 * 1000000 &&
        now < abortAt.addSeconds timeout
    | some _, none => false
    | none, _ => false

/-- `disarm_grace_protects`. -/
def disarmGraceProtects (settings : Settings) (runContext : PyVal) (now : Time) (job : LiveJob) :
    Bool :=
  match abortReapClock runContext job.id job.hostId with
  | none => false
  | some (abortAt, _) => disarmGraceDefersReap settings job abortAt now

/-- **The abort grace** is for jobs that disarm without a guard. -/
theorem executingDisarm_of_grace {runContext : PyVal} {now : Time}
    (h : disarmGraceProtects settings runContext now job = true) :
    job.disarmGuard = none ∧ job.executionState = some executingDisarm := by
  rw [disarmGraceProtects.eq_def] at h
  split at h
  · cases h
  · rw [disarmGraceDefersReap] at h
    split_ifs at h with hguard hstate
    exact ⟨by simpa using hguard, not_not.mp hstate⟩

/-! ### The guard -/

/-- `datetime.fromtimestamp`. -/
def ofTimestamp (stamp : ℚ) : Time := round (stamp * 1000000)

/-- `job_guard_deadline`. -/
def jobGuardDeadline (settings : Settings) (db : Db) (now : Time) (job : LiveJob) :
    Except PyError (Option Time) :=
  if job.status ≠ .running then .ok none
  else
    match job.disarmGuard with
    | none => .ok none
    | some guard =>
      if now.timestamp < guard.lastServerAt then .ok none
      else do
        let timeout ← runningHeartbeatTimeoutSeconds settings job
        let stamp := disarmGuardDeadline (some guard) now.timestamp
          (guardOwnerValid db job.toJobInstance now guard)
          (job.lastExecutionHeartbeatAt.map Time.timestamp) (timeout : ℚ)
        .ok (stamp.map ofTimestamp)

/-- A protection ends after the moment it is asked for. -/
theorem lt_of_disarmGuardDeadline {guard : Option (DisarmGuard ℚ)} {now stamp : ℚ} {owner : Bool}
    {beat : Option ℚ} {timeout : ℚ}
    (h : disarmGuardDeadline guard now owner beat timeout = some stamp) : now < stamp := by
  rw [disarmGuardDeadline.eq_def] at h
  split at h
  · cases h
  · split_ifs at h
    split at h
    · dsimp only at h
      split_ifs at h with hlt
      cases h
      exact hlt
    · cases h

/-- **A guard that protects a job** does so at least until the moment it is read at. -/
theorem le_jobGuardDeadline {db : Db} {now until_ : Time}
    (h : jobGuardDeadline settings db now job = .ok (some until_)) : now ≤ until_ := by
  rw [jobGuardDeadline.eq_def] at h
  split_ifs at h
  · cases h
  · split at h
    · cases h
    · split_ifs at h
      · cases h
      · obtain ⟨timeout, -, h⟩ := Except.bind_eq_ok_iff.mp h
        obtain ⟨stamp, hstamp, hround⟩ := Option.map_eq_some_iff.mp (Except.ok.inj h)
        have hlt := lt_of_disarmGuardDeadline hstamp
        rw [Time.timestamp, div_lt_iff₀ (by norm_num)] at hlt
        rw [← hround, ofTimestamp, round_eq, Int.le_floor]
        linarith

/-- A job without a guard is not protected by one. -/
theorem jobGuardDeadline_of_no_guard {db : Db} {now : Time} (h : job.disarmGuard = none) :
    jobGuardDeadline settings db now job = .ok none := by
  rw [jobGuardDeadline, h]
  split_ifs
  · rfl
  · rfl

end StabilityPlatform.Liveness
