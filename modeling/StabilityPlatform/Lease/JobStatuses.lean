import StabilityPlatform.Lease.Claim
import StabilityPlatform.Lib.Run

/-!
# The statuses of a job

Agents, the recovery of agents, reconcilers, the watchdog, the recycler and aborts all write the
status of a job. Some move an object that their session has read back under the row lock, others
use one guarded update. A recovery request is different: it may have read the job before, without
a lock, and then works on that stale object.

A step is what a path does to one job while it holds the row. What a path has read earlier, and
clocks and heartbeats that no status depends on, are inputs of the step.

## Main results

* `statuses_isChain`: **every status write is an edge**.
* `cleared_iff`: when jobs that do not run have no execution state.
* `unknown_reclaimed`: **unknown jobs are reclaimed**, and when live jobs have no end.
* `lease_of_live_job`: **leases die with their jobs**.
* `unknown_fate`: **an unknown job** is resumed or failed, never both.
-/

namespace StabilityPlatform.JobStatuses

open Lib

/-! ### Jobs -/

/-- A row of `job_instance`. -/
structure JobRow where
  status : JobStatus
  endedAt : Option Time
  executionState : Option String
  deriving DecidableEq

/-- The active job lease of a job. -/
structure HeldLease where
  fencingToken : ℕ
  expiresAt : Time

/-- A job, with its lease and what recovery requests have loaded of it without a lock. -/
structure JobState where
  row : JobRow
  lease : Option HeldLease
  loaded : ℕ → Option JobRow

/-- A job that was dispatched. -/
def JobState.pending : JobState := ⟨⟨.pending, none, none⟩, none, fun _ => none⟩

/-- A job whose device the dispatcher rejected. -/
def JobState.rejected (now : Time) : JobState :=
  ⟨⟨.failed, some now, none⟩, none, fun _ => none⟩

/-- How jobs are materialised. -/
def JobState.Fresh (s : JobState) : Prop := s = .pending ∨ ∃ now, s = .rejected now

/-- An edge of `VALID_TRANSITIONS`. -/
def Edge (a b : JobStatus) : Prop := b ∈ a.validTransitions

instance (a b : JobStatus) : Decidable (Edge a b) := inferInstanceAs (Decidable (_ ∈ _))

/-- `JobStateMachine.transition`. -/
def JobRow.transition (job : JobRow) (newStatus : JobStatus) : Option JobRow :=
  if newStatus ∈ job.status.validTransitions then
    some { job with
      status := newStatus
      executionState := if newStatus.isTerminal then none else job.executionState }
  else none

/-- The row after a session has written an object back: a column that is as it was loaded is not
part of the update. -/
def JobRow.flush (row loaded job : JobRow) : JobRow where
  status := if job.status = loaded.status then row.status else job.status
  endedAt := if job.endedAt = loaded.endedAt then row.endedAt else job.endedAt
  executionState :=
    if job.executionState = loaded.executionState then row.executionState else job.executionState

/-- What a step writes to the status, in order and with the time of the writer, and what it
leaves. -/
abbrev Effect := List (JobStatus × Time) × JobState

/-! ### The writers -/

namespace JobState

/-- A guarded update, `WHERE status = expected`. -/
def compareAndSet (s : JobState) (expected newStatus : JobStatus) (now : Time) : Option Effect :=
  if s.row.status = expected then
    some ([(newStatus, now)], { s with row := ⟨newStatus, some now, none⟩ })
  else none

/-- `_mark_running_timeout`; `still` is what the rest of its condition tells. -/
def markRunningTimeout (s : JobState) (still : Bool) (now : Time) : Option Effect :=
  if still then s.compareAndSet .running .unknown now else none

/-- `_mark_patrol_stall`. -/
def markPatrolStall (s : JobState) (still : Bool) (now : Time) : Option Effect :=
  if still ∧ s.row.executionState ∈ [none, some "PATROL_SLEEP"] then
    s.compareAndSet .running .unknown now
  else none

/-- `_mark_step_trace_stall`. -/
def markStepTraceStall (s : JobState) (still : Bool) (now : Time) : Option Effect :=
  if still then s.compareAndSet .running .unknown now else none

/-- `_mark_pending_timeout`, which also releases a lease. -/
def markPendingTimeout (s : JobState) (now : Time) : Option Effect :=
  { s with lease := none }.compareAndSet .pending .failed now

/-- `_bulk_abort_pending_jobs`, for one of its jobs. -/
def bulkAbortPendingJobs (s : JobState) (now : Time) : Option Effect :=
  s.compareAndSet .pending .aborted now

/-- A job read back under the lock goes from running to unknown. -/
def demote (s : JobState) (now : Time) : Option Effect :=
  if s.row.status = .running then
    (s.row.transition .unknown).map fun job =>
      ([(.unknown, now)], { s with row := { job with endedAt := some now } })
  else none

/-- `_check_host_heartbeat_timeouts`, for a job of a host it found dead. -/
def checkHostHeartbeatTimeouts (s : JobState) (now : Time) : Option Effect := s.demote now

/-- `_abort_reaper_recheck_job`; `due` is what the abort clocks tell. -/
def abortReaperRecheckJob (s : JobState) (due : Bool) (now : Time) : Option Effect :=
  if due then s.demote now else none

/-- The condition of the scan for unknown jobs past their grace. -/
def ScanSelects (graceSeconds : ℤ) (now : Time) (s : JobState) : Prop :=
  s.row.status = .unknown ∧ s.row.endedAt.any (· < now - graceSeconds * 1000000)

instance (graceSeconds : ℤ) (now : Time) (s : JobState) :
    Decidable (s.ScanSelects graceSeconds now) :=
  inferInstanceAs (Decidable (_ ∧ _))

/-- An unknown job past its grace fails, and its lease is released. -/
def failUnknown (s : JobState) (now : Time) : Option Effect :=
  (s.row.transition .failed).map fun job =>
    ([(.failed, now)], { s with row := job, lease := none })

/-- `_reconcile_expired_leases`, for the lease of the job. -/
def reconcileExpiredLeases (graceSeconds : ℤ) (s : JobState) (now : Time) : Option Effect :=
  if s.lease.any (·.expiresAt < now) then
    if s.row.status.isTerminal then some ([], { s with lease := none })
    else if s.row.status = .running then s.demote now
    else if s.ScanSelects graceSeconds now then s.failUnknown now
    else none
  else none

/-- `_reconcile_stale_unknown_jobs`, for one candidate. -/
def reconcileStaleUnknownJobs (graceSeconds : ℤ) (s : JobState) (now : Time) : Option Effect :=
  if s.ScanSelects graceSeconds now then s.failUnknown now else none

/-- `claim_jobs_for_host`, for a job that it locked. That the job is pending was asked in the
subquery that ranked it, before the lock; a lease is acquired if none is active. -/
def claim (s : JobState) (lease : HeldLease) (now : Time) : Option Effect :=
  if s.lease.isNone then
    (s.row.transition .running).map fun job =>
      ([(.running, now)], { s with row := job, lease := some lease })
  else none

/-- The update of `execution_state` by a coordinator heartbeat, by a batch of lease extensions or
with the evidence of a disarm, which all ask for a running job. -/
def reportState (s : JobState) (state : String) : Option Effect :=
  if s.row.status = .running then
    some ([], { s with row := { s.row with executionState := some state } })
  else none

/-- `get_valid_runtime_lease`. -/
def ValidRuntimeLease (s : JobState) (token : ℕ) (now : Time) : Prop :=
  s.row.status = .running ∧ s.lease.any fun l => l.fencingToken = token ∧ now < l.expiresAt

instance (s : JobState) (token : ℕ) (now : Time) : Decidable (s.ValidRuntimeLease token now) :=
  inferInstanceAs (Decidable (_ ∧ _))

/-- The renewal of a lease. -/
def extendLease (s : JobState) (token : ℕ) (now expiresAt : Time) : Option Effect :=
  if s.ValidRuntimeLease token now then
    some ([], { s with lease := s.lease.map fun l => { l with expiresAt := expiresAt } })
  else none

/-- `resume_expired_lease_for_recovery`, on an active lease. -/
def Resumable (job : JobRow) (now : Time) : Prop :=
  job.status = .unknown ∧ job.endedAt.any (now - 300 * 1000000 < ·)

instance (job : JobRow) (now : Time) : Decidable (Resumable job now) :=
  inferInstanceAs (Decidable (_ ∧ _))

/-- `complete_agent_job`. A job that was lost runs again, in the same transaction, before it
ends. -/
def completeAgentJob (s : JobState) (token : ℕ) (target : JobStatus) (now : Time) :
    Option Effect :=
  if target.isTerminal ∧ ¬s.row.status.isTerminal then
    if s.lease.any (·.fencingToken = token) ∧ Resumable s.row now then do
      let job ← s.row.transition .running
      let job ← job.transition target
      some ([(.running, now), (target, now)],
        { s with row := { job with endedAt := some now }, lease := none })
    else if s.ValidRuntimeLease token now then
      (s.row.transition target).map fun job =>
        ([(target, now)], { s with row := { job with endedAt := some now }, lease := none })
    else none
  else none

end JobState

/-- An active job that a recovery request names. -/
structure ActiveJob where
  session : ℕ
  token : ℕ
  owned : Bool
  bootMatches : Bool
  abortPending : Bool
  rotated : Option ℕ
  expiresAt : Time
  now : Time

namespace JobState

/-- The object a recovery request works on: the one it has loaded, else the row it locks. -/
def object (s : JobState) (session : ℕ) : JobRow := (s.loaded session).getD s.row

/-- A recovery request looks a job of the outbox up. -/
def recoveryRead (s : JobState) (session : ℕ) : JobState :=
  { s with loaded := Function.update s.loaded session (some (s.object session)) }

/-- A recovery request writes its object back. -/
def writeBack (s : JobState) (r : ActiveJob) (job : JobRow) (lease : Option HeldLease) : Effect :=
  let row := s.row.flush (s.object r.session) job
  (if row.status = s.row.status then [] else [(row.status, r.now)],
    ⟨row, lease, Function.update s.loaded r.session (some job)⟩)

/-- `recovery_sync_service`, for one active job. -/
def recoverySync (s : JobState) (r : ActiveJob) : Option Effect := do
  let l ← s.lease
  let job := s.object r.session
  let rotated := { l with fencingToken := r.rotated.getD l.fencingToken }
  if ¬r.owned ∨ l.fencingToken ≠ r.token then none
  else if ¬r.bootMatches then
    match job.transition .failed with
    | some job => s.writeBack r { job with endedAt := some r.now } none
    | none => s.writeBack r job none
  else if r.abortPending then s.writeBack r job (some rotated)
  else if job.status = .unknown then
    if Resumable job r.now then
      match job.transition .running with
      | some job => s.writeBack r job (some { rotated with expiresAt := r.expiresAt })
      | none => none
    else s.writeBack r job none
  else if job.status.isTerminal then s.writeBack r job none
  else if job.status = .running then s.writeBack r job (some rotated)
  else none

end JobState

/-! ### Steps -/

/-- What happens to a job. -/
inductive JobOp
  | claim (lease : HeldLease) (now : Time)
  | report (state : String)
  | extend (token : ℕ) (now expiresAt : Time)
  | complete (token : ℕ) (target : JobStatus) (now : Time)
  | recoveryRead (session : ℕ)
  | recoverySync (r : ActiveJob)
  | leaseExpired (now : Time)
  | staleUnknown (now : Time)
  | hostTimeout (now : Time)
  | abortReap (due : Bool) (now : Time)
  | runningTimeout (still : Bool) (now : Time)
  | patrolStall (still : Bool) (now : Time)
  | stepTraceStall (still : Bool) (now : Time)
  | pendingTimeout (now : Time)
  | bulkAbort (now : Time)

variable (graceSeconds : ℤ)

/-- The effect of a step; `none` when it leaves the job alone. -/
def JobState.effect (s : JobState) : JobOp → Option Effect
  | .claim lease now => s.claim lease now
  | .report state => s.reportState state
  | .extend token now expiresAt => s.extendLease token now expiresAt
  | .complete token target now => s.completeAgentJob token target now
  | .recoveryRead session => some ([], s.recoveryRead session)
  | .recoverySync r => s.recoverySync r
  | .leaseExpired now => s.reconcileExpiredLeases graceSeconds now
  | .staleUnknown now => s.reconcileStaleUnknownJobs graceSeconds now
  | .hostTimeout now => s.checkHostHeartbeatTimeouts now
  | .abortReap due now => s.abortReaperRecheckJob due now
  | .runningTimeout still now => s.markRunningTimeout still now
  | .patrolStall still now => s.markPatrolStall still now
  | .stepTraceStall still now => s.markStepTraceStall still now
  | .pendingTimeout now => s.markPendingTimeout now
  | .bulkAbort now => s.bulkAbortPendingJobs now

/-- The job after a step. -/
def JobState.step (s : JobState) (op : JobOp) : Option JobState :=
  (s.effect graceSeconds op).map Prod.snd

/-- The step relation. -/
abbrev JobState.Step (s : JobState) (op : JobOp) (s' : JobState) : Prop :=
  s.step graceSeconds op = some s'

/-- The statuses a step writes, with their times. -/
def JobState.writes (s : JobState) (op : JobOp) : List (JobStatus × Time) :=
  ((s.effect graceSeconds op).map Prod.fst).getD []

variable {graceSeconds} {s s' : JobState} {op : JobOp} {w : List (JobStatus × Time)}

/-! ### What a step does -/

/-- The lease is active only while the job is live. -/
def JobState.LeaseHeld (s : JobState) : Prop :=
  s.lease.isSome → s.row.status = .running ∨ s.row.status = .unknown

/-- The step takes the job back from unknown to running. -/
def TakesBack (s : JobState) : JobOp → Prop
  | .claim .. => s.row.status = .unknown
  | .recoverySync r => s.row.status = .unknown ∧ r.bootMatches ∧ ¬r.abortPending ∧
      JobState.Resumable (s.object r.session) r.now
  | _ => False

/-- The step clears the execution state where it has to: a path that does not clear it meets a
job without one, and a recovery request that fails a job has not loaded it before it reported. -/
def Clears (s : JobState) : JobOp → Prop
  | .leaseExpired _ | .hostTimeout _ | .abortReap .. => s.row.executionState = none
  | .recoverySync r => ¬r.bootMatches → Edge (s.object r.session).status .failed →
      (s.object r.session).executionState = none → s.row.executionState = none
  | _ => True

/-- **What a step does** to the row and the lease, and what it writes to the status. -/
inductive Change (s : JobState) (op : JobOp) (s' : JobState) : List (JobStatus × Time) → Prop
  | keeps (hrow : s'.row = s.row) (hlease : s'.lease.isSome → s.lease.isSome) : Change s op s' []
  | reports (state : Option String) (hrun : s.row.status = .running)
      (hrow : s'.row = { s.row with executionState := state }) : Change s op s' []
  | runs (now : Time) (hedge : Edge s.row.status .running)
      (hback : s.row.status = .unknown → TakesBack s op)
      (hrow : s'.row = { s.row with status := .running }) : Change s op s' [(.running, now)]
  | loses (now : Time) (hrun : s.row.status = .running)
      (hrow : s'.row.status = .unknown ∧ s'.row.endedAt = some now)
      (hstate : Clears s op → s'.row.executionState = none) : Change s op s' [(.unknown, now)]
  | ends (w : List (JobStatus × Time))
      (hchain : (s.row.status :: w.map Prod.fst).IsChain Edge)
      (hlast : (s.row.status :: w.map Prod.fst).getLast? = some s'.row.status)
      (hterminal : s'.row.status.isTerminal) (hlease : s'.lease = none)
      (hstate : Clears s op → s'.row.executionState = none) : Change s op s' w

/-- A transition along an edge. -/
theorem transition_eq_some {job job' : JobRow} {newStatus : JobStatus}
    (h : job.transition newStatus = some job') :
    Edge job.status newStatus ∧ job' = { job with
      status := newStatus
      executionState := if newStatus.isTerminal then none else job.executionState } := by
  obtain ⟨hedge, heq⟩ := Option.ite_none_right_eq_some.mp h
  exact ⟨hedge, (Option.some.inj heq).symm⟩

/-- One edge to a terminal status. -/
theorem Change.single {now : Time} (hedge : Edge s.row.status s'.row.status)
    (hterminal : s'.row.status.isTerminal) (hlease : s'.lease = none)
    (hstate : Clears s op → s'.row.executionState = none) :
    Change s op s' [(s'.row.status, now)] :=
  .ends _ (List.isChain_pair.mpr hedge) rfl hterminal hlease hstate

/-- A guarded update of the recycler loses a running job. -/
theorem change_markUnknown {now : Time}
    (h : s.compareAndSet .running .unknown now = some (w, s')) : Change s op s' w := by
  obtain ⟨hrun, heq⟩ := Option.ite_none_right_eq_some.mp h
  cases heq
  exact .loses now hrun ⟨rfl, rfl⟩ fun _ => rfl

/-- A path that reads the job back loses it; the execution state stays. -/
theorem change_demote {now : Time} (h : s.demote now = some (w, s'))
    (hclears : Clears s op → s.row.executionState = none) : Change s op s' w := by
  obtain ⟨hrun, heq⟩ := Option.ite_none_right_eq_some.mp h
  obtain ⟨job, hjob, heq⟩ := Option.map_eq_some_iff.mp heq
  obtain ⟨-, rfl⟩ := transition_eq_some hjob
  cases heq
  exact .loses now hrun ⟨rfl, rfl⟩ hclears

/-- An unknown job fails after its grace. -/
theorem change_failUnknown {now : Time} (h : s.failUnknown now = some (w, s')) :
    Change s op s' w := by
  obtain ⟨job, hjob, heq⟩ := Option.map_eq_some_iff.mp h
  obtain ⟨hedge, rfl⟩ := transition_eq_some hjob
  cases heq
  exact .single hedge rfl rfl fun _ => rfl

/-- A completion ends a job that runs, or that runs again. -/
theorem change_completeAgentJob {token : ℕ} {target : JobStatus} {now : Time}
    (h : s.completeAgentJob token target now = some (w, s')) : Change s op s' w := by
  obtain ⟨⟨hterminal, -⟩, h⟩ := Option.ite_none_right_eq_some.mp h
  by_cases hlate : s.lease.any (·.fencingToken = token) ∧ JobState.Resumable s.row now
  · rw [if_pos hlate] at h
    obtain ⟨job, hjob, h⟩ := Option.bind_eq_some_iff.mp h
    obtain ⟨job', hjob', heq⟩ := Option.bind_eq_some_iff.mp h
    obtain ⟨hedge, rfl⟩ := transition_eq_some hjob
    obtain ⟨hedge', rfl⟩ := transition_eq_some hjob'
    cases heq
    exact .ends _ (List.isChain_cons_cons.mpr ⟨hedge, List.isChain_pair.mpr hedge'⟩) rfl
      hterminal rfl fun _ => if_pos hterminal
  · rw [if_neg hlate] at h
    obtain ⟨-, h⟩ := Option.ite_none_right_eq_some.mp h
    obtain ⟨job, hjob, heq⟩ := Option.map_eq_some_iff.mp h
    obtain ⟨hedge, rfl⟩ := transition_eq_some hjob
    cases heq
    exact .single hedge hterminal rfl fun _ => if_pos hterminal

/-- An object that was not changed is written back without effect on the row. -/
theorem change_writeBack_object {r : ActiveJob} {lease : Option HeldLease} (hsome : s.lease.isSome)
    (h : some (s.writeBack r (s.object r.session) lease) = some (w, s')) : Change s op s' w := by
  have hsame : s.row.flush (s.object r.session) (s.object r.session) = s.row := by
    rw [JobRow.flush, if_pos rfl, if_pos rfl, if_pos rfl]
  rw [JobState.writeBack, hsame, if_pos rfl] at h
  cases h
  exact .keeps rfl fun _ => hsome

/-- An object that runs again changes nothing but the status of the row. -/
theorem flush_running {row loaded job : JobRow} (hne : .running ≠ loaded.status)
    (h : loaded.transition .running = some job) :
    row.flush loaded job = { row with status := .running } := by
  obtain ⟨-, rfl⟩ := transition_eq_some h
  simp [JobRow.flush, hne, JobStatus.isTerminal]

/-- **A recovery request** works on an object that may be stale. The active lease it holds tells
that the job is live all the same. -/
theorem change_recoverySync {r : ActiveJob} (hheld : s.LeaseHeld)
    (h : s.recoverySync r = some (w, s')) : Change s (.recoverySync r) s' w := by
  obtain ⟨l, hl, h⟩ := Option.bind_eq_some_iff.mp h
  have hsome : s.lease.isSome := by rw [hl]; rfl
  obtain ⟨-, h⟩ := Option.ite_none_left_eq_some.mp h
  by_cases hboot : ¬r.bootMatches
  · rw [if_pos hboot] at h
    cases hjob : (s.object r.session).transition .failed with
    | none =>
        rw [hjob] at h
        exact change_writeBack_object hsome h
    | some job =>
        rw [hjob] at h
        obtain ⟨hedge, rfl⟩ := transition_eq_some hjob
        have hstatus : .failed ≠ (s.object r.session).status := fun heq => by
          rw [← heq] at hedge
          exact absurd hedge (List.not_mem_nil)
        have hlive : Edge s.row.status .failed := by
          obtain hrun | hunknown := hheld hsome
          · rw [hrun]; decide
          · rw [hunknown]; decide
        have hne : .failed ≠ s.row.status := fun heq => by
          rw [← heq] at hlive
          exact absurd hlive (List.not_mem_nil)
        simp only [JobState.writeBack, JobRow.flush, if_neg hstatus, if_neg hne] at h
        cases h
        refine .single hlive rfl rfl fun hclears => ?_
        by_cases hnone : (s.object r.session).executionState = none
        · exact (if_pos hnone.symm).trans (hclears hboot hedge hnone)
        · exact if_neg fun heq => hnone heq.symm
  rw [if_neg hboot] at h
  by_cases habort : r.abortPending
  · rw [if_pos habort] at h
    exact change_writeBack_object hsome h
  rw [if_neg habort] at h
  by_cases hunknown : (s.object r.session).status = .unknown
  · rw [if_pos hunknown] at h
    by_cases hresume : JobState.Resumable (s.object r.session) r.now
    · rw [if_pos hresume] at h
      cases hjob : (s.object r.session).transition .running with
      | none =>
          rw [hjob] at h
          cases h
      | some job =>
          rw [hjob] at h
          have hstatus : .running ≠ (s.object r.session).status := fun heq => by
            rw [hunknown] at heq
            cases heq
          dsimp only at h
          rw [JobState.writeBack, flush_running hstatus hjob] at h
          obtain hrun | hlost := hheld hsome
          · rw [hrun, if_pos rfl] at h
            cases h
            refine .keeps ?_ fun _ => hsome
            rw [← hrun]
          · rw [hlost, if_neg JobStatus.noConfusion] at h
            cases h
            exact .runs r.now (by rw [hlost]; decide)
              (fun _ => ⟨hlost, not_not.mp hboot, habort, hresume⟩) rfl
    · rw [if_neg hresume] at h
      exact change_writeBack_object hsome h
  rw [if_neg hunknown] at h
  split_ifs at h
  · exact change_writeBack_object hsome h
  · exact change_writeBack_object hsome h

/-- **Every step is a change.** -/
theorem effect_change (hheld : s.LeaseHeld) (h : s.effect graceSeconds op = some (w, s')) :
    Change s op s' w := by
  cases op with
  | claim lease now =>
      obtain ⟨-, h⟩ := Option.ite_none_right_eq_some.mp h
      obtain ⟨job, hjob, heq⟩ := Option.map_eq_some_iff.mp h
      obtain ⟨hedge, rfl⟩ := transition_eq_some hjob
      cases heq
      exact .runs now hedge id rfl
  | report state =>
      obtain ⟨hrun, heq⟩ := Option.ite_none_right_eq_some.mp h
      cases heq
      exact .reports (some state) hrun rfl
  | extend token now expiresAt =>
      obtain ⟨-, heq⟩ := Option.ite_none_right_eq_some.mp h
      cases heq
      exact .keeps rfl fun hsome => by rwa [Option.isSome_map] at hsome
  | complete token target now => exact change_completeAgentJob h
  | recoveryRead session =>
      cases h
      exact .keeps rfl id
  | recoverySync r => exact change_recoverySync hheld h
  | leaseExpired now =>
      obtain ⟨-, h⟩ := Option.ite_none_right_eq_some.mp h
      split_ifs at h
      · cases h
        exact .keeps rfl fun hsome => by cases hsome
      · exact change_demote h id
      · exact change_failUnknown h
  | staleUnknown now =>
      obtain ⟨-, h⟩ := Option.ite_none_right_eq_some.mp h
      exact change_failUnknown h
  | hostTimeout now => exact change_demote h id
  | abortReap due now =>
      obtain ⟨-, h⟩ := Option.ite_none_right_eq_some.mp h
      exact change_demote h id
  | runningTimeout still now | patrolStall still now | stepTraceStall still now =>
      obtain ⟨-, h⟩ := Option.ite_none_right_eq_some.mp h
      exact change_markUnknown h
  | pendingTimeout now =>
      obtain ⟨hpending, heq⟩ := Option.ite_none_right_eq_some.mp h
      change s.row.status = .pending at hpending
      have hedge : Edge s.row.status .failed := by rw [hpending]; decide
      cases heq
      exact .single hedge rfl rfl fun _ => rfl
  | bulkAbort now =>
      obtain ⟨hpending, heq⟩ := Option.ite_none_right_eq_some.mp h
      have hnone : s.lease = none := by
        rw [← Option.not_isSome_iff_eq_none]
        intro hsome
        have hlive := hheld hsome
        rw [hpending] at hlive
        exact hlive.elim JobStatus.noConfusion JobStatus.noConfusion
      have hedge : Edge s.row.status .aborted := by rw [hpending]; decide
      cases heq
      exact .single hedge rfl hnone fun _ => rfl

/-- A step in terms of its change. -/
theorem step_change (hheld : s.LeaseHeld) (h : s.Step graceSeconds op s') :
    Change s op s' (s.writes graceSeconds op) := by
  obtain ⟨⟨w, t⟩, heffect, rfl⟩ := Option.map_eq_some_iff.mp h
  rw [JobState.writes, heffect]
  exact effect_change hheld heffect

/-! ### The edges -/

/-- A change writes a path of edges to the status it leaves. -/
theorem Change.path (h : Change s op s' w) : (s.row.status :: w.map Prod.fst).IsChain Edge ∧
    (s.row.status :: w.map Prod.fst).getLast? = some s'.row.status := by
  cases h with
  | keeps hrow => exact ⟨.singleton _, by rw [hrow]; rfl⟩
  | reports _ _ hrow => exact ⟨.singleton _, by rw [hrow]; rfl⟩
  | runs now hedge _ hrow => exact ⟨List.isChain_pair.mpr hedge, by rw [hrow]; rfl⟩
  | loses now hrun hrow =>
      have hedge : Edge s.row.status .unknown := by rw [hrun]; decide
      exact ⟨List.isChain_pair.mpr hedge, by rw [hrow.1]; rfl⟩
  | ends _ hchain hlast => exact ⟨hchain, hlast⟩

/-- A change keeps the lease to the live job. -/
theorem Change.held (hheld : s.LeaseHeld) (h : Change s op s' w) : s'.LeaseHeld := by
  intro hsome
  cases h with
  | keeps hrow hlease =>
      rw [hrow]
      exact hheld (hlease hsome)
  | reports _ hrun hrow => exact .inl (by rw [hrow]; exact hrun)
  | runs now _ _ hrow => exact .inl (by rw [hrow])
  | loses now _ hrow => exact .inr hrow.1
  | ends _ _ _ _ hlease =>
      rw [hlease] at hsome
      cases hsome

/-- A fresh job has no lease. -/
theorem JobState.Fresh.held (h : s.Fresh) : s.LeaseHeld := by
  obtain rfl | ⟨now, rfl⟩ := h
  · exact fun hsome => by cases hsome
  · exact fun hsome => by cases hsome

variable {t : JobState} {tr : List (JobState × JobOp)}

/-- In a run the lease is active only while the job is live. -/
theorem run_held (h : Run (JobState.Step graceSeconds) s tr t) (hs : s.Fresh) :
    Holds JobState.LeaseHeld tr t :=
  h.invariant (fun hheld hstep => (step_change hheld hstep).held hheld) hs.held

/-- A job that has ended keeps its status. -/
theorem terminal_stays (hheld : s.LeaseHeld) (hterminal : s.row.status.isTerminal)
    (h : Run (JobState.Step graceSeconds) s tr t) : t.row.status = s.row.status := by
  have hrun := h.invariant (P := fun x => x.LeaseHeld ∧ x.row.status = s.row.status)
    (fun {x op x'} hx hstep => by
      have hchange := step_change hx.1 hstep
      refine ⟨hchange.held hx.1, ?_⟩
      obtain ⟨hchain, hlast⟩ := hchange.path
      have hend : x.row.status.validTransitions = [] := by
        rw [hx.2]
        revert hterminal
        cases s.row.status <;> decide
      cases hw : (x.writes graceSeconds op).map Prod.fst with
      | nil =>
          rw [hw] at hlast
          exact (Option.some.inj hlast).symm.trans hx.2
      | cons next rest =>
          rw [hw] at hchain
          have hedge := (List.isChain_cons_cons.mp hchain).1
          rw [Edge, hend] at hedge
          exact absurd hedge List.not_mem_nil) ⟨hheld, rfl⟩
  exact hrun.2.2

/-- Statuses next to each other in a path are an edge. -/
theorem edge_of_adjacent {path : List JobStatus} {a b : JobStatus} (h : path.IsChain Edge)
    (hpart : [a, b] <:+: path) : Edge a b := by
  obtain ⟨before, after, rfl⟩ := hpart
  exact List.isChain_pair.mp h.left_of_append.right_of_append

/-- The statuses of a job in a run: the first one, and all that are written. -/
def statuses (graceSeconds : ℤ) (s : JobState) (tr : List (JobState × JobOp)) : List JobStatus :=
  s.row.status :: (emitted (JobState.writes graceSeconds) tr).map Prod.fst

/-- **Every status write is an edge.** In any run, the statuses that are written to a job, from
the first to the present one, follow the edges; a job that has ended keeps its status, and no
unknown job is completed or aborted at once. -/
theorem statuses_isChain (h : Run (JobState.Step graceSeconds) s tr t) (hs : s.Fresh) :
    (statuses graceSeconds s tr).IsChain Edge ∧
      (statuses graceSeconds s tr).getLast? = some t.row.status ∧
      (∀ p ∈ tr, p.1.row.status.isTerminal → t.row.status = p.1.row.status) ∧
      ¬[.unknown, .completed] <:+: statuses graceSeconds s tr ∧
      ¬[.unknown, .aborted] <:+: statuses graceSeconds s tr := by
  have hpath := @Run.invariant_log _ _ _ _ (JobState.writes graceSeconds)
    (fun log x => x.LeaseHeld ∧ (s.row.status :: log.map Prod.fst).IsChain Edge ∧
      (s.row.status :: log.map Prod.fst).getLast? = some x.row.status)
    (fun {log x op x'} hx hstep => by
      obtain ⟨hheld, hchain, hlast⟩ := hx
      have hchange := step_change hheld hstep
      obtain ⟨hchain', hlast'⟩ := hchange.path
      refine ⟨hchange.held hheld, ?_, ?_⟩
      · rw [List.map_append, ← List.cons_append, List.isChain_append]
        refine ⟨hchain, hchain'.tail, fun a ha b hb => ?_⟩
        rw [hlast] at ha
        obtain rfl := Option.some.inj ha
        obtain ⟨rest, hrest⟩ := List.head?_eq_some_iff.mp hb
        rw [hrest] at hchain'
        exact (List.isChain_cons_cons.mp hchain').1
      · rw [List.map_append, ← List.cons_append, List.getLast?_append, hlast]
        rw [List.getLast?_cons] at hlast'
        cases hend : ((x.writes graceSeconds op).map Prod.fst).getLast? with
        | none =>
            rw [hend] at hlast'
            exact hlast'
        | some a =>
            rw [hend] at hlast'
            exact hlast') _ _ _ h [] ⟨hs.held, .singleton _, rfl⟩
  rw [List.nil_append] at hpath
  obtain ⟨-, hchain, hlast⟩ := hpath
  refine ⟨hchain, hlast, fun p hp hterminal => ?_, fun hpart => ?_, fun hpart => ?_⟩
  · obtain ⟨x, post, hstep, hpost⟩ := h.after hp
    exact terminal_stays ((run_held h hs).1 p hp) hterminal (.cons hstep hpost)
  · exact absurd (edge_of_adjacent hchain hpart) (by decide)
  · exact absurd (edge_of_adjacent hchain hpart) (by decide)

/-- A run of given steps, from a job that was dispatched. -/
theorem exists_run (graceSeconds : ℤ) (ops : List JobOp) (check : JobState → Bool)
    (h : (ops.foldlM (JobState.step graceSeconds) .pending).any check) :
    ∃ tr t, Run (JobState.Step graceSeconds) .pending tr t ∧ check t := by
  obtain ⟨t, ht, hcheck⟩ := (Option.any_eq_true _ _).mp h
  exact ⟨_, t, Run.of_foldlM ht, hcheck⟩

/-- A job is lost with its lease and completed late. -/
theorem statuses_isChain_late : ∃ tr t, Run (JobState.Step 300) .pending tr t ∧
    t.row.status = .completed ∧ (statuses 300 .pending tr).IsChain Edge := by
  obtain ⟨tr, t, hrun, hend⟩ := exists_run 300
    [.claim ⟨1, 10⟩ 0, .leaseExpired 20, .complete 1 .completed 30]
    (fun t => t.row.status = .completed) (by decide +kernel)
  exact ⟨tr, t, hrun, of_decide_eq_true hend, (statuses_isChain hrun (.inl rfl)).1⟩

/-! ### The execution state -/

/-- A job that does not run has no execution state. -/
def JobState.Tidy (s : JobState) : Prop := s.row.status ≠ .running → s.row.executionState = none

/-- What a path that reads the job back leaves. -/
theorem demote_row {now : Time} (h : s.demote now = some (w, s')) :
    s'.row = { s.row with status := .unknown, endedAt := some now } := by
  obtain ⟨-, heq⟩ := Option.ite_none_right_eq_some.mp h
  obtain ⟨job, hjob, heq⟩ := Option.map_eq_some_iff.mp heq
  obtain ⟨-, rfl⟩ := transition_eq_some hjob
  cases heq
  rfl

/-- A step that leaves a tidy job has cleared what it had to. -/
theorem clears_of_tidy (hs : s.Tidy) (hs' : s'.Tidy)
    (h : s.effect graceSeconds op = some (w, s')) : Clears s op := by
  have hdemote : ∀ {now}, s.demote now = some (w, s') → s.row.executionState = none := by
    intro now hdemote
    have hrow := demote_row hdemote
    have hnone := hs' (by rw [hrow]; exact JobStatus.noConfusion)
    rwa [hrow] at hnone
  cases op with
  | leaseExpired now =>
      by_cases hrun : s.row.status = .running
      · obtain ⟨-, h⟩ := Option.ite_none_right_eq_some.mp h
        have hlive : ¬s.row.status.isTerminal := by
          rw [hrun]
          exact Bool.false_ne_true
        rw [if_neg hlive, if_pos hrun] at h
        exact hdemote h
      · exact hs hrun
  | hostTimeout now => exact hdemote h
  | abortReap due now => exact hdemote (Option.ite_none_right_eq_some.mp h).2
  | recoverySync r =>
      intro hboot hedge hnone
      obtain ⟨l, hl, h⟩ := Option.bind_eq_some_iff.mp h
      obtain ⟨-, h⟩ := Option.ite_none_left_eq_some.mp h
      have hjob : (s.object r.session).transition .failed =
          some { s.object r.session with status := .failed, executionState := none } :=
        if_pos hedge
      rw [if_pos hboot, hjob] at h
      have hstatus : .failed ≠ (s.object r.session).status := fun heq => by
        rw [← heq] at hedge
        exact absurd hedge List.not_mem_nil
      cases h
      have hclear := hs' (by
        dsimp only [JobRow.flush]
        rw [if_neg hstatus]
        exact JobStatus.noConfusion)
      dsimp only [JobRow.flush] at hclear
      rwa [if_pos hnone.symm] at hclear
  | _ => trivial

/-- A step that clears what it has to leaves a tidy job. -/
theorem Change.tidy (hs : s.Tidy) (hclears : Clears s op) (h : Change s op s' w) : s'.Tidy := by
  intro hne
  cases h with
  | keeps hrow =>
      rw [hrow] at hne ⊢
      exact hs hne
  | reports _ hrun hrow =>
      rw [hrow] at hne
      exact absurd hrun hne
  | runs _ _ _ hrow =>
      rw [hrow] at hne
      exact absurd rfl hne
  | loses _ _ _ hstate => exact hstate hclears
  | ends _ _ _ _ _ hstate => exact hstate hclears

/-- **Execution states are cleared** outside running in exactly the runs in which no expired lease,
dead host or overdue abort meets a job with one, and no recovery fails a job that reported since
it was loaded. -/
theorem cleared_iff (h : Run (JobState.Step graceSeconds) s tr t) (hs : s.Fresh) :
    Holds JobState.Tidy tr t ↔ ∀ p ∈ tr, Clears p.1 p.2 := by
  refine @Run.invariant_iff_guard _ _ _ JobState.LeaseHeld JobState.Tidy Clears
    (fun hheld _ hstep => (step_change hheld hstep).held hheld)
    (fun {s op s'} hheld htidy hstep =>
      ⟨fun htidy' => ?_, fun hclears => (step_change hheld hstep).tidy htidy hclears⟩) _ _ _ h
    hs.held ?_
  · obtain ⟨⟨w, x⟩, heffect, rfl⟩ := Option.map_eq_some_iff.mp hstep
    exact clears_of_tidy htidy htidy' heffect
  · obtain rfl | ⟨now, rfl⟩ := hs
    · exact fun _ => rfl
    · exact fun _ => rfl

/-- A job that has not reported is lost with its lease. -/
theorem cleared_iff_silent : ∃ tr t, Run (JobState.Step 300) .pending tr t ∧
    t.row.status = .unknown ∧ (Holds JobState.Tidy tr t ↔ ∀ p ∈ tr, Clears p.1 p.2) := by
  obtain ⟨tr, t, hrun, hend⟩ := exists_run 300 [.claim ⟨1, 10⟩ 0, .leaseExpired 20]
    (fun t => t.row.status = .unknown) (by decide +kernel)
  exact ⟨tr, t, hrun, of_decide_eq_true hend, cleared_iff hrun (.inl rfl)⟩

/-- The lease of a job that executes a step expires. -/
theorem not_cleared :
    ¬∀ tr t, Run (JobState.Step 300) .pending tr t → Holds JobState.Tidy tr t := by
  intro hall
  obtain ⟨tr, t, hrun, hend⟩ := exists_run 300
    [.claim ⟨1, 10⟩ 0, .report "EXECUTING_STEP", .leaseExpired 20]
    (fun t => t.row.status = .unknown ∧ t.row.executionState = some "EXECUTING_STEP")
    (by decide +kernel)
  obtain ⟨hunknown, hstate⟩ := of_decide_eq_true hend
  have hnone := (hall tr t hrun).2 (by rw [hunknown]; exact JobStatus.noConfusion)
  rw [hstate] at hnone
  cases hnone

/-! ### Unknown jobs -/

/-- A job that runs, or waits to be claimed, has no end. -/
def JobState.LiveOpen (s : JobState) : Prop :=
  s.row.status = .running ∨ s.row.status = .pending → s.row.endedAt = none

/-- The last status a job was given is unknown, at the time of its end. -/
def EndsUnknown (log : List (JobStatus × Time)) (s : JobState) : Prop :=
  s.row.status = .unknown → ∃ entered, log.getLast? = some (.unknown, entered) ∧
    s.row.endedAt = some entered

/-- A step keeps the end of unknown jobs. -/
theorem Change.endsUnknown {log : List (JobStatus × Time)} (hlog : EndsUnknown log s)
    (h : Change s op s' w) : EndsUnknown (log ++ w) s' := by
  intro hunknown
  cases h with
  | keeps hrow =>
      rw [hrow] at hunknown ⊢
      rw [List.append_nil]
      exact hlog hunknown
  | reports _ hrun hrow =>
      rw [hrow, hrun] at hunknown
      cases hunknown
  | runs _ _ _ hrow =>
      rw [hrow] at hunknown
      cases hunknown
  | loses now _ hrow => exact ⟨now, List.getLast?_concat, hrow.2⟩
  | ends _ _ _ hterminal =>
      rw [hunknown] at hterminal
      cases hterminal

/-- A step that takes no job back gives live jobs no end. -/
theorem Change.liveOpen (hs : s.LiveOpen) (hno : ¬TakesBack s op) (h : Change s op s' w) :
    s'.LiveOpen := by
  intro hlive
  cases h with
  | keeps hrow =>
      rw [hrow] at hlive ⊢
      exact hs hlive
  | reports _ hrun hrow =>
      rw [hrow]
      exact hs (.inl hrun)
  | runs _ hedge hback hrow =>
      rw [hrow]
      refine hs ?_
      cases hstatus : s.row.status with
      | pending => exact .inr rfl
      | unknown => exact absurd (hback hstatus) hno
      | running | completed | failed | aborted =>
          rw [hstatus] at hedge
          exact absurd hedge (by decide)
  | loses _ _ hrow =>
      rw [hrow.1] at hlive
      exact hlive.elim JobStatus.noConfusion JobStatus.noConfusion
  | ends _ _ _ hterminal =>
      obtain hrun | hpending := hlive
      · rw [hrun] at hterminal
        cases hterminal
      · rw [hpending] at hterminal
        cases hterminal

/-- In a run, unknown jobs have the end they were given last. -/
theorem run_endsUnknown (h : Run (JobState.Step graceSeconds) s tr t) (hs : s.Fresh) :
    EndsUnknown (emitted (JobState.writes graceSeconds) tr) t := by
  have hrun := @Run.invariant_log _ _ _ _ (JobState.writes graceSeconds)
    (fun log x => x.LeaseHeld ∧ EndsUnknown log x)
    (fun {log x op x'} hx hstep => by
      have hchange := step_change hx.1 hstep
      exact ⟨hchange.held hx.1, hchange.endsUnknown hx.2⟩) _ _ _ h [] ⟨hs.held, by
        obtain rfl | ⟨now, rfl⟩ := hs
        · exact JobStatus.noConfusion
        · exact JobStatus.noConfusion⟩
  rw [List.nil_append] at hrun
  exact hrun.2

/-- A job that is taken back runs, with the end it had. -/
theorem row_of_takesBack (hback : TakesBack s op)
    (h : s.effect graceSeconds op = some (w, s')) :
    s.row.status = .unknown ∧ s'.row = { s.row with status := .running } := by
  cases op with
  | claim lease now =>
      obtain ⟨-, h⟩ := Option.ite_none_right_eq_some.mp h
      obtain ⟨job, hjob, heq⟩ := Option.map_eq_some_iff.mp h
      obtain ⟨-, rfl⟩ := transition_eq_some hjob
      cases heq
      exact ⟨hback, rfl⟩
  | recoverySync r =>
      obtain ⟨hunknown, hboot, habort, hresume⟩ := hback
      refine ⟨hunknown, ?_⟩
      obtain ⟨l, hl, h⟩ := Option.bind_eq_some_iff.mp h
      obtain ⟨-, h⟩ := Option.ite_none_left_eq_some.mp h
      have hstatus : .running ≠ (s.object r.session).status := by
        rw [hresume.1]
        exact JobStatus.noConfusion
      rw [if_neg (not_not.mpr hboot), if_neg habort, if_pos hresume.1, if_pos hresume] at h
      cases hjob : (s.object r.session).transition .running with
      | none =>
          rw [hjob] at h
          cases h
      | some job =>
          rw [hjob] at h
          cases h
          exact flush_running hstatus hjob
  | _ => exact hback.elim

/-- **Unknown jobs are reclaimed.** In any run an unknown job has the end at which it became
unknown, and the scan selects it at every time later than that by the grace period. Running and
pending jobs have no end in exactly the runs that take no job back from unknown. -/
theorem unknown_reclaimed (h : Run (JobState.Step graceSeconds) s tr t) (hs : s.Fresh) :
    (t.row.status = .unknown → ∃ entered,
      (emitted (JobState.writes graceSeconds) tr).getLast? = some (.unknown, entered) ∧
        t.row.endedAt = some entered ∧
        ∀ now, entered + graceSeconds * 1000000 < now → t.ScanSelects graceSeconds now) ∧
      (Holds JobState.LiveOpen tr t ↔ ∀ p ∈ tr, ¬TakesBack p.1 p.2) := by
  constructor
  · intro hunknown
    obtain ⟨entered, hlast, hend⟩ := run_endsUnknown h hs hunknown
    refine ⟨entered, hlast, hend, fun now hlate => ⟨hunknown, ?_⟩⟩
    rw [hend]
    exact decide_eq_true (lt_sub_iff_add_lt.mpr hlate)
  · refine @Run.invariant_iff_guard _ _ _ (fun x => x.LeaseHeld ∧ ∃ log, EndsUnknown log x)
      JobState.LiveOpen (fun x op => ¬TakesBack x op)
      (fun {x op x'} hx _ hstep => ?_)
      (fun {x op x'} hx hopen hstep => ⟨fun hopen' hback => ?_, fun hno =>
        (step_change hx.1 hstep).liveOpen hopen hno⟩) _ _ _ h
      ⟨hs.held, [], run_endsUnknown (@Run.nil _ _ (JobState.Step graceSeconds) s) hs⟩ ?_
    · obtain ⟨hheld, log, hlog⟩ := hx
      have hchange := step_change hheld hstep
      exact ⟨hchange.held hheld, _, hchange.endsUnknown hlog⟩
    · obtain ⟨⟨w, y⟩, heffect, rfl⟩ := Option.map_eq_some_iff.mp hstep
      obtain ⟨hunknown, hrow⟩ := row_of_takesBack hback heffect
      obtain ⟨-, log, hlog⟩ := hx
      obtain ⟨entered, -, hend⟩ := hlog hunknown
      have hnone := hopen' (.inl (by rw [hrow]))
      rw [hrow, hend] at hnone
      cases hnone
    · obtain rfl | ⟨now, rfl⟩ := hs
      · exact fun _ => rfl
      · exact fun hlive => hlive.elim JobStatus.noConfusion JobStatus.noConfusion

/-- A job is lost with its lease and waits for its grace. -/
theorem unknown_reclaimed_lost : ∃ tr t, Run (JobState.Step 300) .pending tr t ∧
    t.row.status = .unknown ∧ t.ScanSelects 300 400000000 := by
  obtain ⟨tr, t, hrun, hend⟩ := exists_run 300 [.claim ⟨1, 10⟩ 0, .leaseExpired 20]
    (fun t => t.row.status = .unknown ∧ t.row.endedAt = some 20) (by decide +kernel)
  obtain ⟨hunknown, hat⟩ := of_decide_eq_true hend
  obtain ⟨entered, -, hentered, hscan⟩ := (unknown_reclaimed hrun (.inl rfl)).1 hunknown
  rw [hat] at hentered
  exact ⟨tr, t, hrun, hunknown, hscan _ (by cases hentered; decide)⟩

/-- A recovery takes a lost job back: it runs, with an end. -/
theorem not_liveOpen :
    ¬∀ tr t, Run (JobState.Step 300) .pending tr t → Holds JobState.LiveOpen tr t := by
  intro hall
  obtain ⟨tr, t, hrun, hend⟩ := exists_run 300
    [.claim ⟨1, 10⟩ 0, .leaseExpired 20,
      .recoverySync ⟨0, 1, true, true, false, none, 90, 30⟩]
    (fun t => t.row.status = .running ∧ t.row.endedAt = some 20) (by decide +kernel)
  obtain ⟨hlive, hat⟩ := of_decide_eq_true hend
  have hnone := (hall tr t hrun).2 (.inl hlive)
  rw [hat] at hnone
  cases hnone

/-! ### Leases and the fate of unknown jobs -/

/-- **Leases die with their jobs.** In every state of a run, a job with an active lease runs or is
unknown; one that waits or has ended has none, whatever stale object a recovery has written
back. -/
theorem lease_of_live_job (h : Run (JobState.Step graceSeconds) s tr t) (hs : s.Fresh) :
    Holds (fun x => (x.lease.isSome → x.row.status = .running ∨ x.row.status = .unknown) ∧
      (x.row.status = .pending ∨ x.row.status.isTerminal → x.lease = none)) tr t := by
  refine (run_held h hs).mono fun x hheld => ⟨hheld, fun hidle => ?_⟩
  by_contra hlease
  obtain hrun | hunknown := hheld (Option.ne_none_iff_isSome.mp hlease)
  · rw [hrun] at hidle
    exact hidle.elim JobStatus.noConfusion Bool.noConfusion
  · rw [hunknown] at hidle
    exact hidle.elim JobStatus.noConfusion Bool.noConfusion

/-- A claimed job has its lease. -/
theorem lease_of_live_job_claimed : ∃ tr t, Run (JobState.Step 300) .pending tr t ∧
    t.lease.isSome ∧ (t.row.status = .running ∨ t.row.status = .unknown) := by
  obtain ⟨tr, t, hrun, hend⟩ := exists_run 300 [.claim ⟨1, 10⟩ 0] (·.lease.isSome)
    (by decide +kernel)
  exact ⟨tr, t, hrun, hend, ((lease_of_live_job hrun (.inl rfl)).2).1 hend⟩

/-- **An unknown job has one fate at a time.** In any run, from the time at which the job became
unknown, it may be resumed for 300 seconds and no longer, and is failed without a lease by any
scan after the grace period and by none before; if the grace period is no shorter, no scan takes a
job that may still be resumed. -/
theorem unknown_fate (h : Run (JobState.Step graceSeconds) s tr t) (hs : s.Fresh)
    (hunknown : t.row.status = .unknown) : ∃ entered,
      (emitted (JobState.writes graceSeconds) tr).getLast? = some (.unknown, entered) ∧
      (∀ now, JobState.Resumable t.row now ↔ now < entered + 300 * 1000000) ∧
      (∀ now, entered + graceSeconds * 1000000 < now →
        ∃ t', t.Step graceSeconds (.staleUnknown now) t' ∧ t'.row.status = .failed ∧
          t'.lease = none) ∧
      (∀ now, now ≤ entered + graceSeconds * 1000000 →
        t.step graceSeconds (.staleUnknown now) = none) ∧
      (300 ≤ graceSeconds → ∀ now t', t.Step graceSeconds (.staleUnknown now) t' →
        ¬JobState.Resumable t.row now) := by
  obtain ⟨entered, hlast, hend⟩ := run_endsUnknown h hs hunknown
  have hresume : ∀ now, JobState.Resumable t.row now ↔ now < entered + 300 * 1000000 := by
    intro now
    rw [JobState.Resumable, hend, Option.any_some, decide_eq_true_iff]
    exact ⟨fun hnow => sub_lt_iff_lt_add.mp hnow.2,
      fun hnow => ⟨hunknown, sub_lt_iff_lt_add.mpr hnow⟩⟩
  have hscan : ∀ now, t.ScanSelects graceSeconds now ↔
      entered + graceSeconds * 1000000 < now := by
    intro now
    rw [JobState.ScanSelects, hend, Option.any_some, decide_eq_true_iff]
    exact ⟨fun hnow => lt_sub_iff_add_lt.mp hnow.2,
      fun hnow => ⟨hunknown, lt_sub_iff_add_lt.mpr hnow⟩⟩
  refine ⟨entered, hlast, hresume, fun now hlate => ?_, fun now hearly => ?_,
    fun hgrace now t' hstep hnow => ?_⟩
  · have hfail : t.row.transition .failed =
        some { t.row with status := .failed, executionState := none } :=
      if_pos (by rw [hunknown]; decide)
    refine ⟨{ t with
      row := { t.row with status := .failed, executionState := none }
      lease := none }, ?_, rfl, rfl⟩
    rw [JobState.Step, JobState.step, JobState.effect, JobState.reconcileStaleUnknownJobs,
      if_pos ((hscan now).mpr hlate), JobState.failUnknown, hfail]
    rfl
  · rw [JobState.step, JobState.effect, JobState.reconcileStaleUnknownJobs,
      if_neg fun hnow => absurd ((hscan now).mp hnow) (not_lt.mpr hearly)]
    rfl
  · obtain ⟨out, heffect, -⟩ := Option.map_eq_some_iff.mp hstep
    obtain ⟨hselected, -⟩ := Option.ite_none_right_eq_some.mp heffect
    have hlate := (hscan now).mp hselected
    have hsoon := (hresume now).mp hnow
    linarith

/-- A job that is lost with its lease. -/
theorem unknown_fate_lost : ∃ tr t, Run (JobState.Step 300) .pending tr t ∧
    ∃ entered, (emitted (JobState.writes 300) tr).getLast? = some (.unknown, entered) ∧
      ∀ now, JobState.Resumable t.row now ↔ now < entered + 300 * 1000000 := by
  obtain ⟨tr, t, hrun, hend⟩ := exists_run 300 [.claim ⟨1, 10⟩ 0, .leaseExpired 20]
    (fun t => t.row.status = .unknown) (by decide +kernel)
  obtain ⟨entered, hlast, hresume, -⟩ := unknown_fate hrun (.inl rfl) (of_decide_eq_true hend)
  exact ⟨tr, t, hrun, entered, hlast, hresume⟩

end StabilityPlatform.JobStatuses
