import StabilityPlatform.DeviceReturn.Completion
import StabilityPlatform.Lease.Claim

/-!
# The upgrade gate of a host

An upgrade of a host first takes a maintenance window, which is committed at once, then looks for
active jobs, aborts and drains them when it may, and returns; any exception after the window was
taken releases it. The window is an instant and the name of a holder in the row of the host.
Claims and upgrades take the row lock of the host; everything else that moves jobs does not.

The steps below are the committed steps of these calls. Which call opened the window that the
row shows is recorded beside the state; the program does not know it.

## Main results

* `acquireMaintenanceWindow`, `releaseMaintenanceWindow`: the window.
* `gateStep`: one step of an upgrade, of a claim, or of anything that moves a job.
* `claimJobsForHost_jobs`: what the claim does to the jobs is the step in which it commits.
-/

namespace StabilityPlatform

open Lib

/-! ### The window -/

/-- The columns of a host that upgrades and claims read. -/
structure UpgradeHost extends HostGate where
  maintenanceHolder : String

/-- How long a window lasts, in seconds, given the configured value if it is a number. -/
def maintenanceTtl (configured : Option ℤ) : ℤ := max 1 (min (configured.getD 900) 3600)

/-- `acquire_maintenance_window`, between the lock of the row and the commit: `none` is a
refusal. The clock is read once for the test and once for the deadline. -/
def acquireMaintenanceWindow (host : Option UpgradeHost) (holder : String)
    (configured : Option ℤ) (now later : Time) : Option UpgradeHost :=
  host.bind fun row =>
    if inMaintenanceWindow row.maintenanceUntil now then none
    else some { row with
      maintenanceUntil := some (later.addSeconds (maintenanceTtl configured))
      maintenanceHolder := holder }

/-- `release_maintenance_window`: only the window of this holder is cleared. -/
def releaseMaintenanceWindow (host : Option UpgradeHost) (holder : String) :
    Option UpgradeHost :=
  host.map fun row =>
    if row.maintenanceHolder ≠ holder then row
    else { row with maintenanceUntil := none, maintenanceHolder := "" }

/-- Whether the row shows a window that has not expired. -/
def windowOpen (host : Option UpgradeHost) (now : Time) : Bool :=
  host.any fun row => inMaintenanceWindow row.maintenanceUntil now

/-- Whether the row names a holder. -/
def heldBy (host : Option UpgradeHost) (holder : String) : Prop :=
  ∃ row, host = some row ∧ row.maintenanceHolder = holder

/-- The window of a row: its deadline and its holder. -/
def windowOf (host : Option UpgradeHost) : Option (Option Time × String) :=
  host.map fun row => (row.maintenanceUntil, row.maintenanceHolder)

/-! ### Calls -/

/-- Why an upgrade is refused. -/
inductive UpgradeError where
  | hostNotFound
  | hostRetired
  | maintenanceConflict
  | hostAbortPending
  | hostHasActiveJobs
  | abortDrainTimeout
  | other
  deriving DecidableEq, Repr

/-- Where a call of `begin_host_upgrade` is. -/
inductive UpgradePhase where
  | entered
  | opened
  | draining
  | passed
  | rejecting (e : UpgradeError)
  | returned
  | rejected (e : UpgradeError)
  deriving DecidableEq, Repr

/-- A call of `begin_host_upgrade`. -/
structure UpgradeCall where
  holder : String
  abortRunningJobs : Bool
  phase : UpgradePhase

/-- Where a call of `claim_jobs_for_host` is. -/
inductive ClaimPhase where
  | started (now : Time)
  | locked (now : Time)
  | finished
  deriving DecidableEq, Repr

/-! ### The state -/

/-- What the calls on one host share, and where each of them is. -/
structure GateState where
  now : Time
  host : Option UpgradeHost
  jobs : Table JobInstance
  lock : Option ℕ
  upgrades : ℕ → Option UpgradeCall
  claims : ℕ → Option ClaimPhase
  opener : Option ℕ

namespace GateState

/-- Put an upgrade somewhere. -/
def setUpgrade (s : GateState) (u : ℕ) (call : UpgradeCall) (phase : UpgradePhase) : GateState :=
  { s with upgrades := Function.update s.upgrades u (some { call with phase := phase }) }

/-- Put a claim somewhere. -/
def setClaim (s : GateState) (c : ℕ) (phase : ClaimPhase) : GateState :=
  { s with claims := Function.update s.claims c (some phase) }

/-- Release the window in the name of a holder. -/
def release (s : GateState) (holder : String) : GateState :=
  { s with
    host := releaseMaintenanceWindow s.host holder
    opener := if (s.host.map UpgradeHost.maintenanceHolder) = some holder then none else s.opener }

end GateState

/-! ### Jobs -/

/-- `active_jobs_for_host`. -/
def activeJobsForHost (jobs : Table JobInstance) (hostId : String) : List JobInstance :=
  sortBy JobInstance.id
    (jobs.select fun job => job.hostId == some hostId && job.status.isActive)

/-- The pending ones of these jobs, claimed for a host. -/
def claimPending (jobs : Table JobInstance) (jobIds : List ℕ) (hostId : String) (now : Time) :
    Table JobInstance :=
  jobs.update (fun job => jobIds.contains job.id && job.status == .pending)
    (fun job => job.claim hostId now) fun _ => rfl

/-- What `begin_host_upgrade` does about the active jobs it finds, of which some are already
being aborted. -/
def checkActiveJobs (rows : List JobInstance) (pendingIds : List ℕ) (abortRunningJobs : Bool) :
    UpgradePhase :=
  if rows.isEmpty then .passed
  else if abortRunningJobs then .draining
  else if pendingIds.length = rows.length then .rejecting .hostAbortPending
  else .rejecting .hostHasActiveJobs

/-- What one round of `wait_until_no_active_jobs` makes of a call. -/
def pollActiveJobs (rows : List JobInstance) (timedOut : Bool) : UpgradePhase :=
  if rows.isEmpty then .passed
  else if timedOut then .rejecting .abortDrainTimeout
  else .draining

/-! ### Steps -/

/-- A step. -/
inductive GateOp where
  /-- Time passes. -/
  | advance (t : Time)
  /-- A heartbeat or a retirement writes the row of the host. -/
  | hostChanges (status : HostStatus) (retiredAt : Option Time)
  /-- A job with these columns is materialised. -/
  | materialise (job : JobInstance)
  /-- A job takes a transition of its state machine other than a claim: it ends, it is aborted,
  or its lease expires. -/
  | transition (jobId : ℕ) (newStatus : JobStatus) (reason : String)
  /-- A lost job is resumed under its lease. -/
  | recover (jobId : ℕ) (lease : DeviceLease) (agentInstanceId : String)
  /-- Another host claims a job. -/
  | claimElsewhere (jobId : ℕ) (hostId : String)
  /-- A claim reads the clock. -/
  | startClaim (c : ℕ)
  /-- A claim locks the row of the host and looks at it. -/
  | lockClaim (c : ℕ)
  /-- A claim commits the jobs it started; with none it rolls back. -/
  | commitClaim (c : ℕ) (jobIds : List ℕ)
  /-- An upgrade begins: it looks for the host. -/
  | beginUpgrade (u : ℕ) (holder : String) (abortRunningJobs : Bool)
  /-- An upgrade asks for the window. -/
  | acquire (u : ℕ) (later : Time) (configured : Option ℤ)
  /-- An upgrade looks for active jobs. -/
  | checkActive (u : ℕ) (pendingIds : List ℕ)
  /-- An upgrade looks whether the jobs are gone. -/
  | poll (u : ℕ) (timedOut : Bool)
  /-- An upgrade that holds the window raises. -/
  | fail (u : ℕ)
  /-- An upgrade returns. -/
  | finish (u : ℕ)
  /-- An upgrade that raised releases the window. -/
  | reject (u : ℕ)
  /-- `end_host_upgrade` is called, on behalf of an upgrade. -/
  | endUpgrade (u : ℕ) (holder : String)

/-- Whether a claim may go on: the host is online, in service and not maintained. -/
def HostGate.mayClaim (host : HostGate) (now : Time) : Bool :=
  host.status == .online && host.retiredAt.isNone && !inMaintenanceWindow host.maintenanceUntil now

/-- Where an upgrade is that has looked for its host. -/
def enterUpgrade (host : Option UpgradeHost) : UpgradePhase :=
  match host with
  | none => .rejected .hostNotFound
  | some row => if row.retiredAt.isSome then .rejected .hostRetired else .entered

/-- Whether something an upgrade does in this phase may raise. -/
def UpgradePhase.mayFail : UpgradePhase → Bool
  | .opened | .draining | .passed => true
  | _ => false

/-- One step on a host; `none` is a step that is not possible. -/
def gateStep (hostId : String) (s : GateState) : GateOp → Option GateState
  | .advance t => if s.now ≤ t then some { s with now := t } else none
  | .hostChanges status retiredAt =>
    some { s with
      host := s.host.map fun row => { row with status := status, retiredAt := retiredAt } }
  | .materialise job =>
    some { s with
      jobs := s.jobs.insert (fun i => { job with id := i, status := .pending }) fun _ => rfl }
  | .transition jobId newStatus reason => do
    let job ← s.jobs.get? jobId
    if job.status = .pending ∧ newStatus = .running then none
    else
      let moved ← job.transition newStatus reason s.now
      return { s with jobs := s.jobs.save moved }
  | .recover jobId lease agentInstanceId => do
    let job ← s.jobs.get? jobId
    let _ ← resumeExpiredLease lease job agentInstanceId s.now
    let moved ← job.transition .running "recovery_resume_unknown" s.now
    return { s with jobs := s.jobs.save moved }
  | .claimElsewhere jobId other =>
    if other = hostId then none
    else some { s with jobs := claimPending s.jobs [jobId] other s.now }
  | .startClaim c => if (s.claims c).isSome then none else some (s.setClaim c (.started s.now))
  | .lockClaim c =>
    match s.claims c, s.lock with
    | some (.started now), none =>
      if s.host.any fun row => row.toHostGate.mayClaim now then
        some { s.setClaim c (.locked now) with lock := some c }
      else some (s.setClaim c .finished)
    | _, _ => none
  | .commitClaim c jobIds =>
    match s.claims c with
    | some (.locked now) =>
      some { s.setClaim c .finished with
        lock := none, jobs := claimPending s.jobs jobIds hostId now }
    | _ => none
  | .beginUpgrade u holder abortRunningJobs =>
    if (s.upgrades u).isSome then none
    else some (s.setUpgrade u ⟨holder, abortRunningJobs, .entered⟩ (enterUpgrade s.host))
  | .acquire u later configured => do
    let call ← s.upgrades u
    if call.phase = .entered ∧ s.lock = none ∧ s.now ≤ later then
      match acquireMaintenanceWindow s.host call.holder configured s.now later with
      | none => return s.setUpgrade u call (.rejected .maintenanceConflict)
      | some row =>
        return { s.setUpgrade u call .opened with now := later, host := some row, opener := some u }
    else none
  | .checkActive u pendingIds => do
    let call ← s.upgrades u
    if call.phase = .opened then
      return s.setUpgrade u call
        (checkActiveJobs (activeJobsForHost s.jobs hostId) pendingIds call.abortRunningJobs)
    else none
  | .poll u timedOut => do
    let call ← s.upgrades u
    if call.phase = .draining then
      return s.setUpgrade u call (pollActiveJobs (activeJobsForHost s.jobs hostId) timedOut)
    else none
  | .fail u => do
    let call ← s.upgrades u
    if call.phase.mayFail then return s.setUpgrade u call (.rejecting .other) else none
  | .finish u => do
    let call ← s.upgrades u
    if call.phase = .passed then return s.setUpgrade u call .returned else none
  | .reject u => do
    let call ← s.upgrades u
    match call.phase with
    | .rejecting e =>
      if s.lock = none then return (s.release call.holder).setUpgrade u call (.rejected e)
      else none
    | _ => none
  | .endUpgrade _ holder => if s.lock = none then some (s.release holder) else none

/-- A step, as a relation. -/
def GateStep (hostId : String) (s : GateState) (op : GateOp) (s' : GateState) : Prop :=
  gateStep hostId s op = some s'

/-- Before anything was called: whatever the row of the host and the jobs are. -/
structure GateState.Fresh (s : GateState) : Prop where
  upgrades : ∀ u, s.upgrades u = none
  claims : ∀ c, s.claims c = none
  lock : s.lock = none
  opener : s.opener = none

/-! ### The commit of a claim -/

/-- Claiming keeps the key of a job. -/
theorem id_claim (job : JobInstance) (hostId : String) (now : Time) :
    Row.id (job.claim hostId now) = job.id := rfl

/-- So does claiming some jobs and not others. -/
theorem id_ite_claim (p : Prop) [Decidable p] (job : JobInstance) (hostId : String) (now : Time) :
    Row.id (if p then job.claim hostId now else job) = job.id := by
  split_ifs
  · exact id_claim job hostId now
  · rfl

/-- One more job is claimed. -/
theorem claimPending_append {jobs : Table JobInstance} {jobIds : List ℕ} {job : JobInstance}
    (hjob : jobs.get? job.id = some job) (hpending : job.status = .pending)
    (hostId : String) (now : Time) :
    (claimPending jobs jobIds hostId now).save (job.claim hostId now) =
      claimPending jobs (jobIds ++ [job.id]) hostId now := by
  refine Table.ext ?_ rfl
  change (jobs.rows.map _).map _ = jobs.rows.map _
  rw [List.map_map]
  refine List.map_congr_left fun row hrow => ?_
  by_cases hid : row.id = job.id
  · obtain rfl := Table.eq_of_id_eq hrow (Table.mem_of_get? hjob) hid
    simp [hpending, id_ite_claim, id_claim]
  · simp [hid, id_ite_claim, id_claim]

/-- The loop of a claim that is alone claims the jobs it returns. -/
theorem claimLoop_jobs {w : Surroundings} (hothers : ∀ k db, w.others k db = db) {now : Time}
    {hostId agentInstanceId : String} {jobs : Table JobInstance} {todo : List JobInstance}
    {k : ℕ} {st st' : ClaimState}
    (htodo : ∀ job ∈ todo, jobs.get? job.id = some job ∧ job.status = .pending)
    (hst : st.db.jobs = claimPending jobs (st.claimed.map JobInstance.id) hostId now)
    (h : claimLoop w now hostId agentInstanceId k st todo = .ok st') :
    st'.db.jobs = claimPending jobs (st'.claimed.map JobInstance.id) hostId now := by
  induction todo generalizing k st with
  | nil =>
      cases h
      exact hst
  | cons job rest ih =>
      rw [claimLoop, hothers] at h
      obtain ⟨mid, hattempt, hloop⟩ := Except.bind_eq_ok_iff.mp h
      obtain ⟨mid', hattempt', hcases⟩ := claimAttempt_cases now hostId agentInstanceId st job
      obtain rfl : mid' = mid := Except.ok.inj (hattempt'.symm.trans hattempt)
      refine ih (fun job hjob => htodo job (List.mem_cons_of_mem _ hjob)) ?_ hloop
      rcases hcases with rfl | ⟨lease, hstep⟩
      · exact hst
      · obtain ⟨hrow, hpending⟩ := htodo job (List.mem_cons_self ..)
        rw [hstep.jobs, hstep.claimed, List.map_append, hst, claimPending_append hrow hpending]
        rfl

/-- Nobody else commits anything. -/
theorem onlyOthers_of_alone {w : Surroundings} (hothers : ∀ k db, w.others k db = db) (k : ℕ)
    (db : Db) (jobs : List JobInstance) : onlyOthers w k db jobs = db := by
  induction jobs generalizing k with
  | nil => rfl
  | cons job rest ih => rw [onlyOthers, hothers, ih]

/-- **A claim commits like one step.** A claim that is alone with the tables makes the jobs it
returns run on its host, and changes no other job. -/
theorem claimJobsForHost_jobs {w : Surroundings} (hothers : ∀ k db, w.others k db = db) {db : Db}
    {now : Time} {hostId : String} {capacity : ℤ} {agentInstanceId : String} {r : ClaimResult}
    (h : claimJobsForHost w db now hostId capacity agentInstanceId = .ok r) :
    r.db.jobs = claimPending db.jobs (r.claimed.map JobInstance.id) hostId now := by
  have hnone : db.jobs = claimPending db.jobs [] hostId now :=
    (Table.update_eq_self fun _ _ => rfl).symm
  rw [claimJobsForHost] at h
  split_ifs at h with hmay
  · cases h
    exact hnone
  · obtain ⟨st, hloop, hr⟩ := Except.bind_eq_ok_iff.mp h
    cases hr
    have hreads : (claimReads w db hostId capacity).db = db := by
      simp only [claimReads, hothers]
    have htodo : ∀ job ∈ (claimReads w db hostId capacity).jobs,
        db.jobs.get? job.id = some job ∧ job.status = .pending := by
      intro job hjob
      have hspec := (lockPendingJobs_spec w _ _ _).2.2 job hjob
      rw [hothers, hothers, hothers] at hspec
      exact ⟨hspec.1, hspec.2.1⟩
    have hjobs : st.db.jobs = claimPending db.jobs (st.claimed.map JobInstance.id) hostId now := by
      refine claimLoop_jobs hothers htodo ?_ hloop
      rw [hreads]
      exact hnone
    rw [finishClaim]
    dsimp only
    split_ifs with hempty
    · rw [List.isEmpty_iff.mp hempty, onlyOthers_of_alone hothers, hreads]
      exact hnone
    · exact hjobs

/-- Two jobs are claimed together. -/
theorem claimJobsForHost_jobs_two :
    ∃ r, claimJobsForHost { ClaimExample.surroundings with others := fun _ db => db }
      ClaimExample.db 60 "host" 5 "agent" = .ok r ∧
        r.db.jobs = claimPending ClaimExample.db.jobs [1, 2] "host" 60 := by
  have hids : (claimJobsForHost { ClaimExample.surroundings with others := fun _ db => db }
      ClaimExample.db 60 "host" 5 "agent").toOption.map
        (fun r => r.claimed.map JobInstance.id) = some [1, 2] := by decide +kernel
  obtain ⟨r, hr, hclaimed⟩ := Option.map_eq_some_iff.mp hids
  have hok := Except.toOption_eq_some_iff.mp hr
  have hjobs := claimJobsForHost_jobs (fun _ _ => rfl) hok
  rw [hclaimed] at hjobs
  exact ⟨r, hok, hjobs⟩

end StabilityPlatform
