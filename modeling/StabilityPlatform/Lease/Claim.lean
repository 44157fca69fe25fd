import StabilityPlatform.Lease.LeaseManager
import StabilityPlatform.Lib.Fold
import StabilityPlatform.Lib.StableSort
import StabilityPlatform.PlanRun.Classification

/-!
# Claiming jobs

An agent asks for work. The control plane locks the row of the host, lists the devices of the
host that are in service, drops those with an active lease, locks the first pending job of each
device that is left, and then starts these jobs one by one, each inside a savepoint: the job is
set running, a lease is acquired, and when no lease is to be had the savepoint is rolled back.

Between any two statements other transactions commit what they like, except that they cannot
write the rows of the locked jobs, and write no lease of a job whose row they do not hold.

## Main results

* `claimJobsForHost`: the claim.
* `claimAttempt_cases`: what one attempt does.
* `claim_safe`: what one claim guarantees.
-/

namespace StabilityPlatform

open Lib

/-! ### The state machine of jobs -/

/-- The statuses a job may go to. -/
def JobStatus.validTransitions : JobStatus → List JobStatus
  | .pending => [.running, .failed, .aborted]
  | .running => [.completed, .failed, .aborted, .unknown]
  | .unknown => [.running, .failed]
  | .failed | .completed | .aborted => []

/-- Move a job to a status; `none` is an invalid transition. -/
def JobInstance.transition (job : JobInstance) (newStatus : JobStatus) (reason : String)
    (now : Time) : Option JobInstance :=
  if newStatus ∈ job.status.validTransitions then
    some { job with status := newStatus, statusReason := some reason, updatedAt := now }
  else none

/-- A transition changes status, reason and time of the update. -/
theorem JobInstance.transition_eq_some_iff {job job' : JobInstance} {newStatus : JobStatus}
    {reason : String} {now : Time} :
    job.transition newStatus reason now = some job' ↔
      newStatus ∈ job.status.validTransitions ∧
        job' = { job with status := newStatus, statusReason := some reason, updatedAt := now } := by
  rw [transition]
  split_ifs with h
  · simp [h, eq_comm]
  · simp [h]

/-! ### What a claim reads -/

/-- The columns of a device that heartbeats report. -/
structure DeviceHealth where
  adbConnected : Option Bool
  adbState : Option String
  status : DeviceStatus

/-- The columns of a host that decide whether it may claim. -/
structure HostGate where
  status : HostStatus
  retiredAt : Option Time
  maintenanceUntil : Option Time

/-- What a claim meets: the columns it alone reads, the rows other transactions have locked, and
what they commit before each of its statements. -/
structure Surroundings where
  createdAt : ℕ → Time
  health : ℕ → DeviceHealth
  host : String → Option HostGate
  lockedElsewhere : ℕ → Bool
  others : ℕ → Db → Db

/-- Whether the host may claim: it is online, in service and not maintained. -/
def mayClaim (w : Surroundings) (hostId : String) (now : Time) : Bool :=
  match w.host hostId with
  | none => false
  | some host =>
    host.status == .online && host.retiredAt.isNone &&
      !inMaintenanceWindow host.maintenanceUntil now

/-- Whether a device is not known to be out of order. -/
def DeviceHealth.fit (health : DeviceHealth) : Bool :=
  health.adbConnected.getD true && health.status != .offline &&
    !(["offline", "unknown"].contains (health.adbState.getD "device"))

/-- The devices of a host that are in service. -/
def allDevices (w : Surroundings) (db : Db) (hostId : String) : List Device :=
  db.devices.select fun device =>
    device.hostId == some hostId && device.retiredAt.isNone && (w.health device.id).fit

/-- The listed devices without an active lease. -/
def freeDeviceIds (devices : List Device) (db : Db) : List ℕ :=
  (devices.map Device.id).filter fun deviceId => (db.activeLease deviceId).isNone

/-- The pending jobs of running plan runs on free devices. -/
def rankedJobs (db : Db) (free : List ℕ) : List JobInstance :=
  db.jobs.select fun job =>
    free.contains job.deviceId && job.status == .pending &&
      (db.planRuns.get? job.planRunId).any fun run => run.status == .running

/-- Whether a job is the first of its device. -/
def isFirst (w : Surroundings) (ranked : List JobInstance) (job : JobInstance) : Bool :=
  ranked.all fun other =>
    other.deviceId != job.deviceId || w.createdAt job.id < w.createdAt other.id ||
      w.createdAt job.id == w.createdAt other.id && job.id ≤ other.id

/-- The jobs a claim locks: the first of each device, oldest first, passing over those that
others have locked. -/
def lockPendingJobs (w : Surroundings) (db : Db) (free : List ℕ) (capacity : ℤ) :
    List JobInstance :=
  if 0 < capacity ∧ free ≠ [] then
    let ranked := rankedJobs db free
    let first := sortBy (fun job => w.createdAt job.id) (ranked.filter (isFirst w ranked))
    (first.filter fun job => !w.lockedElsewhere job.id).take capacity.toNat
  else []

/-- What a claim has read when it starts. -/
structure ClaimReads where
  devices : List Device
  free : List ℕ
  jobs : List JobInstance
  db : Db

/-- The reads of a claim, one statement each. -/
def claimReads (w : Surroundings) (db : Db) (hostId : String) (capacity : ℤ) : ClaimReads :=
  let listed := w.others 0 db
  let devices := allDevices w listed hostId
  let looked := w.others 1 listed
  let free := freeDeviceIds devices looked
  let locked := w.others 2 looked
  { devices := devices
    free := free
    jobs := lockPendingJobs w locked free (min capacity free.length)
    db := locked }

/-! ### The loop -/

/-- The state of the loop. -/
structure ClaimState where
  db : Db
  claimed : List JobInstance := []
  claimedDeviceIds : List ℕ := []
  fencingTokens : List (ℕ × String) := []

/-- A job, started. -/
def JobInstance.start (job : JobInstance) (hostId : String) (now : Time) : JobInstance :=
  { job with hostId := some hostId, startedAt := some now }

/-- Try one job. Without a lease, or when the job may not start, the savepoint is rolled back. -/
def claimAttempt (now : Time) (hostId agentInstanceId : String) (st : ClaimState)
    (job : JobInstance) : Except PyError ClaimState :=
  if job.deviceId ∈ st.claimedDeviceIds then .ok st
  else match job.transition .running "claimed_by_agent" now with
    | none => .ok st
    | some running =>
      let started := running.start hostId now
      match acquireLease { st.db with jobs := st.db.jobs.save started } now started.deviceId hostId
          .job agentInstanceId (some started.id) none none defaultLeaseSeconds with
      | .error e => .error e
      | .ok (none, _) => .ok st
      | .ok (some lease, db) => .ok {
          db := db
          claimed := st.claimed ++ [started]
          claimedDeviceIds := st.claimedDeviceIds ++ [started.deviceId]
          fencingTokens := st.fencingTokens ++ [(started.id, lease.fencingToken)] }

/-- Try the locked jobs one after the other. -/
def claimLoop (w : Surroundings) (now : Time) (hostId agentInstanceId : String) :
    ℕ → ClaimState → List JobInstance → Except PyError ClaimState
  | _, st, [] => .ok st
  | k, st, job :: rest => do
    let st ← claimAttempt now hostId agentInstanceId { st with db := w.others k st.db } job
    claimLoop w now hostId agentInstanceId (k + 1) st rest

/-- What others committed during a loop over so many jobs. -/
def onlyOthers (w : Surroundings) : ℕ → Db → List JobInstance → Db
  | _, db, [] => db
  | k, db, _ :: rest => onlyOthers w (k + 1) (w.others k db) rest

/-- What a claim returns. -/
structure ClaimResult where
  claimed : List JobInstance
  fencingTokens : List (ℕ × String)
  db : Db

/-- The end of a claim: commit when something was claimed, roll back when nothing was. -/
def finishClaim (w : Surroundings) (reads : ClaimReads) (st : ClaimState) : ClaimResult where
  claimed := st.claimed
  fencingTokens := st.fencingTokens
  db := if st.claimed.isEmpty then onlyOthers w 3 reads.db reads.jobs else st.db

/-- Claim jobs for a host. -/
def claimJobsForHost (w : Surroundings) (db : Db) (now : Time) (hostId : String) (capacity : ℤ)
    (agentInstanceId : String) : Except PyError ClaimResult :=
  if !mayClaim w hostId now then .ok ⟨[], [], db⟩
  else do
    let reads := claimReads w db hostId capacity
    let st ← claimLoop w now hostId agentInstanceId 3 { db := reads.db } reads.jobs
    return finishClaim w reads st

/-! ### One attempt -/

/-- An acquire whose arguments fit its type does not raise. -/
theorem acquireLease_ne_error {db : Db} {now : Time} {deviceId : ℕ} {hostId : String}
    {leaseType : LeaseType} {agentInstanceId : String} {jobId : Option ℕ}
    {reason holder : Option String} {leaseSeconds : ℤ} {e : PyError}
    (hcontract : leaseContract leaseType jobId reason holder = true) :
    acquireLease db now deviceId hostId leaseType agentInstanceId jobId reason holder
      leaseSeconds ≠ .error e := by
  rw [acquireLease, hcontract, Bool.not_true, if_neg Bool.false_ne_true]
  cases hdevice : db.devices.get? deviceId with
  | none => simp
  | some device =>
      dsimp only
      split_ifs
      · simp
      · simp
      · split <;> simp

/-- The leases of a job. -/
def Db.jobLeases (db : Db) (jobId : ℕ) : List DeviceLease :=
  db.leases.select fun l => l.jobId == some jobId

/-- A job as a claim leaves it. -/
def JobInstance.claim (job : JobInstance) (hostId : String) (now : Time) : JobInstance :=
  JobInstance.start { job with
    status := .running, statusReason := some "claimed_by_agent", updatedAt := now } hostId now

/-- What a successful attempt did. -/
structure Attempted (now : Time) (hostId : String) (job : JobInstance) (lease : DeviceLease)
    (st st' : ClaimState) : Prop where
  device : job.deviceId ∉ st.claimedDeviceIds
  jobs : st'.db.jobs = st.db.jobs.save (job.claim hostId now)
  leases : st'.db.leases.rows = st.db.leases.rows ++ [lease]
  active : lease.status = .active
  jobId : lease.jobId = some job.id ∧ lease.leaseType = .job
  place : lease.deviceId = job.deviceId ∧ lease.hostId = hostId
  token : lease.fencingToken = fencingToken job.deviceId lease.leaseGeneration
  claimed : st'.claimed = st.claimed ++ [job.claim hostId now]
  deviceIds : st'.claimedDeviceIds = st.claimedDeviceIds ++ [job.deviceId]
  tokens : st'.fencingTokens = st.fencingTokens ++ [(job.id, lease.fencingToken)]

/-- **An attempt leaves everything as it was, or claims the job.** -/
theorem claimAttempt_cases (now : Time) (hostId agentInstanceId : String) (st : ClaimState)
    (job : JobInstance) :
    ∃ st', claimAttempt now hostId agentInstanceId st job = .ok st' ∧
      (st' = st ∨ ∃ lease, Attempted now hostId job lease st st') := by
  rw [claimAttempt]
  split_ifs with hdevice
  · exact ⟨st, rfl, .inl rfl⟩
  · cases htransition : job.transition .running "claimed_by_agent" now with
    | none => exact ⟨st, rfl, .inl rfl⟩
    | some running =>
        obtain ⟨-, rfl⟩ := JobInstance.transition_eq_some_iff.mp htransition
        dsimp only
        split
        · rename_i e hacquire
          exact absurd hacquire (acquireLease_ne_error rfl)
        · exact ⟨st, rfl, .inl rfl⟩
        · rename_i lease db hacquire
          obtain ⟨device, -, -, -, hlease, hdb⟩ := acquireLease_eq_some hacquire
          refine ⟨_, rfl, .inr ⟨lease, ?_⟩⟩
          subst hlease hdb
          exact ⟨hdevice, rfl, rfl, rfl, ⟨rfl, rfl⟩, ⟨rfl, rfl⟩, rfl, rfl, rfl, rfl⟩

/-! ### What others leave alone -/

/-- The rows of these jobs and their leases are as they were. -/
structure SameFor (jobIds : List ℕ) (db db' : Db) : Prop where
  jobs : ∀ jobId ∈ jobIds, db'.jobs.get? jobId = db.jobs.get? jobId
  leases : ∀ jobId ∈ jobIds, db'.jobLeases jobId = db.jobLeases jobId

/-- An attempt leaves the rows and leases of other jobs. -/
theorem Attempted.same {now : Time} {hostId : String} {job : JobInstance} {lease : DeviceLease}
    {st st' : ClaimState} (h : Attempted now hostId job lease st st') {jobId : ℕ}
    (hne : jobId ≠ job.id) : SameFor [jobId] st.db st'.db := by
  constructor
  · intro i hi
    obtain rfl := List.mem_singleton.mp hi
    have hrow : Row.id (job.claim hostId now) ≠ i := Ne.symm hne
    rw [h.jobs, Table.get?_save]
    simp [hrow]
  · intro i hi
    obtain rfl := List.mem_singleton.mp hi
    have hother : (lease.jobId == some i) = false := by
      rw [h.jobId.1]
      simpa using Ne.symm hne
    rw [Db.jobLeases, Db.jobLeases, Table.select, Table.select, h.leases, List.filter_append]
    simp [hother]

/-! ### The loop -/

/-- What a claimed job is given. -/
structure Claimed (start db : Db) (tokens : List (ℕ × String)) (hostId : String)
    (job : JobInstance) : Prop where
  stored : db.jobs.get? job.id = some job
  running : job.status = .running
  host : job.hostId = some hostId
  /-- It has one lease more than before, active, for this job, device and host, and its token is
  the one that is returned. -/
  lease : ∃ lease, db.jobLeases job.id = start.jobLeases job.id ++ [lease] ∧
    lease.status = .active ∧ lease.leaseType = .job ∧ lease.deviceId = job.deviceId ∧
    lease.hostId = hostId ∧ lease.fencingToken = fencingToken job.deviceId lease.leaseGeneration ∧
    tokens.lookup job.id = some lease.fencingToken

/-- What holds between attempts. `all` are the locked jobs, `done` those tried. -/
structure LoopInv (start : Db) (hostId : String) (all done : List JobInstance)
    (st : ClaimState) : Prop where
  tried : (st.claimed.map JobInstance.id).Sublist (done.map JobInstance.id)
  devices : ∀ job ∈ st.claimed, ∃ c ∈ all, c.id = job.id ∧ c.deviceId = job.deviceId
  deviceIds : st.claimedDeviceIds = st.claimed.map JobInstance.deviceId
  nodup : st.claimedDeviceIds.Nodup
  tokens : st.fencingTokens.map Prod.fst = st.claimed.map JobInstance.id
  claimed : ∀ job ∈ st.claimed, Claimed start st.db st.fencingTokens hostId job
  left : ∀ job ∈ all, job.id ∉ st.claimed.map JobInstance.id →
    st.db.jobs.get? job.id = some job ∧ st.db.jobLeases job.id = start.jobLeases job.id

/-- What a claimed job is given stays, when its row and leases do. -/
theorem Claimed.mono {start db db' : Db} {tokens tokens' : List (ℕ × String)} {hostId : String}
    {job : JobInstance} (h : Claimed start db tokens hostId job)
    (hsame : SameFor [job.id] db db')
    (htokens : ∀ token, tokens.lookup job.id = some token → tokens'.lookup job.id = some token) :
    Claimed start db' tokens' hostId job := by
  obtain ⟨lease, hleases, hactive, htype, hdevice, hhost, htoken, hlookup⟩ := h.lease
  refine ⟨?_, h.running, h.host, lease, ?_, hactive, htype, hdevice, hhost, htoken,
    htokens _ hlookup⟩
  · rw [hsame.jobs _ (List.mem_singleton_self _), h.stored]
  · rw [hsame.leases _ (List.mem_singleton_self _), hleases]

/-- What others commit between attempts does no harm. -/
theorem LoopInv.interfere {start db' : Db} {hostId : String} {all done : List JobInstance}
    {st : ClaimState} (h : LoopInv start hostId all done st)
    (hsame : SameFor (all.map JobInstance.id) st.db db') :
    LoopInv start hostId all done { st with db := db' } := by
  refine ⟨h.tried, h.devices, h.deviceIds, h.nodup, h.tokens, fun job hjob => ?_,
    fun job hjob hleft => ?_⟩
  · obtain ⟨c, hc, hid, -⟩ := h.devices job hjob
    have hmem : job.id ∈ all.map JobInstance.id := hid ▸ List.mem_map_of_mem hc
    refine (h.claimed job hjob).mono ⟨?_, ?_⟩ fun _ => id
    · intro i hi
      obtain rfl := List.mem_singleton.mp hi
      exact hsame.jobs _ hmem
    · intro i hi
      obtain rfl := List.mem_singleton.mp hi
      exact hsame.leases _ hmem
  · obtain ⟨hrow, hleases⟩ := h.left job hjob hleft
    have hmem : job.id ∈ all.map JobInstance.id := List.mem_map_of_mem hjob
    exact ⟨(hsame.jobs _ hmem).trans hrow, (hsame.leases _ hmem).trans hleases⟩

/-- A successful attempt keeps the invariant. -/
theorem LoopInv.attempted {start : Db} {now : Time} {hostId : String}
    {all done : List JobInstance} {job : JobInstance} {lease : DeviceLease} {st st' : ClaimState}
    (h : LoopInv start hostId all done st) (hjob : job ∈ all)
    (hnew : job.id ∉ done.map JobInstance.id)
    (hstep : Attempted now hostId job lease st st') :
    LoopInv start hostId all (done ++ [job]) st' := by
  have hunclaimed : job.id ∉ st.claimed.map JobInstance.id := fun hin =>
    hnew (h.tried.subset hin)
  have hold : ∀ other ∈ st.claimed, other.id ≠ job.id := fun other hother heq =>
    hunclaimed (heq ▸ List.mem_map_of_mem hother)
  obtain ⟨hrow, hleases⟩ := h.left job hjob hunclaimed
  refine ⟨?_, ?_, ?_, ?_, ?_, ?_, ?_⟩
  · rw [hstep.claimed, List.map_append, List.map_append]
    exact h.tried.append (List.Sublist.refl _)
  · rw [hstep.claimed]
    intro other hother
    rcases List.mem_append.mp hother with hin | hin
    · exact h.devices other hin
    · rw [List.mem_singleton.mp hin]
      exact ⟨job, hjob, rfl, rfl⟩
  · rw [hstep.deviceIds, hstep.claimed, h.deviceIds, List.map_append]
    rfl
  · rw [hstep.deviceIds]
    exact h.nodup.append (List.nodup_singleton _)
      (by simpa [List.disjoint_singleton] using hstep.device)
  · rw [hstep.tokens, hstep.claimed, List.map_append, List.map_append, h.tokens]
    rfl
  · rw [hstep.claimed]
    intro other hother
    rcases List.mem_append.mp hother with hin | hin
    · refine (h.claimed other hin).mono (hstep.same (hold other hin)) fun token htoken => ?_
      rw [hstep.tokens, List.lookup_append, htoken]
      rfl
    · obtain rfl := List.mem_singleton.mp hin
      have hnone : st.fencingTokens.lookup job.id = none :=
        Dict.lookup_eq_none (by rwa [h.tokens])
      refine ⟨?_, rfl, rfl, lease, ?_, hstep.active, hstep.jobId.2, hstep.place.1, hstep.place.2,
        hstep.token, ?_⟩
      · rw [hstep.jobs, Table.get?_save]
        change (st.db.jobs.get? job.id).map _ = _
        rw [hrow]
        exact congrArg some (if_pos rfl)
      · change st'.db.jobLeases job.id = start.jobLeases job.id ++ [lease]
        rw [← hleases, Db.jobLeases, Db.jobLeases, Table.select, Table.select, hstep.leases,
          List.filter_append]
        simp [hstep.jobId.1]
      · change st'.fencingTokens.lookup job.id = _
        rw [hstep.tokens, List.lookup_append, hnone]
        simp
  · rw [hstep.claimed]
    intro other hother hleft
    rw [List.map_append, List.mem_append, not_or] at hleft
    have hne : other.id ≠ job.id := fun heq => hleft.2 (List.mem_singleton.mpr heq)
    obtain ⟨hrow', hleases'⟩ := h.left other hother hleft.1
    have hsame := hstep.same hne
    exact ⟨(hsame.jobs _ (List.mem_singleton_self _)).trans hrow',
      (hsame.leases _ (List.mem_singleton_self _)).trans hleases'⟩

/-- **The loop keeps the invariant**, and when it claims nothing it leaves what others
committed. -/
theorem claimLoop_spec {w : Surroundings} {now : Time} {hostId agentInstanceId : String}
    {start : Db} {all : List JobInstance} (hall : (all.map JobInstance.id).Nodup)
    {todo : List JobInstance} {k : ℕ} {done : List JobInstance} {st : ClaimState}
    (hsplit : all = done ++ todo)
    (hothers : ∀ k' ≥ k, ∀ db, SameFor (all.map JobInstance.id) db (w.others k' db))
    (h : LoopInv start hostId all done st) :
    ∃ st', claimLoop w now hostId agentInstanceId k st todo = .ok st' ∧
      LoopInv start hostId all all st' ∧ st.claimed.length ≤ st'.claimed.length ∧
      (st'.claimed = [] → st'.db = onlyOthers w k st.db todo) := by
  induction todo generalizing k done st with
  | nil =>
      rw [List.append_nil] at hsplit
      exact ⟨st, rfl, hsplit ▸ h, le_rfl, fun _ => rfl⟩
  | cons job rest ih =>
      have hjob : job ∈ all := by simp [hsplit]
      have hnew : job.id ∉ done.map JobInstance.id := by
        rw [hsplit, List.map_append, List.map_cons] at hall
        exact fun hin => (List.nodup_append.mp hall).2.2 _ hin _ (List.mem_cons_self ..) rfl
      have hsplit' : all = done ++ [job] ++ rest := by simp [hsplit]
      have hmid := h.interfere (hothers k le_rfl st.db)
      obtain ⟨mid, hattempt, hcases⟩ :=
        claimAttempt_cases now hostId agentInstanceId { st with db := w.others k st.db } job
      have hinv : LoopInv start hostId all (done ++ [job]) mid := by
        rcases hcases with rfl | ⟨lease, hstep⟩
        · have hmore : (done.map JobInstance.id).Sublist ((done ++ [job]).map JobInstance.id) := by
            rw [List.map_append]
            exact List.sublist_append_left ..
          exact { hmid with tried := hmid.tried.trans hmore }
        · exact hmid.attempted hjob hnew hstep
      obtain ⟨st', hloop, hinv', hlength, hnothing⟩ :=
        ih (k := k + 1) hsplit' (fun k' hk' => hothers k' (by omega)) hinv
      have hmidlength : st.claimed.length ≤ mid.claimed.length := by
        rcases hcases with rfl | ⟨lease, hstep⟩
        · exact le_rfl
        · rw [hstep.claimed]
          simp
      refine ⟨st', ?_, hinv', by omega, fun hempty => ?_⟩
      · rw [claimLoop, hattempt]
        exact hloop
      · rw [hnothing hempty]
        rcases hcases with rfl | ⟨lease, hstep⟩
        · rfl
        · rw [hempty, hstep.claimed] at hlength
          simp at hlength

/-! ### The claim -/

/-- The jobs a claim tries. -/
def candidates (w : Surroundings) (db : Db) (now : Time) (hostId : String) (capacity : ℤ) :
    List JobInstance :=
  if mayClaim w hostId now then (claimReads w db hostId capacity).jobs else []

/-- The locked jobs are pending jobs on free devices, each once, and no more than fit. -/
theorem lockPendingJobs_spec (w : Surroundings) (db : Db) (free : List ℕ) (capacity : ℤ) :
    (lockPendingJobs w db free capacity).length ≤ capacity.toNat ∧
      ((lockPendingJobs w db free capacity).map JobInstance.id).Nodup ∧
      ∀ job ∈ lockPendingJobs w db free capacity, db.jobs.get? job.id = some job ∧
        job.status = .pending ∧ job.deviceId ∈ free := by
  rw [lockPendingJobs]
  split_ifs
  · refine ⟨List.length_take_le _ _, ?_, fun job hjob => ?_⟩
    · refine List.Nodup.sublist ((List.take_sublist _ _).map _) ?_
      refine List.Nodup.sublist (List.filter_sublist.map _) ?_
      refine ((sortBy_perm _ _).map _).nodup_iff.mpr ?_
      exact List.Nodup.sublist ((List.filter_sublist.trans List.filter_sublist).map _) db.jobs.nodup
    · have hfirst := mem_sortBy.mp (List.mem_of_mem_filter (List.mem_of_mem_take hjob))
      obtain ⟨hrow, hcond⟩ := Table.mem_select.mp (List.mem_of_mem_filter hfirst)
      simp only [Bool.and_eq_true, List.contains_iff_mem, beq_iff_eq] at hcond
      exact ⟨Table.get?_eq_some_iff.mpr ⟨hrow, rfl⟩, hcond.1.2, hcond.1.1⟩
  · simp

/-- **A claim is safe.** Whatever the tables hold and whatever others commit between its
statements, as long as they leave the rows of the locked jobs and their leases: at most the free
capacity of jobs is claimed, no device gets two, every claimed job runs on a device of the host
under a new active lease whose token is the one returned, and every other job that was tried is
pending and has the row and the leases it had. -/
theorem claim_safe (w : Surroundings) (db : Db) (now : Time) (hostId : String) (capacity : ℤ)
    (agentInstanceId : String)
    (hothers : ∀ k ≥ 3, ∀ db', SameFor ((candidates w db now hostId capacity).map JobInstance.id)
      db' (w.others k db')) :
    ∃ r, claimJobsForHost w db now hostId capacity agentInstanceId = .ok r ∧
      r.claimed.length ≤ (min capacity (claimReads w db hostId capacity).free.length).toNat ∧
      (r.claimed.map JobInstance.deviceId).Nodup ∧
      (∀ job ∈ r.claimed,
        Claimed (claimReads w db hostId capacity).db r.db r.fencingTokens hostId job ∧
        ∃ device ∈ (w.others 0 db).devices.rows, device.id = job.deviceId ∧
          device.hostId = some hostId) ∧
      ∀ job ∈ candidates w db now hostId capacity, job.id ∉ r.claimed.map JobInstance.id →
        job.status = .pending ∧ r.db.jobs.get? job.id = some job ∧
          r.db.jobLeases job.id = (claimReads w db hostId capacity).db.jobLeases job.id := by
  rw [claimJobsForHost]
  rw [candidates] at hothers ⊢
  cases hmay : mayClaim w hostId now with
  | false => exact ⟨⟨[], [], db⟩, rfl, by simp, by simp, by simp, by simp⟩
  | true =>
      rw [hmay, if_pos rfl] at hothers
      rw [if_neg (by decide), if_pos rfl]
      generalize hreads : claimReads w db hostId capacity = reads at hothers ⊢
      obtain ⟨hlength, hnodup, hjobs⟩ :=
        lockPendingJobs_spec w reads.db reads.free (min capacity reads.free.length)
      have hlocked : lockPendingJobs w reads.db reads.free (min capacity reads.free.length) =
          reads.jobs := hreads ▸ rfl
      rw [hlocked] at hlength hnodup hjobs
      have hstart : LoopInv reads.db hostId reads.jobs [] { db := reads.db } :=
        ⟨by simp, by simp, rfl, by simp, rfl, by simp, fun job hjob _ => ⟨(hjobs job hjob).1, rfl⟩⟩
      obtain ⟨st, hloop, hinv, -, hnothing⟩ :=
        @claimLoop_spec w now hostId agentInstanceId _ _ hnodup _ _ _ _
          (List.nil_append _).symm hothers hstart
      have hdb : (finishClaim w reads st).db = st.db := by
        rw [finishClaim]
        split_ifs with hempty
        · exact (hnothing (List.isEmpty_iff.mp hempty)).symm
        · rfl
      refine ⟨finishClaim w reads st, ?_, ?_, ?_, fun job hjob => ⟨?_, ?_⟩, fun job hjob hleft => ?_⟩
      · dsimp only
        rw [hloop]
        rfl
      · have htried := hinv.tried.length_le
        rw [List.length_map, List.length_map] at htried
        exact htried.trans hlength
      · exact hinv.deviceIds ▸ hinv.nodup
      · rw [hdb]
        exact hinv.claimed job hjob
      · obtain ⟨c, hc, -, hdevice⟩ := hinv.devices job hjob
        have hfree := (hjobs c hc).2.2
        rw [← hreads] at hfree
        obtain ⟨device, hlisted, hid⟩ := List.mem_map.mp (List.mem_of_mem_filter hfree)
        obtain ⟨hrow, hcond⟩ := Table.mem_select.mp hlisted
        simp only [Bool.and_eq_true, beq_iff_eq] at hcond
        exact ⟨device, hrow, hid.trans hdevice, hcond.1.1⟩
      · rw [hdb]
        exact ⟨(hjobs job hjob).2.1, hinv.left job hjob hleft⟩

/-! ### A device that is retired on the way -/

namespace ClaimExample

/-- A device of the host. -/
def device (id : ℕ) : Device where
  id := id
  serial := "serial"
  hostId := some "host"
  model := none
  platform := none
  leaseGeneration := 7
  retiredAt := none
  retiredBy := none
  retireReason := none
  retireAlertedAt := none
  returnState := none

/-- A pending job on the device with the same number. -/
def job (id : ℕ) : JobInstance where
  id := id
  planRunId := 1
  deviceId := id
  hostId := none
  status := .pending
  statusReason := none
  pipelineDef := .null
  startedAt := none
  endedAt := none
  terminalPayloadDigest := none
  disarmResults := .null
  disarmGuard := none
  lastExecutionHeartbeatAt := none
  lastProgressAt := none
  updatedAt := 0

/-- Two devices with a job each. -/
def db : Db where
  devices := ⟨[device 1, device 2], 3, by decide, by decide⟩
  leases := Table.empty
  debts := Table.empty
  jobs := ⟨[job 1, job 2], 3, by decide, by decide⟩
  traces := Table.empty
  planRuns := ⟨[⟨1, .running, .null⟩], 2, by decide, by decide⟩
  hosts := []

/-- Retire the second device. -/
def retire (db : Db) : Db := db.saveDevice { device 2 with retiredAt := some 50 }

/-- The second device is retired before its job is tried. -/
def surroundings : Surroundings where
  createdAt := fun jobId => jobId
  health := fun _ => ⟨none, none, .online⟩
  host := fun _ => some ⟨.online, none, none⟩
  lockedElsewhere := fun _ => false
  others := fun k db => if k = 4 then retire db else db

/-- The first job is claimed, the second one is left as it was. -/
theorem second_left : ∃ r, claimJobsForHost surroundings db 60 "host" 5 "agent" = .ok r ∧
    r.claimed.map JobInstance.id = [1] ∧ r.db.jobs.get? 2 = some (job 2) ∧
    r.db.jobLeases 2 = [] := by
  have hothers : ∀ k ≥ 3, ∀ db', SameFor
      ((candidates surroundings db 60 "host" 5).map JobInstance.id) db'
      (surroundings.others k db') := by
    intro k _ db'
    by_cases hk : k = 4
    · subst hk
      exact ⟨fun _ _ => rfl, fun _ _ => rfl⟩
    · have hsame : surroundings.others k db' = db' := if_neg hk
      rw [hsame]
      exact ⟨fun _ _ => rfl, fun _ _ => rfl⟩
  obtain ⟨r, hr, -, -, -, hleft⟩ := claim_safe surroundings db 60 "host" 5 "agent" hothers
  have hids : (claimJobsForHost surroundings db 60 "host" 5 "agent").toOption.map
      (fun r => r.claimed.map JobInstance.id) = some [1] := by decide
  rw [hr] at hids
  have hclaimed : r.claimed.map JobInstance.id = [1] := Option.some.inj hids
  have hcandidate : job 2 ∈ candidates surroundings db 60 "host" 5 :=
    List.mem_of_getElem? (i := 1) rfl
  obtain ⟨-, hrow, hleases⟩ := hleft _ hcandidate (by rw [hclaimed]; decide)
  exact ⟨r, hr, hclaimed, hrow, hleases⟩

end ClaimExample

end StabilityPlatform
